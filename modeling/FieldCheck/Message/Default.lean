import FieldCheck.Evaluation.Outcome
import FieldCheck.Message.Template
import FieldCheck.Text.Case

/-!
# Messages for failures

* `Phrase` — a part of a message: a fixed text, the label, or arguments.
* `Template` — how a message is made: from parts, from a written template, or by a function.
* `Template.shown`, `Template.messageWithin` — the arguments that a template writes out, and its message
  if all of them can be written.
* `standardTemplates` — the messages of the rules that are always there.
* `Messages` — templates by rule, with one for all others; `Messages.resolve` makes the message of
  a failing outcome.
-/

set_option autoImplicit false

namespace FieldCheck

open Message Text

/-- A part of a message. -/
inductive Phrase where
  | fixed (s : String)
  | label
  | capitalLabel
  /-- An argument, which has to be there. -/
  | argument (n : Nat)
  /-- An argument, or nothing. -/
  | argumentIfAny (n : Nat)
  /-- All arguments that are not absent. -/
  | arguments

/-- How a message is made. -/
inductive Template where
  | parts (ps : List Phrase)
  /-- One message if an argument says so, and another otherwise. -/
  | choice (test : List Value → Bool) (yes no : List Phrase)
  | written (s : String)
  | function (f : Outcome → String → String)

/-- All arguments that are not absent, separated by commas. -/
def argumentsText (args : List Value) : String :=
  ", ".intercalate ((args.filter fun v => match v with
    | .absent => false
    | _ => true).map Value.textForm)

/-- The name under which a template knows an argument. -/
def argumentName (n : Nat) : String := "arg" ++ toString n

/-- A part as text. -/
def Phrase.text (o : Outcome) (label : String) : Phrase → Except TemplateFault String
  | .fixed s => .ok s
  | .label => .ok label
  | .capitalLabel => .ok (capitalize label)
  | .argument n =>
    match o.args[n]? with
    | some v => .ok v.textForm
    | none => .error (.missingKey (argumentName n))
  | .argumentIfAny n => .ok ((o.args[n]?.map Value.textForm).getD "")
  | .arguments => .ok (argumentsText o.args)

/-- Parts one after the other. -/
def partsText (o : Outcome) (label : String) : List Phrase → Except TemplateFault String
  | [] => .ok ""
  | p :: rest =>
    match p.text o label with
    | .error fault => .error fault
    | .ok s =>
      match partsText o label rest with
      | .error fault => .error fault
      | .ok more => .ok (s ++ more)

/-- The values that a written template may name. -/
def templateValues (o : Outcome) (label : String) : Values :=
  [("label", .text label), ("Label", .text (capitalize label)),
    ("args", .text (argumentsText o.args)), ("rule", .text o.rule)] ++
    o.args.mapIdx fun n v => (argumentName n, v)

/-- The message that a template makes. -/
def Template.message (t : Template) (o : Outcome) (label : String) :
    Except TemplateFault String :=
  match t with
  | .parts ps => partsText o label ps
  | .choice test yes no => partsText o label (if test o.args then yes else no)
  | .written s => expand (templateValues o label) s
  | .function f => .ok (f o label)

/-- The arguments that a part writes out. -/
def Phrase.shown (args : List Value) : Phrase → List Value
  | .fixed _ | .label | .capitalLabel => []
  | .argument n | .argumentIfAny n => args[n]?.toList
  | .arguments => args

/-- The arguments that a template writes out.  A text with places for arguments has all of them
ready, whether it names them or not. -/
def Template.shown (t : Template) (args : List Value) : List Value :=
  match t with
  | .parts _ | .written _ => args
  | .choice test yes no => (if test args then yes else no).flatMap (Phrase.shown args)
  | .function _ => []

/-- The message that a template makes, where `room` nested calls are granted, or the first obstacle
among the arguments that it writes out. -/
def Template.messageWithin (room : Nat) (t : Template) (o : Outcome) (label : String) :
    Except TemplateFault String :=
  match (t.shown o.args).findSome? (Value.plainObstacle? room) with
  | some obstacle => .error (.unwritten obstacle)
  | none => t.message o label

/-- The message that begins with the label. -/
def about (s : String) : Template := .parts [.capitalLabel, .fixed s]

/-- Whether the second argument asks for lengths. -/
def asksLength (args : List Value) : Bool :=
  match args with
  | _ :: .text mode :: _ => mode == "length"
  | _ => false

/-- Whether there is a first argument that counts as true. -/
def hasFirst (args : List Value) : Bool :=
  match args with
  | v :: _ => v.truthy
  | [] => false

/-- The message about a size. -/
def sizeTemplate (comparison : String) : Template :=
  let front := [Phrase.capitalLabel, .fixed (" must be " ++ comparison ++ " "), .argumentIfAny 0]
  .choice asksLength (front ++ [.fixed " characters long."]) (front ++ [.fixed "."])

/-- The message about a moment. -/
def momentTemplate (direction usual : String) : Template :=
  .choice hasFirst
    [.capitalLabel, .fixed (" must be " ++ direction ++ " "), .argumentIfAny 0, .fixed "."]
    [.capitalLabel, .fixed (" must be " ++ usual ++ ".")]

/-- The messages of the rules that are always there. -/
def standardTemplates : List (String × Template) :=
  [("accepted", .parts [.fixed "Please accept the ", .label, .fixed "."]),
   ("after", momentTemplate "after" "in the future"),
   ("alpha", about " can only contain alphabetical characters."),
   ("alphanumeric", about " can only contain letters and numbers."),
   ("before", momentTemplate "before" "in the past"),
   ("between", .parts [.capitalLabel, .fixed " must be between ", .argument 0, .fixed " and ",
     .argument 1, .fixed "."]),
   ("confirm", about " does not match."),
   ("date", .choice hasFirst
     [.capitalLabel, .fixed " is not a valid date, please use the format ", .argumentIfAny 0,
       .fixed "."]
     [.capitalLabel, .fixed " is not a valid date."]),
   ("email", .parts [.fixed "Please enter a valid email address."]),
   ("ends_with", about " doesn't end with a valid value."),
   ("in", about " is not an allowed value."),
   ("matches", about " is not an allowed value."),
   ("max", sizeTemplate "at most"),
   ("mime", .parts [.capitalLabel, .fixed " must be of the type: ", .arguments, .fixed "."]),
   ("min", sizeTemplate "at least"),
   ("not", about " is not an allowed value."),
   ("number", about " must be a number."),
   ("required", about " is required."),
   ("starts_with", about " doesn't start with a valid value."),
   ("url", .parts [.fixed "Please include a valid url."])]

/-- Templates by rule, and one for all others. -/
structure Messages where
  overrides : List (String × Template) := []
  fallback : Template := about " is invalid."

namespace Messages

/-- The template of a rule; an override comes first. -/
def template (m : Messages) (rule : String) : Template :=
  ((m.overrides.lookup rule).or (standardTemplates.lookup rule)).getD m.fallback

/-- The message of a failing outcome, where `room` nested calls are granted. -/
def resolve (m : Messages) (o : Outcome) (label : String) (room : Nat := usualRoom) :
    Except TemplateFault String :=
  (m.template o.rule).messageWithin room o label

end Messages

end FieldCheck
