import FieldCheck.Spec.Arguments
import FieldCheck.Spec.Fault
import FieldCheck.Spec.Name
import FieldCheck.Value.Written

/-!
# Specifications

A specification is a row of rules, evaluated from left to right.  It is written as a text,
`required|min:3,length|^email`, or given as a list of rules with arguments of any kind.

* `Rule.read` — one rule: an optional `^`, a name, and arguments behind a colon.
* `Spec.ofText`, `Spec.ofElements`, `Spec.ofValue` — the readers.
* `Spec.write` — the text of a specification all of whose arguments have a written form.
-/

set_option autoImplicit false

namespace FieldCheck

open Text

/-- A row of rules, and the text that they were read from, if they were. -/
structure Spec where
  rules : List (Rule Value) := []
  source : Option String := none

namespace Spec

/-- The names of the rules as written. -/
def names (s : Spec) : List String := s.rules.map Rule.name

/-- The specification as a value. -/
def toValue (s : Spec) : Value := .spec s.rules s.source

end Spec

/-- Whether an argument is a regular expression. -/
def Value.isRegex : Value → Bool
  | .pattern _ => true
  | .text s => isSlashed s.toList
  | _ => false

/-- Checks a name that has been trimmed. -/
def requireName (name : List Char) : Except RuleFault Unit :=
  if name.isEmpty then .error .emptyName
  else if isName name then .ok ()
  else .error (.invalidName (String.ofList name))

/-- Takes off a leading `^` and the blanks behind it. -/
def takeBail : List Char → Bool × List Char
  | '^' :: rest => (true, trim rest)
  | s => (false, s)

/-- The text in front of the first colon, and the text behind it. -/
def splitColon : List Char → List Char × Option (List Char)
  | [] => ([], none)
  | c :: rest =>
    if c = ':' then ([], some rest)
    else
      let (name, args) := splitColon rest
      (c :: name, args)

/-- Reads one rule. -/
def Rule.read (segment : List Char) : Except RuleFault (Rule Value) :=
  let (bail, body) := takeBail (trim segment)
  let (name, argText) := splitColon body
  let name := trim name
  match argText.elim (some []) splitArguments with
  | none => .error .unbalanced
  | some args =>
    match requireName name with
    | .error e => .error e
    | .ok () =>
      .ok
        { name := String.ofList name
          args := args.map fun a => .text (String.ofList a)
          isRegex := args.any isSlashed
          bail }

/-- Reads segments in order, the first one having number `index`. -/
def readSegments (source : String) : Nat → List (List Char) → Except SpecFault (List (Rule Value))
  | _, [] => .ok []
  | index, segment :: rest =>
    match Rule.read segment with
    | .error e => .error (.rule e (.segment source index))
    | .ok r =>
      match readSegments source (index + 1) rest with
      | .error e => .error e
      | .ok rs => .ok (r :: rs)

/-- Reads a rule with its arguments as given. -/
def Rule.ofParts (index : Nat) (element : Value) : List Value → Except SpecFault (Rule Value)
  | [] => .error (.emptyElement index)
  | .text s :: args =>
    let (bail, name) := takeBail (trim s.toList)
    match requireName name with
    | .error e => .error (.rule e (.element element.literalText index))
    | .ok () => .ok { name := String.ofList name, args, isRegex := args.any Value.isRegex, bail }
  | v :: _ => .error (.nameKind v.kind index)

/-- Reads one element of a list. -/
def Rule.ofElement (index : Nat) : Value → Except SpecFault (Rule Value)
  | .rule r => .ok r
  | .text s =>
    if s.toList.contains '|' then .error (.severalRules s index)
    else
      match Rule.read s.toList with
      | .error e => .error (.rule e (.segment s index))
      | .ok r => .ok r
  | .list items => Rule.ofParts index (.list items) items
  | .tuple items => Rule.ofParts index (.tuple items) items
  | v => .error (.elementKind v.kind index)

/-- Reads the elements of a list in order, the first one having number `index`. -/
def readElements : Nat → List Value → Except SpecFault (List (Rule Value))
  | _, [] => .ok []
  | index, element :: rest =>
    match Rule.ofElement index element with
    | .error e => .error e
    | .ok r =>
      match readElements (index + 1) rest with
      | .error e => .error e
      | .ok rs => .ok (r :: rs)

namespace Spec

/-- Reads a text; a blank one has no rules. -/
def ofText (s : String) : Except SpecFault Spec :=
  let raw := trim s.toList
  if raw.isEmpty then .ok { source := some s }
  else (readSegments s 0 (pieces '|' raw)).map fun rules => { rules, source := some s }

/-- Reads a list of rules. -/
def ofElements (items : List Value) : Except SpecFault Spec :=
  (readElements 0 items).map fun rules => { rules }

/-- Reads a specification of any kind. -/
def ofValue : Value → Except SpecFault Spec
  | .absent => .ok {}
  | .spec rules source => .ok { rules, source }
  | .rule r => .ok { rules := [r] }
  | .text s => ofText s
  | .list items | .tuple items => ofElements items
  | .bytes bs => ofElements (bs.map fun (b : Nat) => .int b)
  | v => .error (.specKind v.kind)

/-- The written form of an argument. -/
def writeArgument (rule : String) (arg : Value) : Except SpecFault (List Char) :=
  match arg.argumentForm? with
  | some s => .ok s
  | none => .error (.noForm rule arg.literalText)

/-- The written form of a rule. -/
def writeRule (r : Rule Value) : Except SpecFault (List Char) :=
  (r.args.mapM (writeArgument r.name)).map (ruleForm r.name r.bail)

/-- The text of a specification. -/
def write (s : Spec) : Except SpecFault String :=
  (s.rules.mapM writeRule).map fun texts => String.ofList (['|'].intercalate texts)

end Spec

end FieldCheck
