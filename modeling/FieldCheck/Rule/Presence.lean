import FieldCheck.Rule.Check
import FieldCheck.Value.Reading

/-!
# Presence

* `required` — fails only for empty values; a flag switches it off, a mode or the configuration
  makes it trim texts first.
* `accepted` — the ways to say yes.
* `confirm` — the value equals that of another field: the one named by the argument, else the field
  with the confirming ending, or the one without it.
* `optional`, `bail` — marks that always pass.
-/

set_option autoImplicit false

namespace FieldCheck.Rules

open Text

/-- A text is trimmed first if the mode or the configuration says so. -/
def trimmedFor (mode : Value) (c : Context) (v : Value) : Value :=
  match v with
  | .text s =>
    let trims := match mode with
      | .text m => m == "trim"
      | _ => false
    if trims || c.config.trimRequired then .text (trimString s) else .text s
  | v => v

/-- Fails only for empty values. -/
def required : Check := fun v args c =>
  match argument args 0, argument args 1 with
  | .error crash, _ => .error crash
  | _, .error crash => .error crash
  | .ok flag, .ok mode =>
    if !flag.isOn then .ok true else .ok (!(trimmedFor mode c v).isEmpty)

/-- The texts that say yes. -/
def acceptedTexts : List String := ["yes", "on", "1", "true"]

/-- Passes for the ways to say yes. -/
def accepted : Check := fun v _ _ =>
  .ok (match v with
    | .bool b => b
    | .int n => n == 1
    | .text s => acceptedTexts.contains s
    | _ => false)

/-- The ending of a field that confirms another. -/
def confirmEnding : List Char := "_confirm".toList

/-- The field that a field is compared with. -/
def partner (name : List Char) : List Char :=
  if confirmEnding.length < name.length && confirmEnding.isSuffixOf name then
    name.take (name.length - confirmEnding.length)
  else name ++ confirmEnding

/-- The field that is compared with, by the argument or by the name of the field. -/
def confirmTarget (args : List Value) (c : Context) : Except Crash Value :=
  match args with
  | arg :: _ => if arg.truthy then .ok arg else byName
  | [] => byName
where
  /-- The partner of the field under validation. -/
  byName : Except Crash Value :=
    match Context.filled c.fieldName with
    | some name => .ok (.text (String.ofList (partner name.toList)))
    | none => .error .missingTarget

/-- The value of another field that an argument names. -/
def siblingValue (c : Context) (target : Value) : Except Crash (Option Value) :=
  match target with
  | .text name => .ok (c.other? name)
  | v =>
    match v.unhashable? with
    | some part => .error (Crash.ofUnhashable part)
    | none => .ok none

/-- The value equals that of another field. -/
def confirm : Check := fun v args c =>
  match confirmTarget args c with
  | .error crash => .error crash
  | .ok target =>
    match siblingValue c target with
    | .error crash => .error crash
    | .ok none => .ok false
    | .ok (some other) => compareValues other v

/-- A mark that always passes. -/
def mark : Check := fun _ _ _ => .ok true

end FieldCheck.Rules
