import FieldCheck.Regex.Matcher
import FieldCheck.Rule.Check
import FieldCheck.Spec.Basic
import FieldCheck.Value.Reading

/-!
# Choice

* `oneOf`, `noneOf` — the value is, or is not, one of the arguments.
* `patternOf` — the regular expression that an argument is: a pattern, or a text between slashes.
* `matchesAny` — the value is one of the arguments or matches one of them.
-/

set_option autoImplicit false

namespace FieldCheck.Rules

open Text

/-- The value is one of the arguments. -/
def oneOf : Check := fun v args _ => holdsAny (fun arg => compareValues arg v) args

/-- The value is none of the arguments. -/
def noneOf : Check := fun v args c => (oneOf v args c).map not

/-- The pattern that an argument is, before it is read. -/
def slashedPattern? : Value → Option Regex.Pattern
  | .pattern p => some p
  | .text s =>
    if isSlashed s.toList then
      some { source := String.ofList ((s.toList.drop 1).dropLast) }
    else none
  | _ => none

/-- A regular expression that has been read. -/
def readPattern (p : Regex.Pattern) : Except Crash Regex.Program :=
  match p.read with
  | .ok program => .ok program
  | .error fault => .error (.badPattern fault)

/-- The regular expression that an argument is. -/
def patternOf (arg : Value) : Except Crash (Option Regex.Program) :=
  match slashedPattern? arg with
  | some p => (readPattern p).map some
  | none => .ok none

/-- Whether a value equals an argument or matches it. -/
def suits (v : Value) (arg : Value) : Except Crash Bool :=
  match patternOf arg with
  | .error crash => .error crash
  | .ok none => compareValues arg v
  | .ok (some program) =>
    .ok (match v.scalarText? with
      | some s => (program.search s).isSome
      | none => false)

/-- The value equals one of the arguments or matches one of them. -/
def matchesAny : Check := fun v args _ => holdsAny (suits v) args

end FieldCheck.Rules
