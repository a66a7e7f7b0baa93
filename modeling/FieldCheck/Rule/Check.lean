import FieldCheck.Registry.Basic
import FieldCheck.Value.Same

/-!
# Checks

* `Check` — a rule that answers at once: yes, no, or a crash.
* `Check.predicate` — the check as a predicate.
* `argument` — an argument by position; a missing one is a crash.
* `plainText`, `quoting` — the text of a value, and the crash that quotes it.  Where the value is not
  written out, that is the crash.
* `holdsAny` — whether a test holds of some member of a list, with the first crash on the way.
-/

set_option autoImplicit false

namespace FieldCheck

/-- A rule that answers at once. -/
abbrev Check := Value → List Value → Context → Except Crash Bool

/-- The check as a predicate. -/
def Check.predicate (check : Check) : Predicate := fun v args c =>
  .done ((check v args c).map Value.bool)

/-- An argument by position. -/
def argument (args : List Value) (n : Nat) : Except Crash Value :=
  match args[n]? with
  | some v => .ok v
  | none => .error (.missingArgument true)

/-- The plain text of a value. -/
def plainText (c : Context) (v : Value) : Except Crash String :=
  match v.plainObstacle? c.room with
  | some obstacle => .error (.unwritten obstacle)
  | none => .ok v.textForm

/-- A text stands for itself. -/
@[simp] theorem plainText_text (c : Context) (s : String) : plainText c (.text s) = .ok s := rfl

/-- The crash that quotes a value. -/
def quoting (c : Context) (v : Value) (crash : String → Crash) : Crash :=
  match v.obstacle? c.room with
  | some obstacle => .unwritten obstacle
  | none => crash v.literalText

/-- Whether two values are the same; a signalling not-a-number is a crash. -/
def compareValues (a b : Value) : Except Crash Bool :=
  match a.same? b with
  | some answer => .ok answer
  | none => .error .signallingComparison

/-- Whether a test holds of some member of a list. -/
def holdsAny {α : Type} (test : α → Except Crash Bool) : List α → Except Crash Bool
  | [] => .ok false
  | a :: rest =>
    match test a with
    | .error crash => .error crash
    | .ok true => .ok true
    | .ok false => holdsAny test rest

end FieldCheck
