import FieldCheck.Rule.Check
import FieldCheck.Value.Reading

/-!
# Size

* `SizeMode` — whether a value is compared by its length, by its value, or by what suits it.
* `measure` — the quantity that is compared: the length of a collection, the value of a number or a
  numeral, the length of any other text.
* `number`, `between`, `atMost`, `atLeast` — the rules.  The bounds of `between` are excluded, the
  others included.
-/

set_option autoImplicit false

namespace FieldCheck.Rules

open Text

/-- How a value is measured. -/
inductive SizeMode where
  | suited
  | length
  | value
  deriving DecidableEq, Repr

/-- The mode that an argument asks for. -/
def SizeMode.ofValue? : Value → Option SizeMode
  | .absent => some .suited
  | .text s =>
    if s = "" then some .suited
    else if s = "length" then some .length
    else if s = "value" then some .value
    else none
  | _ => none

/-- A length as a number. -/
def lengthNumber (n : Nat) : Number := .int n

/-- The quantity that is compared, if there is one. -/
def sizeOf (mode : SizeMode) (v : Value) : Option Number :=
  match v with
  | .text s =>
    match mode with
    | .length => some (lengthNumber s.length)
    | .value => v.number?
    | .suited => some (v.number?.getD (lengthNumber s.length))
  | .bool _ => none
  | v =>
    match v.number? with
    | some n => if mode = .length then some (lengthNumber v.textForm.length) else some n
    | none => v.size?.map lengthNumber

/-- The quantity that is compared, in the mode that an argument asks for. -/
def measure (v mode : Value) (c : Context := {}) : Except Crash (Option Number) :=
  match SizeMode.ofValue? mode with
  | none => .error (quoting c mode .unknownMode)
  | some mode => .ok (sizeOf mode v)

/-- A bound. -/
def bound (rule : String) (arg : Value) (c : Context) : Except Crash Number :=
  match arg.number? with
  | some n => .ok n
  | none => .error (quoting c arg (.boundNotNumeric rule))

/-- Numbers and numerals. -/
def number : Check := fun v _ _ => .ok v.number?.isSome

/-- Strictly between two bounds. -/
def between : Check := fun v args c => do
  match args with
  | low :: high :: rest =>
    let low ← bound "between" low c
    let high ← bound "between" high c
    let size ← measure v (rest.headD .absent) c
    pure (match size with
      | some n => low.lt n && n.lt high
      | none => false)
  | _ => throw .missingBounds

/-- Compares a size with one bound. -/
def bounded (rule : String) (test : Number → Number → Bool) : Check := fun v args c => do
  let limit ← bound rule (← argument args 0) c
  let size ← measure v (← argument args 1) c
  pure (match size with
    | some n => test n limit
    | none => false)

/-- At most a limit. -/
def atMost : Check := bounded "max" fun n limit => n.le limit

/-- At least a limit. -/
def atLeast : Check := bounded "min" fun n limit => limit.le n

end FieldCheck.Rules
