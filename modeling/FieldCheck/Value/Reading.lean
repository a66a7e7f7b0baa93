import FieldCheck.Number.Numeral
import FieldCheck.Text.Case
import FieldCheck.Value.Written

/-!
# Reading values

How rules read the values that they are given.

* `Value.number?` — numbers and numerals; true and false are not numbers, nor is not-a-number.
* `Value.scalarText?` — texts and plain numbers.
* `Value.isOn` — a switch, where a text is off if it spells no.
-/

set_option autoImplicit false

namespace FieldCheck

open Text

/-- The number that a binary number is. -/
def Number.ofDouble? (x : Double) : Option Number := if x.isNaN then none else some (.float x)

/-- The number that a decimal number rounds to. -/
def Number.ofDecimal? (d : Decimal) : Option Number :=
  if d.isNaN then none else some (.float d.toDouble)

/-- The number that a numeral writes: an integer if it can be read as one. -/
def Number.ofText? (s : List Char) : Option Number :=
  match readInteger s with
  | some n => some (.int n)
  | none =>
    match readDecimal s with
    | some d => Number.ofDecimal? d
    | none => none

/-- The number that a value is or writes. -/
def Value.number? : Value → Option Number
  | .int n => some (.int n)
  | .float x => Number.ofDouble? x
  | .decimal d => Number.ofDecimal? d
  | .text s => Number.ofText? s.toList
  | _ => none

/-- A number as a value. -/
def Number.toValue : Number → Value
  | .int n => .int n
  | .float x => .float x

/-- The text that a value is or that writes it, for texts and plain numbers. -/
def Value.scalarText? : Value → Option String
  | .text s => some s
  | .int n => some (Value.int n).textForm
  | .float x => some (Value.float x).textForm
  | .decimal d => some (Value.decimal d).textForm
  | _ => none

/-- The texts that switch a flag off. -/
def offTexts : List String := ["false", "no", "off", "0"]

/-- Whether a flag is on. -/
def Value.isOn : Value → Bool
  | .text s => !offTexts.contains (String.ofList (lower (trim s.toList)))
  | v => v.truthy

end FieldCheck
