/-!
# Digits and the numbers they write

* `digitIn?`, `numberIn?` — the value of a digit in a base up to sixteen, and of a row of them.
* `digitZeros` — the code points beyond ASCII of the digits zero; each block of ten follows its zero.
* `digitValue?`, `isDecimalDigit` — the value of a decimal digit of any script, and whether there is
  one.
-/

set_option autoImplicit false

namespace FieldCheck.Text

/-- The value of a digit in a base up to sixteen; its letters may be small or capital. -/
def digitIn? (base : Nat) (c : Char) : Option Nat :=
  let n :=
    if c.isDigit then some (c.toNat - 48)
    else if 'a' ≤ c && c ≤ 'f' then some (c.toNat - 87)
    else if 'A' ≤ c && c ≤ 'F' then some (c.toNat - 55)
    else none
  n.filter (· < base)

/-- The number that digits of values write, most significant first. -/
def digitsValue (base : Nat) (ds : List Nat) : Nat := ds.foldl (fun n d => base * n + d) 0

/-- The number that digits write in a base up to sixteen. -/
def numberIn? (base : Nat) (ds : List Char) : Option Nat :=
  (ds.mapM (digitIn? base)).map (digitsValue base)

/-- The zeros of the digit blocks beyond ASCII. -/
def digitZeros : List Nat :=
  [
    1632, 1776, 1984, 2406, 2534, 2662, 2790, 2918, 3046, 3174, 3302, 3430,
    3558, 3664, 3792, 3872, 4160, 4240, 6112, 6160, 6470, 6608, 6784, 6800,
    6992, 7088, 7232, 7248, 42528, 43216, 43264, 43472, 43504, 43600, 44016, 65296,
    66720, 68912, 69734, 69872, 69942, 70096, 70384, 70736, 70864, 71248, 71360, 71472,
    71904, 72016, 72784, 73040, 73120, 92768, 92864, 93008, 120782, 120792, 120802, 120812,
    120822, 123200, 123632, 125264, 130032]

/-- The block of ten that holds a code point. -/
def digitFrom : List Nat → Nat → Option Nat
  | [], _ => none
  | first :: rest, n => if first ≤ n && n < first + 10 then some (n - first) else digitFrom rest n

/-- The value of a decimal digit. -/
def digitValue? (c : Char) : Option Nat :=
  if c.toNat < 128 then digitIn? 10 c else digitFrom digitZeros c.toNat

/-- Whether a character is a decimal digit of some script. -/
def isDecimalDigit (c : Char) : Bool := (digitValue? c).isSome

end FieldCheck.Text
