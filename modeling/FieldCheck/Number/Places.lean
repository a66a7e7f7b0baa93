import FieldCheck.Number.Decimal
import FieldCheck.Number.Shortest

/-!
# Numbers with a given precision

* `fixedPlaces` — a ratio with a number of decimal places, a half going to the even neighbour.
* `significant` — a positive ratio with a number of digits, and the place of its point.
* `fixedText`, `exponentForm`, `generalText` — digits before and behind the point, and an exponent
  if there is one.
-/

set_option autoImplicit false

-- a power of naturals is that of the numbers themselves, not that of a monoid
attribute [local instance (1100)] instPowNat

namespace FieldCheck

/-- Digits before the point, and all that follows them. -/
abbrev Written := List Char × List Char

/-- A ratio in units of the last of some decimal places. -/
def fixedPlaces (num den places : Nat) : Nat := Double.roundedQuotient (num * 10 ^ places) den

/-- A ratio with a number of decimal places. -/
def fixedText (num den places : Nat) (point : Bool) : Written :=
  let ds := Nat.toDigits 10 (fixedPlaces num den places)
  let ds := List.replicate (places + 1 - ds.length) '0' ++ ds
  let n := ds.length - places
  (ds.take n, if places = 0 then (if point then ['.'] else []) else '.' :: ds.drop n)

/-- A ratio with `n` significant digits: the digits, and how many stand before the point. -/
def significant (num den n : Nat) : List Char × Int :=
  if num = 0 then (List.replicate n '0', 1)
  else
    let guess : Int := ((Nat.log2 num : Int) - (Nat.log2 den : Int)) * 3 / 10 - 2
    let point := decimalPoint num den 2000 guess
    let shift : Int := n - point
    let k :=
      if 0 ≤ shift then Double.roundedQuotient (num * 10 ^ shift.toNat) den
      else Double.roundedQuotient num (den * 10 ^ (-shift).toNat)
    let ds := Nat.toDigits 10 k
    if n < ds.length then (ds.take n, point + 1) else (ds, point)

/-- A ratio with an exponent and a number of decimal places. -/
def exponentForm (num den places : Nat) (mark : Char) (point : Bool) : Written :=
  let (ds, p) := significant num den (places + 1)
  let p := if num = 0 then 1 else p
  let fraction := ds.drop 1
  (ds.take 1,
    (if fraction.isEmpty then (if point then ['.'] else []) else '.' :: fraction) ++
      mark :: exponentText (p - 1))

/-- A ratio with a number of digits, with an exponent where the number is very large or small. -/
def generalText (num den digits : Nat) (mark : Char) (keepZeros dotZero : Bool) : Written :=
  let n := if digits = 0 then 1 else digits
  let (ds, p) := significant num den n
  let p := if num = 0 then 1 else p
  let limit : Int := if dotZero then (n : Int) - 1 else n
  let shown := if keepZeros then ds else trimZeros ds
  if p ≤ -4 || limit < p then
    let shown := if shown.isEmpty then ['0'] else shown
    let fraction := shown.drop 1
    (shown.take 1, (if fraction.isEmpty then (if keepZeros then ['.'] else []) else '.' :: fraction) ++
      mark :: exponentText (p - 1))
  else if p ≤ 0 then
    let fraction := List.replicate (-p).toNat '0' ++ shown
    (['0'], '.' :: fraction)
  else
    let whole := shown.take p.toNat ++ List.replicate (p.toNat - shown.length) '0'
    let fraction := shown.drop p.toNat
    (whole,
      if fraction.isEmpty then (if keepZeros then ['.'] else if dotZero then ['.', '0'] else [])
      else '.' :: fraction)

end FieldCheck
