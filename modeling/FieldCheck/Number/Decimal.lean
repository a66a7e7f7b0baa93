import FieldCheck.Number.Double

/-!
# Decimal numbers

* `Decimal` — a sign, a coefficient and a power of ten, kept as written; an infinity; or not a
  number, quiet or signalling, with its diagnostic digits.
* `Decimal.text` — the written form: positional while the exponent is not positive and the first
  digit is at most six places after the point, otherwise scientific.
* `Decimal.toDouble` — the nearest binary number.
-/

set_option autoImplicit false

-- a power of naturals is that of the numbers themselves, not that of a monoid
attribute [local instance (1100)] instPowNat

namespace FieldCheck

/-- A decimal number; `finite negative c e` is `±c · 10^e`. -/
inductive Decimal where
  | finite (negative : Bool) (coefficient : Nat) (exponent : Int)
  | infinite (negative : Bool)
  | nan (negative signalling : Bool) (payload : Nat)
  deriving DecidableEq, Repr

namespace Decimal

/-- The greatest power of ten that a leading digit may stand for. -/
def greatestOrder : Int := 999999999999999999

/-- The least exponent. -/
def leastExponent : Int := -1999999999999999997

/-- The power of ten of the leading digit. -/
def order (coefficient : Nat) (exponent : Int) : Int :=
  (Nat.toDigits 10 coefficient).length - 1 + exponent

/-- Whether the coefficient and exponent can be kept exactly. -/
def representable (coefficient : Nat) (exponent : Int) : Bool :=
  if coefficient = 0 then leastExponent ≤ exponent && exponent ≤ greatestOrder
  else leastExponent ≤ exponent && order coefficient exponent ≤ greatestOrder

/-- Whether the number is not a number. -/
def isNaN : Decimal → Bool
  | .nan .. => true
  | _ => false

/-- An exponent with its sign. -/
def signedExponent (x : Int) : List Char :=
  (if x < 0 then '-' else '+') :: Nat.toDigits 10 x.natAbs

/-- The digits of a coefficient with point and exponent. -/
def finiteText (coefficient : Nat) (exponent : Int) : List Char :=
  let ds := Nat.toDigits 10 coefficient
  let left : Int := exponent + ds.length
  let plain := exponent ≤ 0 && -6 < left
  let point : Int := if plain then left else 1
  let body :=
    if point ≤ 0 then '0' :: '.' :: (List.replicate (-point).toNat '0' ++ ds)
    else if (ds.length : Int) ≤ point then ds ++ List.replicate (point.toNat - ds.length) '0'
    else ds.take point.toNat ++ '.' :: ds.drop point.toNat
  if left = point then body else body ++ 'E' :: signedExponent (left - point)

/-- The written form. -/
def text (d : Decimal) : String :=
  let sign := fun (negative : Bool) (cs : List Char) => if negative then '-' :: cs else cs
  String.ofList <| match d with
    | .finite negative c e => sign negative (finiteText c e)
    | .infinite negative => sign negative "Infinity".toList
    | .nan negative signalling payload =>
      sign negative ((if signalling then "sNaN" else "NaN").toList ++
        (if payload = 0 then [] else Nat.toDigits 10 payload))

/-- The nearest binary number. -/
def toDouble : Decimal → Double
  | .nan .. => .nan
  | .infinite negative => .infinite negative
  | .finite negative c e =>
    if c = 0 then .finite negative 0 Double.leastExponent
    else if 310 < order c e then .infinite negative
    else if order c e < -400 then .finite negative 0 Double.leastExponent
    else if 0 ≤ e then Double.ofRatio negative (c * 10 ^ e.toNat) 1
    else Double.ofRatio negative c (10 ^ (-e).toNat)

/-- Whether the number is a zero of either sign. -/
def isZero : Decimal → Bool
  | .finite _ 0 _ => true
  | _ => false

/-- Whether `c · 10^e` is the natural number `n`. -/
def isNat (c : Nat) (e : Int) (n : Nat) : Bool :=
  if c = 0 || n = 0 then c = 0 && n = 0
  else if order c e ≠ (Nat.toDigits 10 n).length - 1 then false
  else if 0 ≤ e then c * 10 ^ e.toNat = n else c = n * 10 ^ (-e).toNat

/-- Whether `c · 10^e` is `m · 2^x`. -/
def isDouble (c : Nat) (e : Int) (m : Nat) (x : Int) : Bool :=
  if c = 0 || m = 0 then c = 0 && m = 0
  else if 310 < order c e || order c e < -400 then false
  else
    let left := c * 10 ^ e.toNat * 2 ^ (-x).toNat
    let right := m * 2 ^ x.toNat * 10 ^ (-e).toNat
    left = right

/-- Whether two decimals have the same value. -/
def sameFinite (c : Nat) (e : Int) (c' : Nat) (e' : Int) : Bool :=
  if c = 0 || c' = 0 then c = 0 && c' = 0
  else if order c e ≠ order c' e' then false
  else if e ≤ e' then c = c' * 10 ^ (e' - e).toNat else c * 10 ^ (e - e').toNat = c'

end Decimal

end FieldCheck
