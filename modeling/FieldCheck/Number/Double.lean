/-!
# Numbers of the 64-bit binary format

* `Double` — a sign, a mantissa below 2^53 and a power of two; or an infinity; or not a number.
* `Double.ofRatio` — the number nearest to a ratio, a tie going to the even mantissa.
-/

set_option autoImplicit false

-- a power of naturals is that of the numbers themselves, not that of a monoid
attribute [local instance (1100)] instPowNat

namespace FieldCheck

/-- A number of the 64-bit binary format; `finite negative m e` is `±m · 2^e`. -/
inductive Double where
  | nan
  | infinite (negative : Bool)
  | finite (negative : Bool) (mantissa : Nat) (exponent : Int)
  deriving DecidableEq, Repr

namespace Double

/-- The least exponent of the format. -/
def leastExponent : Int := -1074

/-- The greatest exponent of the format. -/
def greatestExponent : Int := 971

/-- Bits of a mantissa. -/
def precision : Nat := 53

/-- The two factors that multiply numerator and denominator by `2^(-e)`. -/
def scaleBy (e : Int) (num den : Nat) : Nat × Nat :=
  if 0 ≤ e then (num, den * 2 ^ e.toNat) else (num * 2 ^ (-e).toNat, den)

/-- The quotient rounded to the nearest integer, a tie to the even one. -/
def roundedQuotient (num den : Nat) : Nat :=
  let q := num / den
  let r := num % den
  if 2 * r < den then q
  else if den < 2 * r then q + 1
  else if q % 2 = 0 then q else q + 1

/-- The `k` with `2^k ≤ num / den < 2^(k+1)`, for positive `num` and `den`. -/
def binaryOrder (num den : Nat) : Int :=
  let k : Int := (Nat.log2 num : Int) - (Nat.log2 den : Int)
  let (n, d) := scaleBy k num den
  if d ≤ n then k else k - 1

/-- The number of the format nearest to `±num / den`; beyond the greatest it is an infinity. -/
def ofRatio (negative : Bool) (num den : Nat) : Double :=
  if num = 0 || den = 0 then .finite negative 0 leastExponent
  else
    let e := max leastExponent (binaryOrder num den - 52)
    let (n, d) := scaleBy e num den
    let m := roundedQuotient n d
    let (m, e) := if m = 2 ^ precision then (2 ^ (52 : Nat), e + 1) else (m, e)
    if greatestExponent < e then .infinite negative else .finite negative m e

/-- Whether the number is not a number. -/
def isNaN : Double → Bool
  | .nan => true
  | _ => false

/-- Whether the number is a zero of either sign. -/
def isZero : Double → Bool
  | .finite _ 0 _ => true
  | _ => false

end Double

end FieldCheck
