import FieldCheck.Number.Double

/-!
# The shortest decimal that reads back

* `Interval` — the reals that round to a given number, as a fraction over a common denominator.
* `shortest` — the fewest digits that lie in the interval, and among those the nearest to the
  number; the value is `0.d₁d₂… · 10^point`.
* `Double.text` — the number in positional notation when its leading digit stands for a power of ten
  from −4 to 15, always with a fraction, otherwise with an exponent of at least two digits.
-/

set_option autoImplicit false

-- a power of naturals is that of the numbers themselves, not that of a monoid
attribute [local instance (1100)] instPowNat

namespace FieldCheck

/-- A value `mid / unit` with the ends of the interval that rounds to it. -/
structure Interval where
  low : Nat
  mid : Nat
  high : Nat
  unit : Nat
  closed : Bool

/-- Whether the fraction `num / den` lies in the interval. -/
def Interval.holds (i : Interval) (num den : Nat) : Bool :=
  let a := i.low * den
  let b := num * i.unit
  let c := i.high * den
  if i.closed then a ≤ b && b ≤ c else a < b && b < c

/-- The interval of a positive mantissa and exponent: half a step on both sides, a quarter below
where the steps get finer. -/
def Interval.ofDouble (m : Nat) (e : Int) : Interval :=
  let fine := m = 2 ^ (52 : Nat) && Double.leastExponent < e
  let up := 2 ^ e.toNat
  let down := 2 ^ (-e).toNat
  { low := (if fine then 4 * m - 1 else 4 * m - 2) * up
    mid := 4 * m * up
    high := (4 * m + 2) * up
    unit := 4 * down
    closed := m % 2 = 0 }

/-- The `p` with `10^(p-1) ≤ num / den < 10^p`, found upwards from an estimate that is not above. -/
def decimalPoint (num den : Nat) : Nat → Int → Int
  | 0, p => p
  | fuel + 1, p =>
    let below := if 0 ≤ p then num < den * 10 ^ p.toNat else num * 10 ^ (-p).toNat < den
    if below then p else decimalPoint num den fuel (p + 1)

/-- The neighbours of the value on the grid of `n` digits, the nearer one first. -/
def gridNeighbours (i : Interval) (point : Int) (n : Nat) : List (Nat × Nat × Nat) :=
  let shift : Int := point - n
  let num := if shift ≤ 0 then i.mid * 10 ^ (-shift).toNat else i.mid
  let den := if shift ≤ 0 then i.unit else i.unit * 10 ^ shift.toNat
  let q := num / den
  let r := num % den
  let at' := fun (k : Nat) =>
    if shift ≤ 0 then (k, k, 10 ^ (-shift).toNat) else (k, k * 10 ^ shift.toNat, 1)
  if 2 * r < den || (2 * r = den && q % 2 = 0) then [at' q, at' (q + 1)] else [at' (q + 1), at' q]

/-- Tries grids of more and more digits; the digits found and how many the grid has. -/
def shortestFrom (i : Interval) (point : Int) : Nat → Nat → Option (Nat × Nat)
  | 0, _ => none
  | fuel + 1, n =>
    match (gridNeighbours i point n).find? (fun c => i.holds c.2.1 c.2.2) with
    | some c => some (c.1, n)
    | none => shortestFrom i point fuel (n + 1)

/-- Digits without zeros at the end. -/
def trimZeros (ds : List Char) : List Char := (ds.reverse.dropWhile (· == '0')).reverse

/-- Digits and decimal point of the shortest decimal for a positive number. -/
def shortest (m : Nat) (e : Int) : List Char × Int :=
  let i := Interval.ofDouble m e
  let guess : Int := ((Nat.log2 m : Int) + e) * 3 / 10 - 1
  let point := decimalPoint i.mid i.unit 700 guess
  match shortestFrom i point 17 1 with
  | some (k, n) =>
    let ds := Nat.toDigits 10 k
    -- A neighbour may be the next power of ten, which has one digit more than its grid.
    (trimZeros ds, point + ds.length - n)
  | none => (Nat.toDigits 10 m, point)

/-- Zeros in front or behind. -/
def zeros (n : Nat) : List Char := List.replicate n '0'

/-- An exponent with its sign and at least two digits. -/
def exponentText (x : Int) : List Char :=
  let ds := Nat.toDigits 10 x.natAbs
  (if x < 0 then '-' else '+') :: (if ds.length < 2 then '0' :: ds else ds)

/-- Digits with the decimal point after the first `point` of them. -/
def positional (ds : List Char) (point : Int) : List Char :=
  if point ≤ 0 then '0' :: '.' :: (zeros (-point).toNat ++ ds)
  else
    let p := point.toNat
    if ds.length ≤ p then ds ++ zeros (p - ds.length) ++ ['.', '0']
    else ds.take p ++ '.' :: ds.drop p

/-- Digits with an exponent. -/
def scientific (ds : List Char) (point : Int) : List Char :=
  match ds with
  | [] => []
  | d :: [] => d :: 'e' :: exponentText (point - 1)
  | d :: rest => d :: '.' :: (rest ++ 'e' :: exponentText (point - 1))

/-- The text of a number. -/
def Double.text : Double → String
  | .nan => "nan"
  | .infinite negative => if negative then "-inf" else "inf"
  | .finite negative m e =>
    let digits :=
      if m = 0 then "0.0".toList
      else
        let (ds, point) := shortest m e
        if -4 < point && point ≤ 16 then positional ds point else scientific ds point
    String.ofList (if negative then '-' :: digits else digits)

end FieldCheck
