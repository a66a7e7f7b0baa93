/-!
# Letters beyond ASCII in ASCII

* `decode?` — the text that a label stands for: its plain letters, and digits that say where which
  other letters are put in.
-/

set_option autoImplicit false

namespace FieldCheck.Web.Punycode

/-- Number of digits. -/
def base : Nat := 36

/-- The value of a digit: letters first, then figures. -/
def digit? (c : Char) : Option Nat :=
  if c.isLower then some (c.toNat - 97)
  else if c.isUpper then some (c.toNat - 65)
  else if c.isDigit then some (c.toNat - 22)
  else none

/-- The least digit that does not end a number, at a place of it. -/
def threshold (bias k : Nat) : Nat := if k ≤ bias then 1 else if bias + 26 ≤ k then 26 else k - bias

/-- Reads a number of digits of growing weight, and what follows it. -/
def readNumber (bias : Nat) : Nat → Nat → Nat → List Char → Option (Nat × List Char)
  | _, _, _, [] => none
  | k, weight, n, c :: rest =>
    match digit? c with
    | none => none
    | some d =>
      let n := n + d * weight
      let t := threshold bias k
      if d < t then some (n, rest) else readNumber bias (k + base) (weight * (base - t)) n rest

/-- Halves the distance until it fits, counting the steps. -/
def settle : Nat → Nat → Nat → Nat × Nat
  | 0, k, delta => (k, delta)
  | fuel + 1, k, delta =>
    if 455 < delta then settle fuel (k + base) (delta / 35) else (k, delta)

/-- The bias after a number. -/
def adapt (delta count : Nat) (first : Bool) : Nat :=
  let delta := if first then delta / 700 else delta / 2
  let (k, delta) := settle 64 0 (delta + delta / count)
  k + 36 * delta / (delta + 38)

/-- Puts letters in, as the numbers say. -/
def insertAll : Nat → Nat → Nat → Nat → List Nat → List Char → Option (List Nat)
  | 0, _, _, _, out, rest => if rest.isEmpty then some out else none
  | fuel + 1, n, i, bias, out, rest =>
    if rest.isEmpty then some out
    else
      match readNumber bias base 1 i rest with
      | none => none
      | some (j, rest) =>
        let count := out.length + 1
        let n := n + j / count
        let place := j % count
        if 0x10ffff < n then none
        else
          insertAll fuel n (place + 1) (adapt (j - i) count (i == 0))
            (out.take place ++ n :: out.drop place) rest

/-- The code points that a label stands for. -/
def decode? (label : List Char) : Option (List Nat) :=
  let digits := (label.reverse.takeWhile (· != '-')).reverse
  let plain := if label.contains '-' then label.take (label.length - digits.length - 1) else []
  if plain.all fun c => c.toNat < 128 then
    insertAll digits.length 128 0 72 (plain.map Char.toNat) digits
  else none

end FieldCheck.Web.Punycode
