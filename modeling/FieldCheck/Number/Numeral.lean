import FieldCheck.Number.Decimal
import FieldCheck.Text.Blank
import FieldCheck.Text.Digit

/-!
# Reading numerals

* `readInteger` — an optional sign and digits of any script, single low lines between digits, at
  most `digitLimit` digits.
* `readDecimal` — low lines dropped, then an optional sign and digits with an optional point and
  exponent, or the names of infinity and of the two kinds of not-a-number.
* `readDouble` — a decimal rounded to binary.
-/

set_option autoImplicit false

namespace FieldCheck

open Text

/-- The most digits that an integer numeral may have. -/
def digitLimit : Nat := 4300

/-- A sign and what follows it. -/
def splitSign : List Char → Bool × List Char
  | '-' :: rest => (true, rest)
  | '+' :: rest => (false, rest)
  | rest => (false, rest)

/-- Digit values of digits with single low lines between them; `after` is set just after a digit. -/
def groupedDigits : Bool → List Char → Option (List Nat)
  | after, [] => if after then some [] else none
  | after, c :: rest =>
    match digitValue? c with
    | some d => (groupedDigits true rest).map (d :: ·)
    | none => if c = '_' && after then groupedDigits false rest else none

/-- An integer numeral; outer blanks do not count. -/
def readInteger (s : List Char) : Option Int :=
  let (negative, body) := splitSign (trim s)
  match groupedDigits false body with
  | none => none
  | some ds =>
    if digitLimit < ds.length then none
    else
      let n : Int := digitsValue 10 ds
      some (if negative then -n else n)

/-- The digits at the start of a text and the rest. -/
def takeDigits : List Char → List Nat × List Char
  | [] => ([], [])
  | c :: rest =>
    match digitValue? c with
    | some d => let (ds, tail) := takeDigits rest; (d :: ds, tail)
    | none => ([], c :: rest)

/-- All of a text as digits. -/
def allDigits? (s : List Char) : Option (List Nat) := s.mapM digitValue?

/-- An exponent: nothing, or a mark, an optional sign and digits. -/
def readExponent : List Char → Option Int
  | [] => some 0
  | mark :: rest =>
    if mark = 'e' || mark = 'E' then
      let (negative, ds) := splitSign rest
      if ds.isEmpty then none
      else (allDigits? ds).map fun ds =>
        let n : Int := digitsValue 10 ds
        if negative then -n else n
    else none

/-- Digits with an optional point and exponent. -/
def readFinite (negative : Bool) (s : List Char) : Option Decimal :=
  let (whole, rest) := takeDigits s
  let (fraction, rest) := match rest with
    | '.' :: rest => takeDigits rest
    | rest => ([], rest)
  if whole.isEmpty && fraction.isEmpty then none
  else
    match readExponent rest with
    | none => none
    | some x =>
      let c := digitsValue 10 (whole ++ fraction)
      let e := x - fraction.length
      if Decimal.representable c e then some (.finite negative c e) else none

/-- What follows a name in a text, letter case aside. -/
def afterName (name : String) (s : List Char) : Option (List Char) :=
  if (s.take name.length).map Char.toLower = name.toList then some (s.drop name.length) else none

/-- A decimal numeral; outer blanks and low lines do not count. -/
def readDecimal (s : List Char) : Option Decimal :=
  let (negative, body) := splitSign ((trim s).filter (· != '_'))
  let nan := fun (signalling : Bool) (rest : List Char) =>
    (allDigits? rest).map fun ds => Decimal.nan negative signalling (digitsValue 10 ds)
  match afterName "nan" body, afterName "snan" body with
  | some rest, _ => nan false rest
  | none, some rest => nan true rest
  | none, none =>
    let lowered := body.map Char.toLower
    if lowered = "inf".toList || lowered = "infinity".toList then some (.infinite negative)
    else readFinite negative body

/-- A numeral rounded to binary. -/
def readDouble (s : List Char) : Option Double := (readDecimal s).map Decimal.toDouble

end FieldCheck
