import FieldCheck.Moment.Date
import FieldCheck.Moment.Names
import FieldCheck.Text.Blank
import FieldCheck.Text.Digit

/-!
# Dates as people write them

* `DatePart` — the pieces of a written form: a month by number, by name or by short name, a day, a
  year of four digits, a gap of blanks, or a fixed character.
* `writtenForms` — the five forms, as `1/2/2020`, `January 2, 2020`, `Jan 2, 2020`,
  `2 January 2020` and `2 Jan 2020`.
* `readWritten?` — the day that the first fitting form reads.
-/

set_option autoImplicit false

namespace FieldCheck

open Text

/-- A piece of a written form. -/
inductive DatePart where
  | monthNumber
  | monthName
  | shortMonthName
  | day
  | year
  | gap
  | mark (c : Char)
  deriving DecidableEq, Repr

/-- What has been read of a date so far. -/
structure Reading where
  year : Nat := 0
  month : Nat := 0
  day : Nat := 0

/-- The forms, in the order in which they are tried. -/
def writtenForms : List (List DatePart) :=
  [[.monthNumber, .mark '/', .day, .mark '/', .year],
   [.monthName, .gap, .day, .mark ',', .gap, .year],
   [.shortMonthName, .gap, .day, .mark ',', .gap, .year],
   [.day, .gap, .monthName, .gap, .year],
   [.day, .gap, .shortMonthName, .gap, .year]]

/-- Month numbers that a text may start with, longer ones first. -/
def monthNumbers : List Char → List (Nat × List Char)
  | '1' :: c :: rest =>
    if '0' ≤ c && c ≤ '2' then [(10 + (c.toNat - 48), rest), (1, c :: rest)] else [(1, c :: rest)]
  | '0' :: c :: rest => if '1' ≤ c && c ≤ '9' then [(c.toNat - 48, rest)] else []
  | c :: rest => if '1' ≤ c && c ≤ '9' then [(c.toNat - 48, rest)] else []
  | [] => []

/-- A day of one digit, which a space may precede. -/
def shortDay : List Char → List (Nat × List Char)
  | ' ' :: c :: rest => if '1' ≤ c && c ≤ '9' then [(c.toNat - 48, rest)] else []
  | c :: rest => if '1' ≤ c && c ≤ '9' then [(c.toNat - 48, rest)] else []
  | [] => []

/-- Days of the month that a text may start with, two digits first. -/
def dayNumbers (s : List Char) : List (Nat × List Char) :=
  let long : List (Nat × List Char) :=
    match s with
    | '3' :: c :: rest => if c = '0' || c = '1' then [(30 + (c.toNat - 48), rest)] else []
    | '0' :: c :: rest => if '1' ≤ c && c ≤ '9' then [(c.toNat - 48, rest)] else []
    | t :: c :: rest =>
      if t = '1' || t = '2' then
        match digitValue? c with
        | some d => [(10 * (t.toNat - 48) + d, rest)]
        | none => []
      else []
    | _ => []
  long ++ shortDay s

/-- A year of four digits of any script. -/
def yearNumber : List Char → List (Nat × List Char)
  | a :: b :: c :: d :: rest =>
    match digitValue? a, digitValue? b, digitValue? c, digitValue? d with
    | some a, some b, some c, some d => [(1000 * a + 100 * b + 10 * c + d, rest)]
    | _, _, _, _ => []
  | _ => []

/-- Month names of a list, counted from `n`, that a text starts with in any letter case. -/
def namedMonth (s : List Char) : Nat → List String → List (Nat × List Char)
  | _, [] => []
  | n, name :: names =>
    let here := if isNamed name (s.take name.length) then [(n, s.drop name.length)] else []
    here ++ namedMonth s (n + 1) names

/-- The rests after one or more blanks, the longest run of blanks first. -/
def gaps : List Char → List (List Char)
  | [] => []
  | c :: rest => if isBlank c then gaps rest ++ [rest] else []

/-- The ways to read one piece. -/
def DatePart.read (p : DatePart) (r : Reading) (s : List Char) : List (Reading × List Char) :=
  match p with
  | .monthNumber => (monthNumbers s).map fun (n, s) => ({ r with month := n }, s)
  | .monthName => (namedMonth s 1 monthNames).map fun (n, s) => ({ r with month := n }, s)
  | .shortMonthName =>
    (namedMonth s 1 (monthNames.map shortName)).map fun (n, s) => ({ r with month := n }, s)
  | .day => (dayNumbers s).map fun (n, s) => ({ r with day := n }, s)
  | .year => (yearNumber s).map fun (n, s) => ({ r with year := n }, s)
  | .gap => (gaps s).map fun s => (r, s)
  | .mark c =>
    match s with
    | d :: rest => if c = d then [(r, rest)] else []
    | [] => []

/-- The ways to read a form, the preferred one first. -/
def readParts : List DatePart → Reading → List Char → List (Reading × List Char)
  | [], r, s => [(r, s)]
  | p :: ps, r, s => (p.read r s).flatMap fun (r, s) => readParts ps r s

/-- The day that a form reads; the preferred way to read it must use up the text. -/
def readForm? (form : List DatePart) (s : List Char) : Option Date :=
  match readParts form {} s with
  | (r, []) :: _ => Date.of? r.year r.month r.day
  | _ => none

/-- The day that the first fitting form reads. -/
def readWritten? (s : List Char) : Option Date := writtenForms.findSome? fun form => readForm? form s

end FieldCheck
