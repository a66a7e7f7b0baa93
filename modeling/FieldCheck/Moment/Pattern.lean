import FieldCheck.Moment.Iso
import FieldCheck.Moment.Names

/-!
# Moments by a pattern

* `Stamp.byPattern` — a moment written by a pattern in which a percent sign and a letter stand for a
  part of the moment.
-/

set_option autoImplicit false

namespace FieldCheck

/-- The day of the week, Monday being zero. -/
def Date.weekday (d : Date) : Nat := d.dayNumber % 7

/-- A number with blanks in front. -/
def blankPadded (width n : Nat) : String :=
  let ds := Nat.toDigits 10 n
  String.ofList (List.replicate (width - ds.length) ' ' ++ ds)

/-- The day of the year, counted from one. -/
def Date.dayOfYear (d : Date) : Nat := d.dayNumber - Date.daysBeforeYear d.year + 1

/-- An offset without colons. -/
def plainOffset (o : Int) : String :=
  let n := o.natAbs
  (if o < 0 then "-" else "+") ++ padded 2 (n / 3600) ++ padded 2 (n / 60 % 60) ++
    (if n % 60 = 0 then "" else padded 2 (n % 60))

/-- The name of an offset. -/
def offsetName (o : Int) : String := if o = 0 then "UTC" else "UTC" ++ offsetText o

/-- The part of a moment that a letter stands for. -/
def Stamp.part (s : Stamp) (c : Char) : String :=
  let m := s.moment
  let d := m.date
  let day := dayNames.getD d.weekday ""
  let month := monthNames.getD (d.month - 1) ""
  let hour := if m.hour % 12 = 0 then 12 else m.hour % 12
  let clock := padded 2 m.hour ++ ":" ++ padded 2 m.minute ++ ":" ++ padded 2 m.second
  let short := padded 2 d.month ++ "/" ++ padded 2 d.day ++ "/" ++ padded 2 (d.year % 100)
  match c with
  | 'Y' => toString d.year
  | 'y' => padded 2 (d.year % 100)
  | 'C' => padded 2 (d.year / 100)
  | 'm' => padded 2 d.month
  | 'd' => padded 2 d.day
  | 'e' => blankPadded 2 d.day
  | 'H' => padded 2 m.hour
  | 'I' => padded 2 hour
  | 'M' => padded 2 m.minute
  | 'S' => padded 2 m.second
  | 'f' => padded 6 m.micro
  | 'j' => padded 3 d.dayOfYear
  | 'A' => day
  | 'a' => shortName day
  | 'B' => month
  | 'b' => shortName month
  | 'h' => shortName month
  | 'p' => if m.hour < 12 then "AM" else "PM"
  | 'w' => toString ((d.weekday + 1) % 7)
  | 'u' => toString (d.weekday + 1)
  | 'z' => (s.offset.map plainOffset).getD ""
  | 'Z' => (s.offset.map offsetName).getD ""
  | 'F' => toString d.year ++ "-" ++ padded 2 d.month ++ "-" ++ padded 2 d.day
  | 'T' => clock
  | 'R' => padded 2 m.hour ++ ":" ++ padded 2 m.minute
  | 'D' => short
  | 'x' => short
  | 'X' => clock
  | 'c' =>
    shortName day ++ " " ++ shortName month ++ " " ++ blankPadded 2 d.day ++ " " ++ clock ++ " " ++
      toString d.year
  | 'U' => padded 2 ((d.dayOfYear + 6 - (d.weekday + 1) % 7) / 7)
  | 'W' => padded 2 ((d.dayOfYear + 6 - d.weekday) / 7)
  | 'n' => "\n"
  | 't' => "\t"
  | '%' => "%"
  | c => String.ofList ['%', c]

/-- A moment written by a pattern. -/
def Stamp.byPattern (s : Stamp) : List Char → List Char
  | '%' :: c :: rest => (s.part c).toList ++ s.byPattern rest
  | c :: rest => c :: s.byPattern rest
  | [] => []

end FieldCheck
