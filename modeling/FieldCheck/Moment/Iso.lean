import FieldCheck.Moment.Date
import FieldCheck.Text.Digit

/-!
# The standard written form of dates and moments

* `Date.isoText`, `Moment.isoText`, `Stamp.isoText` — year, month and day joined by hyphens, then
  the time of day, a fraction of six digits when it is not zero, and the offset.
* `Date.readIso?`, `Stamp.readIso?` — the readers.  A time of day may follow `T`, `t`, a space or a
  low line; its seconds may be missing; a fraction may have any number of digits, cut to six; the
  offset is `Z`, `z` or a sign with hours and minutes below one day.
-/

set_option autoImplicit false

namespace FieldCheck

open Text

/-- A number with zeros in front. -/
def padded (width n : Nat) : String :=
  let ds := Nat.toDigits 10 n
  String.ofList (List.replicate (width - ds.length) '0' ++ ds)

/-- The day. -/
def Date.isoText (d : Date) : String :=
  padded 4 d.year ++ "-" ++ padded 2 d.month ++ "-" ++ padded 2 d.day

/-- The time of day. -/
def Moment.clockText (m : Moment) : String :=
  padded 2 m.hour ++ ":" ++ padded 2 m.minute ++ ":" ++ padded 2 m.second ++
    (if m.micro = 0 then "" else "." ++ padded 6 m.micro)

/-- Day and time of day around a separator. -/
def Moment.textWith (separator : String) (m : Moment) : String :=
  m.date.isoText ++ separator ++ m.clockText

/-- Day and time of day. -/
def Moment.isoText (m : Moment) : String := m.textWith "T"

/-- An offset: sign, hours, minutes, and seconds when they are not zero. -/
def offsetText (o : Int) : String :=
  let n := o.natAbs
  (if o < 0 then "-" else "+") ++ padded 2 (n / 3600) ++ ":" ++ padded 2 (n / 60 % 60) ++
    (if n % 60 = 0 then "" else ":" ++ padded 2 (n % 60))

/-- Moment and offset around a separator. -/
def Stamp.textWith (separator : String) (s : Stamp) : String :=
  s.moment.textWith separator ++ (s.offset.map offsetText).getD ""

/-- Moment and offset. -/
def Stamp.isoText (s : Stamp) : String := s.textWith "T"

/-- A number of exactly `n` ASCII digits, and the rest. -/
def fixedNumber : Nat → Nat → List Char → Option (Nat × List Char)
  | 0, acc, rest => some (acc, rest)
  | _ + 1, _, [] => none
  | n + 1, acc, c :: rest =>
    match digitIn? 10 c with
    | some d => fixedNumber n (10 * acc + d) rest
    | none => none

/-- The rest after a given character. -/
def after? (c : Char) : List Char → Option (List Char)
  | [] => none
  | d :: rest => if c = d then some rest else none

/-- A day at the start of a text. -/
def Date.takeIso? (s : List Char) : Option (Date × List Char) := do
  let (year, s) ← fixedNumber 4 0 s
  let s ← after? '-' s
  let (month, s) ← fixedNumber 2 0 s
  let s ← after? '-' s
  let (day, s) ← fixedNumber 2 0 s
  let d ← Date.of? year month day
  some (d, s)

/-- A text that is a day. -/
def Date.readIso? (s : List Char) : Option Date :=
  match Date.takeIso? s with
  | some (d, []) => some d
  | _ => none

/-- Digits of a fraction as microseconds, and the rest; the digits after the sixth are dropped. -/
def fractionDigits : Nat → Nat → List Char → Nat × List Char
  | _, acc, [] => (acc, [])
  | scale, acc, c :: rest =>
    match digitIn? 10 c with
    | some d => fractionDigits (scale / 10) (acc + d * scale) rest
    | none => (acc, c :: rest)

/-- An optional fraction after the seconds. -/
def takeFraction? : List Char → Option (Nat × List Char)
  | mark :: c :: rest =>
    if mark = '.' || mark = ',' then
      if (digitIn? 10 c).isSome then some (fractionDigits 100000 0 (c :: rest)) else none
    else some (0, mark :: c :: rest)
  | [mark] => if mark = '.' || mark = ',' then none else some (0, [mark])
  | [] => some (0, [])

/-- A time of day at the start of a text. -/
def takeClock? (d : Date) (s : List Char) : Option (Moment × List Char) := do
  let (hour, s) ← fixedNumber 2 0 s
  let s ← after? ':' s
  let (minute, s) ← fixedNumber 2 0 s
  if 23 < hour || 59 < minute then none
  else
    match s with
    | ':' :: s => do
      let (second, s) ← fixedNumber 2 0 s
      if 59 < second then none
      else
        let (micro, s) ← takeFraction? s
        some (⟨d, hour, minute, second, micro⟩, s)
    | s => some (⟨d, hour, minute, 0, 0⟩, s)

/-- Hours and minutes of an offset, and its seconds where `fine` allows them. -/
def readOffset? (fine : Bool) (s : List Char) : Option Nat := do
  let (hour, s) ← fixedNumber 2 0 s
  let s := (after? ':' s).getD s
  let (minute, s) ← fixedNumber 2 0 s
  let total := hour * 3600 + minute * 60
  if 59 < minute || 86400 ≤ total then none
  else
    match s with
    | [] => some total
    | ':' :: s =>
      if fine then
        match fixedNumber 2 0 s with
        | some (second, []) => if second ≤ 59 then some (total + second) else none
        | _ => none
      else none
    | _ => none

/-- What may follow a time of day: nothing or an offset. -/
def readZone? (fine : Bool) : List Char → Option (Option Int)
  | [] => some none
  | ['Z'] => some (some 0)
  | ['z'] => some (some 0)
  | sign :: rest =>
    if sign = '+' then (readOffset? fine rest).map fun o => some (o : Int)
    else if sign = '-' || sign = Char.ofNat 0x2212 then
      (readOffset? fine rest).map fun o => some (-(o : Int))
    else none

/-- A text that is a day, or a day with a time of day and perhaps an offset. -/
def Stamp.read? (fine : Bool) (s : List Char) : Option Stamp := do
  let (d, s) ← Date.takeIso? s
  match s with
  | [] => some ⟨Moment.midnight d, none⟩
  | separator :: s =>
    if separator = 'T' || separator = 't' || separator = ' ' || separator = '_' then do
      let (m, s) ← takeClock? d s
      let o ← readZone? fine s
      some ⟨m, o⟩
    else none

/-- The standard form as submitted texts use it, with offsets of whole minutes. -/
def Stamp.readIso? (s : List Char) : Option Stamp := Stamp.read? false s

end FieldCheck
