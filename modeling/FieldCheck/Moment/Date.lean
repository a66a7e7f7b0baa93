/-!
# Dates and moments

* `Date` — a day of the calendar that runs from year 1 to year 9999.
* `Moment` — a day and a time of day, to the microsecond, without an offset.
* `Stamp` — a moment with or without an offset from universal time, in seconds.
* `Moment.instant`, `Moment.ofInstant?` — microseconds counted from the first day on, and back.
* `Stamp.toUniversal?` — the moment in universal time, unless it leaves the calendar.
-/

set_option autoImplicit false

namespace FieldCheck

/-- A day by year, month and day of the month. -/
structure Date where
  year : Nat
  month : Nat
  day : Nat
  deriving DecidableEq, Repr

namespace Date

/-- Leap years. -/
def isLeap (year : Nat) : Bool := year % 4 = 0 && (year % 100 ≠ 0 || year % 400 = 0)

/-- Days of a month. -/
def daysInMonth (year : Nat) : Nat → Nat
  | 2 => if isLeap year then 29 else 28
  | 4 | 6 | 9 | 11 => 30
  | _ => 31

/-- Whether year, month and day name a day of the calendar. -/
def isValid (d : Date) : Bool :=
  1 ≤ d.year && d.year ≤ 9999 && 1 ≤ d.month && d.month ≤ 12 && 1 ≤ d.day &&
    d.day ≤ daysInMonth d.year d.month

/-- A day of the calendar. -/
def of? (year month day : Nat) : Option Date :=
  let d : Date := ⟨year, month, day⟩
  if d.isValid then some d else none

/-- Days before the first of January of a year. -/
def daysBeforeYear (year : Nat) : Nat :=
  let y := year - 1
  365 * y + y / 4 - y / 100 + y / 400

/-- Days of the first `n` months of a year. -/
def daysBeforeMonth (year : Nat) : Nat → Nat
  | 0 => 0
  | n + 1 => daysBeforeMonth year n + daysInMonth year (n + 1)

/-- Days from the first day of the calendar, which has number 0. -/
def dayNumber (d : Date) : Nat :=
  daysBeforeYear d.year + daysBeforeMonth d.year (d.month - 1) + (d.day - 1)

/-- The month and day of day `n` of a year, from month `month` on. -/
def monthAndDay (year : Nat) : Nat → Nat → Nat → Nat × Nat
  | 0, month, n => (month, n + 1)
  | left + 1, month, n =>
    let days := daysInMonth year month
    if n < days then (month, n + 1) else monthAndDay year left (month + 1) (n - days)

/-- The year that day `n` lies in, searched upwards from an estimate. -/
def yearOf (n : Nat) : Nat → Nat → Nat
  | 0, year => year
  | left + 1, year => if n < daysBeforeYear (year + 1) then year else yearOf n left (year + 1)

/-- The day of a number. -/
def ofDayNumber (n : Nat) : Date :=
  let year := yearOf n 40 (n / 366 + 1)
  let (month, day) := monthAndDay year 11 1 (n - daysBeforeYear year)
  ⟨year, month, day⟩

/-- Days of the whole calendar. -/
def dayCount : Nat := 3652059

end Date

/-- A day and a time of day. -/
structure Moment where
  date : Date
  hour : Nat
  minute : Nat
  second : Nat
  micro : Nat
  deriving DecidableEq, Repr

namespace Moment

/-- Midnight at the start of a day. -/
def midnight (d : Date) : Moment := ⟨d, 0, 0, 0, 0⟩

/-- Microseconds of a day. -/
def dayLength : Int := 86400000000

/-- Microseconds from the start of the calendar. -/
def instant (m : Moment) : Int :=
  (m.date.dayNumber : Int) * dayLength +
    (((m.hour * 60 + m.minute) * 60 + m.second) * 1000000 + m.micro : Nat)

/-- The moment of an instant of the calendar. -/
def ofInstant? (t : Int) : Option Moment :=
  if t < 0 || (Date.dayCount : Int) * dayLength ≤ t then none
  else
    let n := t.toNat
    let rest := n % 86400000000
    let seconds := rest / 1000000
    some
      { date := Date.ofDayNumber (n / 86400000000)
        hour := seconds / 3600
        minute := seconds / 60 % 60
        second := seconds % 60
        micro := rest % 1000000 }

/-- Strictly earlier. -/
def before (a b : Moment) : Bool := decide (a.instant < b.instant)

end Moment

/-- A moment with an optional offset from universal time in seconds. -/
structure Stamp where
  moment : Moment
  offset : Option Int
  deriving DecidableEq, Repr

/-- The moment in universal time; one without offset is taken as universal. -/
def Stamp.toUniversal? (s : Stamp) : Option Moment :=
  match s.offset with
  | none => some s.moment
  | some o => Moment.ofInstant? (s.moment.instant - o * 1000000)

end FieldCheck
