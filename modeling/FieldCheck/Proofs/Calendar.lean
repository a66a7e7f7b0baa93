import FieldCheck.Moment.Date

/-!
# The calendar by numbers

The days of the calendar and the numbers below `Date.dayCount` are the same thing, and so are the moments
of the calendar and its microseconds.

* `yearLength`, `daysBeforeYear_succ`, `daysBeforeMonth_twelve` — a year and its months.
* `yearOf_spec`, `monthAndDay_spec` — the two searches, each with what it keeps.
* `ofDayNumber_spec`, `dayNumber_lt`, `dayNumber_inj` — days by number, and back.
* `Moment.Valid`, `ofInstant?_isSome_iff`, `ofInstant?_eq_some_iff` — moments by instant, and back.
-/

set_option autoImplicit false

namespace FieldCheck

namespace Date

/-! ## Years and months -/

/-- Days of a year. -/
def yearLength (year : Nat) : Nat := if isLeap year then 366 else 365

theorem isLeap_iff (year : Nat) : isLeap year = true ↔ 4 ∣ year ∧ (¬100 ∣ year ∨ 400 ∣ year) := by
  simp [isLeap, Nat.dvd_iff_mod_eq_zero]

theorem daysBeforeYear_succ {year : Nat} (h : 1 ≤ year) :
    daysBeforeYear (year + 1) = daysBeforeYear year + yearLength year := by
  obtain ⟨y, rfl⟩ : ∃ y, year = y + 1 := ⟨year - 1, by omega⟩
  have hcentury : 100 ∣ y + 1 → 4 ∣ y + 1 := Nat.dvd_trans (by decide)
  have hfourth : 400 ∣ y + 1 → 100 ∣ y + 1 := Nat.dvd_trans (by decide)
  have hless : y / 100 ≤ y / 4 := Nat.div_le_div_left (by decide) (by decide)
  simp only [daysBeforeYear, yearLength, isLeap_iff, Nat.add_sub_cancel, Nat.succ_div]
  generalize y / 4 = fours, y / 100 = hundreds, y / 400 = more at hless ⊢
  by_cases h4 : 4 ∣ y + 1
  · by_cases h100 : 100 ∣ y + 1
    · by_cases h400 : 400 ∣ y + 1
      · simp only [h4, h100, h400]
        simp
        omega
      · simp only [h4, h100, h400]
        simp
        omega
    · simp only [h4, h100, mt hfourth h100]
      simp
      omega
  · simp only [h4, mt hcentury h4, mt hfourth (mt hcentury h4)]
    simp
    omega

theorem daysBeforeYear_mono {a b : Nat} (h : a ≤ b) : daysBeforeYear a ≤ daysBeforeYear b := by
  induction h with
  | refl => exact Nat.le_refl _
  | @step b _ ih =>
    refine Nat.le_trans ih ?_
    cases b with
    | zero => exact Nat.le_refl _
    | succ b =>
      rw [daysBeforeYear_succ (Nat.succ_pos b)]
      exact Nat.le_add_right _ _

theorem daysBeforeMonth_twelve (year : Nat) : daysBeforeMonth year 12 = yearLength year := by
  simp only [daysBeforeMonth, daysInMonth, yearLength]
  split <;> rfl

theorem daysBeforeMonth_mono (year : Nat) {a b : Nat} (h : a ≤ b) :
    daysBeforeMonth year a ≤ daysBeforeMonth year b := by
  induction h with
  | refl => exact Nat.le_refl _
  | step _ ih => exact Nat.le_trans ih (Nat.le_add_right _ _)

/-! ## The searches -/

/-- The year that is found begins on the day or before it, and the next one behind it. -/
theorem yearOf_spec {n year : Nat} (left : Nat) (hbegun : daysBeforeYear year ≤ n)
    (hends : n < daysBeforeYear (year + left + 1)) :
    year ≤ yearOf n left year ∧ daysBeforeYear (yearOf n left year) ≤ n ∧
      n < daysBeforeYear (yearOf n left year + 1) := by
  induction left generalizing year with
  | zero => exact ⟨Nat.le_refl _, hbegun, hends⟩
  | succ left ih =>
    rw [yearOf]
    split
    · exact ⟨Nat.le_refl _, hbegun, ‹_›⟩
    · rename_i hlater
      have hends' : n < daysBeforeYear (year + 1 + left + 1) := by
        rwa [show year + 1 + left + 1 = year + (left + 1) + 1 by omega]
      obtain ⟨hyear, hfound⟩ := ih (Nat.le_of_not_lt hlater) hends'
      exact ⟨by omega, hfound⟩

/-- The month that is found begins on the day or before it, and has that day. -/
theorem monthAndDay_spec {year n : Nat} (left month : Nat)
    (hends : daysBeforeMonth year month + n < daysBeforeMonth year (month + left + 1)) :
    ∃ m d, monthAndDay year left (month + 1) n = (m + 1, d + 1) ∧ month ≤ m ∧ m ≤ month + left ∧
      d < daysInMonth year (m + 1) ∧ daysBeforeMonth year month + n = daysBeforeMonth year m + d := by
  induction left generalizing month n with
  | zero =>
    rw [Nat.add_zero, daysBeforeMonth] at hends
    exact ⟨month, n, rfl, Nat.le_refl _, Nat.le_refl _, by omega, rfl⟩
  | succ left ih =>
    simp only [monthAndDay]
    split
    · exact ⟨month, n, rfl, Nat.le_refl _, Nat.le_add_right _ _, ‹_›, rfl⟩
    · rename_i hlater
      have hstep : daysBeforeMonth year (month + 1) =
          daysBeforeMonth year month + daysInMonth year (month + 1) := rfl
      have hends' : daysBeforeMonth year (month + 1) + (n - daysInMonth year (month + 1)) <
          daysBeforeMonth year (month + 1 + left + 1) := by
        rw [show month + 1 + left + 1 = month + (left + 1) + 1 by omega]
        omega
      obtain ⟨m, d, hfound, hfirst, hlast, hday, hsum⟩ := ih _ hends'
      exact ⟨m, d, hfound, by omega, by omega, hday, by omega⟩

/-! ## Days by number -/

theorem isValid_iff (d : Date) : d.isValid = true ↔
    (1 ≤ d.year ∧ d.year ≤ 9999) ∧ (1 ≤ d.month ∧ d.month ≤ 12) ∧
      1 ≤ d.day ∧ d.day ≤ daysInMonth d.year d.month := by
  simp [isValid, and_assoc]

theorem daysBeforeYear_end : daysBeforeYear 10000 = dayCount := rfl

/-- The year of a day of the calendar is found: forty years make up for a mean year that is shorter than
a leap year. -/
theorem yearOf_calendar {n : Nat} (h : n < dayCount) :
    ∃ year, yearOf n 40 (n / 366 + 1) = year ∧ 1 ≤ year ∧ year ≤ 9999 ∧
      daysBeforeYear year ≤ n ∧ n < daysBeforeYear year + yearLength year := by
  have hbegun : daysBeforeYear (n / 366 + 1) ≤ n := by
    simp only [daysBeforeYear]
    omega
  have hends : n < daysBeforeYear (n / 366 + 1 + 40 + 1) := by
    simp only [daysBeforeYear]
    unfold dayCount at h
    omega
  obtain ⟨hfirst, hyear, hnext⟩ := yearOf_spec 40 hbegun hends
  have hpos : 1 ≤ yearOf n 40 (n / 366 + 1) := by omega
  rw [daysBeforeYear_succ hpos] at hnext
  refine ⟨_, rfl, hpos, Nat.le_of_not_lt fun hbeyond => ?_, hyear, hnext⟩
  have hlate : dayCount ≤ daysBeforeYear (yearOf n 40 (n / 366 + 1)) :=
    daysBeforeYear_end ▸ daysBeforeYear_mono hbeyond
  omega

/-- The day of a number is a day of the calendar, and has that number. -/
theorem ofDayNumber_spec {n : Nat} (h : n < dayCount) :
    (ofDayNumber n).isValid = true ∧ (ofDayNumber n).dayNumber = n := by
  obtain ⟨year, hyear, hfirst, hlast, hbegun, hends⟩ := yearOf_calendar h
  have hmonths : daysBeforeMonth year 0 + (n - daysBeforeYear year) <
      daysBeforeMonth year (0 + 11 + 1) := by
    rw [daysBeforeMonth_twelve, daysBeforeMonth]
    omega
  obtain ⟨m, d, hmonth, -, hm, hd, hsum⟩ := monthAndDay_spec 11 0 hmonths
  have hday : ofDayNumber n = ⟨year, m + 1, d + 1⟩ := by
    simp only [ofDayNumber, hyear]
    rw [hmonth]
  rw [hday, isValid_iff]
  have hmonth' : m + 1 ≤ 12 := by omega
  refine ⟨⟨⟨hfirst, hlast⟩, ⟨Nat.succ_pos m, hmonth'⟩, Nat.succ_pos d, hd⟩, ?_⟩
  simp only [dayNumber, daysBeforeMonth, Nat.add_sub_cancel] at hsum ⊢
  omega

section Days

variable {d d' : Date}

/-- A day lies within its month, counted from the start of the year. -/
theorem month_bounds (h : d.isValid = true) :
    daysBeforeMonth d.year (d.month - 1) + (d.day - 1) < daysBeforeMonth d.year d.month ∧
      daysBeforeMonth d.year d.month ≤ yearLength d.year := by
  obtain ⟨-, ⟨hmonth, hmonth'⟩, hday, hday'⟩ := (isValid_iff d).mp h
  obtain ⟨m, hm⟩ : ∃ m, d.month = m + 1 := ⟨d.month - 1, by omega⟩
  have hmonths := daysBeforeMonth_mono d.year hmonth'
  rw [daysBeforeMonth_twelve] at hmonths
  refine ⟨?_, hmonths⟩
  rw [hm] at hday' ⊢
  rw [Nat.add_sub_cancel, daysBeforeMonth]
  omega

/-- A day lies within its year. -/
theorem year_bounds (h : d.isValid = true) :
    daysBeforeYear d.year ≤ d.dayNumber ∧ d.dayNumber < daysBeforeYear (d.year + 1) := by
  have hmonth := month_bounds h
  rw [daysBeforeYear_succ ((isValid_iff d).mp h).1.1, dayNumber]
  omega

theorem dayNumber_lt (h : d.isValid = true) : d.dayNumber < dayCount := by
  have hyear := ((isValid_iff d).mp h).1.2
  calc d.dayNumber < daysBeforeYear (d.year + 1) := (year_bounds h).2
    _ ≤ daysBeforeYear 10000 := daysBeforeYear_mono (Nat.succ_le_succ hyear)
    _ = dayCount := daysBeforeYear_end

theorem year_le_of_dayNumber_le (h : d.isValid = true) (h' : d'.isValid = true)
    (hle : d.dayNumber ≤ d'.dayNumber) : d.year ≤ d'.year := by
  refine Nat.le_of_not_lt fun hlater => Nat.lt_irrefl d'.dayNumber ?_
  calc d'.dayNumber < daysBeforeYear (d'.year + 1) := (year_bounds h').2
    _ ≤ daysBeforeYear d.year := daysBeforeYear_mono hlater
    _ ≤ d.dayNumber := (year_bounds h).1
    _ ≤ d'.dayNumber := hle

/-- Two days of one number are the same day. -/
theorem dayNumber_inj (h : d.isValid = true) (h' : d'.isValid = true)
    (heq : d.dayNumber = d'.dayNumber) : d = d' := by
  have hyear : d.year = d'.year := Nat.le_antisymm (year_le_of_dayNumber_le h h' (Nat.le_of_eq heq))
    (year_le_of_dayNumber_le h' h (Nat.le_of_eq heq.symm))
  obtain ⟨year, month, day⟩ := d
  obtain ⟨year', month', day'⟩ := d'
  obtain rfl : year = year' := hyear
  have hbounds := (month_bounds h).1
  have hbounds' := (month_bounds h').1
  obtain ⟨-, ⟨hfirst, -⟩, hday, -⟩ := (isValid_iff _).mp h
  obtain ⟨-, ⟨hfirst', -⟩, hday', -⟩ := (isValid_iff _).mp h'
  simp only [dayNumber] at heq hbounds hbounds' hfirst hfirst' hday hday'
  have hmonth : month = month' := by
    rcases Nat.lt_trichotomy month month' with hless | hsame | hless
    · have := daysBeforeMonth_mono year (show month ≤ month' - 1 by omega)
      omega
    · exact hsame
    · have := daysBeforeMonth_mono year (show month' ≤ month - 1 by omega)
      omega
  subst hmonth
  obtain rfl : day = day' := by omega
  rfl

end Days

end Date

/-! ## Moments by instant -/

namespace Moment

/-- A day of the calendar and a time of day. -/
structure Valid (m : Moment) : Prop where
  date : m.date.isValid = true
  hour : m.hour ≤ 23
  minute : m.minute ≤ 59
  second : m.second ≤ 59
  micro : m.micro < 1000000

theorem midnight_valid {d : Date} (h : d.isValid = true) : (midnight d).Valid where
  date := h
  hour := Nat.zero_le _
  minute := Nat.zero_le _
  second := Nat.zero_le _
  micro := Nat.zero_lt_succ _

/-- Whether an instant lies in the calendar. -/
def InCalendar (t : Int) : Prop := 0 ≤ t ∧ t < (Date.dayCount : Int) * dayLength

variable {m m' : Moment} {t : Int}

/-- A moment lies within its day. -/
theorem Valid.instant_bounds (h : m.Valid) :
    (m.date.dayNumber : Int) * dayLength ≤ m.instant ∧
      m.instant < ((m.date.dayNumber : Int) + 1) * dayLength := by
  obtain ⟨-, hhour, hminute, hsecond, hmicro⟩ := h
  unfold instant dayLength
  omega

theorem Valid.inCalendar (h : m.Valid) : InCalendar m.instant := by
  have hbounds := h.instant_bounds
  have hday := Date.dayNumber_lt h.date
  unfold dayLength at hbounds
  unfold InCalendar dayLength
  omega

/-- Two moments of one instant are the same moment. -/
theorem Valid.instant_inj (h : m.Valid) (h' : m'.Valid) (heq : m.instant = m'.instant) : m = m' := by
  have hbounds := h.instant_bounds
  have hbounds' := h'.instant_bounds
  have hday : m.date.dayNumber = m'.date.dayNumber := by
    unfold dayLength at hbounds hbounds'
    omega
  have hdate := Date.dayNumber_inj h.date h'.date hday
  obtain ⟨d, hour, minute, second, micro⟩ := m
  obtain ⟨d', hour', minute', second', micro'⟩ := m'
  obtain rfl : d = d' := hdate
  obtain ⟨-, hhour, hminute, hsecond, hmicro⟩ := h
  obtain ⟨-, hhour', hminute', hsecond', hmicro'⟩ := h'
  simp only [instant] at heq hhour hminute hsecond hmicro hhour' hminute' hsecond' hmicro'
  obtain rfl : hour = hour' := by omega
  obtain rfl : minute = minute' := by omega
  obtain rfl : second = second' := by omega
  obtain rfl : micro = micro' := by omega
  rfl

/-- An instant of the calendar has a moment, and no other has one. -/
theorem ofInstant?_isSome_iff : (ofInstant? t).isSome = true ↔ InCalendar t := by
  unfold ofInstant? InCalendar
  split
  · rename_i hout
    simp only [Bool.or_eq_true, decide_eq_true_eq] at hout
    simp only [Option.isSome_none, Bool.false_eq_true, false_iff]
    omega
  · rename_i hin
    simp only [Bool.or_eq_true, decide_eq_true_eq] at hin
    simp only [Option.isSome_some, true_iff]
    omega

theorem valid_of_ofInstant? (h : ofInstant? t = some m) : m.Valid ∧ m.instant = t := by
  obtain ⟨hstart, hend⟩ := ofInstant?_isSome_iff.mp (by rw [h]; rfl)
  obtain ⟨n, rfl⟩ := Int.eq_ofNat_of_zero_le hstart
  have hday : n / 86400000000 < Date.dayCount := by
    unfold dayLength at hend
    omega
  obtain ⟨hvalid, hnumber⟩ := Date.ofDayNumber_spec hday
  unfold ofInstant? at h
  split at h
  · cases h
  · cases h
    refine ⟨⟨hvalid, ?_, ?_, ?_, ?_⟩, ?_⟩
    · dsimp only
      omega
    · dsimp only
      omega
    · dsimp only
      omega
    · dsimp only
      omega
    · simp only [instant, dayLength, Int.toNat_natCast, hnumber]
      omega

/-- **Moments of the calendar and instants of the calendar are the same thing.** -/
theorem ofInstant?_eq_some_iff : ofInstant? t = some m ↔ m.Valid ∧ m.instant = t := by
  refine ⟨valid_of_ofInstant?, fun ⟨hvalid, heq⟩ => ?_⟩
  obtain ⟨found, hfound⟩ := Option.isSome_iff_exists.mp
    (ofInstant?_isSome_iff.mpr (heq ▸ hvalid.inCalendar))
  obtain ⟨hvalid', heq'⟩ := valid_of_ofInstant? hfound
  rw [hfound, hvalid.instant_inj hvalid' (heq.trans heq'.symm)]

end Moment

end FieldCheck
