import FieldCheck.Proofs.CalendarEnds
import Mathlib.Tactic.IntervalCases

/-!
# Dates, moments and their texts

A rule that compares moments sees the same moment in a text and in the date or moment that the text
writes, whatever blanks stand around the text.

* `DateStyle`, `Date.written` — the ways to write a day.
* `fixedNumber_stopped`, `ofText?_word` — such texts are neither moments in the standard form nor
  numerals.
* `ReadsWhole` — the preferred way to read a form uses up the text; one lemma for each piece of a form.
* `readWritten?_slashed`, `readWritten?_monthFirst`, `readWritten?_dayFirst` — the form that is meant
  reads the text, and no form before it reads anything else.

Principal result: `texts_and_objects_agree`.
-/

set_option autoImplicit false

namespace FieldCheck

open Text

/-! ## Written days -/

/-- The ways to write a day, with the full or the short name of its month. -/
inductive DateStyle where
  | iso
  | slashed
  | monthFirst (short : Bool)
  | dayFirst (short : Bool)
  deriving DecidableEq, Repr

/-- The name of a month. -/
def monthWord (short : Bool) (month : Nat) : List Char :=
  let name := monthNames.getD (month - 1) ""
  (if short then shortName name else name).toList

/-- A day in one of the styles: `2020-01-02`, `01/02/2020`, `January 2, 2020` or `2 January 2020`. -/
def Date.written (d : Date) : DateStyle → List Char
  | .iso => d.isoText.toList
  | .slashed =>
    (padded 2 d.month).toList ++ '/' :: ((padded 2 d.day).toList ++ '/' :: (padded 4 d.year).toList)
  | .monthFirst short =>
    monthWord short d.month ++
      ' ' :: (Nat.toDigits 10 d.day ++ ',' :: ' ' :: (padded 4 d.year).toList)
  | .dayFirst short =>
    Nat.toDigits 10 d.day ++ ' ' :: (monthWord short d.month ++ ' ' :: (padded 4 d.year).toList)

section Written

variable {d : Date} {month day : Nat} {rest : List Char}

theorem bounds_of_isValid (h : d.isValid = true) :
    d.year < 10 ^ 4 ∧ (1 ≤ d.month ∧ d.month ≤ 12) ∧ 1 ≤ d.day ∧ d.day ≤ 31 := by
  simp only [Date.isValid, Bool.and_eq_true, decide_eq_true_eq] at h
  have := daysInMonth_le d.year d.month
  omega

/-! ### Outer blanks -/

theorem trimmed_digits {ds : List Char} (hne : ds ≠ []) (h : ∀ c ∈ ds, c.isDigit = true) :
    Trimmed ds where
  ne_nil := hne
  trim_eq := trim_of_solid (List.all_eq_true.mpr fun c hc => isSolid_of_isDigit (h c hc))

theorem padded_ne_nil (width n : Nat) : (padded width n).toList ≠ [] := by
  simp [padded, Nat.toDigits_ne_nil]

theorem trimmed_padded (width n : Nat) : Trimmed (padded width n).toList :=
  trimmed_digits (padded_ne_nil width n) (padded_isDigit width n)

theorem trimmed_toDigits (n : Nat) : Trimmed (Nat.toDigits 10 n) :=
  trimmed_digits Nat.toDigits_ne_nil (toDigits_isDigit n)

theorem trimmed_monthWord (hm : 1 ≤ month ∧ month ≤ 12) (short : Bool) :
    Trimmed (monthWord short month) := by
  obtain ⟨hlow, hhigh⟩ := hm
  have hall : ∀ short : Bool, ∀ m < 13, 1 ≤ m →
      monthWord short m ≠ [] ∧ trim (monthWord short m) = monthWord short m := by decide
  obtain ⟨hne, htrim⟩ := hall short month (by omega) hlow
  exact ⟨hne, htrim⟩

/-- No blank stands at an end of a written day. -/
theorem trimmed_written (h : d.isValid = true) (style : DateStyle) : Trimmed (d.written style) := by
  obtain ⟨-, hmonth, -⟩ := bounds_of_isValid h
  have hyear := trimmed_padded 4 d.year
  have hday := trimmed_toDigits d.day
  cases style with
  | iso => exact ⟨isoText_ne_nil d, trim_of_solid (isoText_solid d)⟩
  | slashed =>
    have := (trimmed_padded 2 d.month).between ('/' :: ((padded 2 d.day).toList ++ ['/'])) hyear
    simpa [Date.written] using this
  | monthFirst short =>
    have := (trimmed_monthWord hmonth short).between
      (' ' :: (Nat.toDigits 10 d.day ++ [',', ' '])) hyear
    simpa [Date.written] using this
  | dayFirst short =>
    have := hday.between (' ' :: (monthWord short d.month ++ [' '])) hyear
    simpa [Date.written] using this

/-! ### No moments in the standard form, and no numerals -/

theorem fixedNumber_stopped {n : Nat} {c : Char} {ds : List Char} (h : ∀ d ∈ ds, d.isDigit = true)
    (hlength : ds.length < n) (hc : digitIn? 10 c = none) (acc : Nat) (rest : List Char) :
    fixedNumber n acc (ds ++ c :: rest) = none := by
  induction ds generalizing n acc with
  | nil =>
    obtain ⟨n, rfl⟩ : ∃ k, n = k + 1 := ⟨n - 1, by simp at hlength; omega⟩
    rw [List.nil_append, fixedNumber, hc]
  | cons d ds ih =>
    obtain ⟨hd, hds⟩ := List.forall_mem_cons.mp h
    obtain ⟨n, rfl⟩ : ∃ k, n = k + 1 := ⟨n - 1, by simp at hlength; omega⟩
    simp only [List.length_cons, Nat.add_lt_add_iff_right] at hlength
    rw [List.cons_append, fixedNumber, digitIn?_of_isDigit hd]
    exact ih hds hlength _

/-- What does not start with four digits is no moment in the standard form. -/
theorem readIso?_stopped {c : Char} {ds : List Char} (h : ∀ d ∈ ds, d.isDigit = true)
    (hlength : ds.length < 4) (hc : digitIn? 10 c = none) (rest : List Char) :
    Stamp.readIso? (ds ++ c :: rest) = none := by
  have hyear := fixedNumber_stopped h hlength hc 0 rest
  simp [Stamp.readIso?, Stamp.read?, Date.takeIso?, hyear]

/-- Two characters with which no numeral starts: no digit, sign or point, and not those of a name. -/
def opensText (a b : Char) : Bool :=
  digitValue? a = none && digitIn? 10 a = none && !(['+', '-', '.', '_'].contains a) && b != '_' &&
    !([('n', 'a'), ('s', 'n'), ('i', 'n')].contains (a.toLower, b.toLower))

section Words

variable {a b : Char}

theorem splitSign_of_ne (hplus : a ≠ '+') (hminus : a ≠ '-') (s : List Char) :
    splitSign (a :: s) = (false, a :: s) := by
  unfold splitSign
  split
  · rename_i heq
    exact absurd (List.cons.inj heq).1 hminus
  · rename_i heq
    exact absurd (List.cons.inj heq).1 hplus
  · rfl

theorem lowered_ne_pair {x y : Char} (h : (a.toLower, b.toLower) ≠ (x, y)) (s more : List Char) :
    (a :: b :: s).map Char.toLower ≠ x :: y :: more := by
  intro heq
  simp only [List.map_cons, List.cons.injEq] at heq
  apply h
  rw [heq.1, heq.2.1]

theorem afterName_of_ne {x y : Char} (h : (a.toLower, b.toLower) ≠ (x, y)) (name : String)
    {more : List Char} (hname : name.toList = x :: y :: more) (s : List Char) :
    afterName name (a :: b :: s) = none := by
  have hlength : name.length = more.length + 1 + 1 := by
    rw [← String.length_toList, hname, List.length_cons, List.length_cons]
  rw [afterName, hlength, hname, List.take_succ_cons, List.take_succ_cons,
    if_neg (lowered_ne_pair h _ _)]

theorem readFinite_word (hdigit : digitValue? a = none) (hpoint : a ≠ '.') (negative : Bool)
    (s : List Char) : readFinite negative (a :: s) = none := by
  have htake : takeDigits (a :: s) = ([], a :: s) := by simp [takeDigits, hdigit]
  exact readFinite_of_no_digits negative htake (takePoint_of_ne hpoint s)

/-- A text that starts so is no numeral. -/
theorem ofText?_word (h : opensText a b = true)
    (htrim : trim (a :: b :: rest) = a :: b :: rest) : Number.ofText? (a :: b :: rest) = none := by
  simp only [opensText, Bool.and_eq_true, decide_eq_true_eq, Bool.not_eq_true', bne_iff_ne,
    List.contains_eq_mem, decide_eq_false_iff_not, List.mem_cons, List.not_mem_nil, or_false, not_or] at h
  obtain ⟨⟨⟨⟨hdigit, -⟩, hplus, hminus, hpoint, hlow⟩, hlow'⟩, hnan, hsnan, hinf⟩ := h
  have hinteger : readInteger (a :: b :: rest) = none := by
    rw [readInteger, htrim, splitSign_of_ne hplus hminus]
    simp [groupedDigits, hdigit]
  have hdecimal : readDecimal (a :: b :: rest) = none := by
    have hfilter : (a :: b :: rest).filter (· != '_') = a :: b :: rest.filter (· != '_') := by
      simp [hlow, hlow']
    have hbody : splitSign ((trim (a :: b :: rest)).filter (· != '_')) =
        (false, a :: b :: rest.filter (· != '_')) := by
      rw [htrim, hfilter, splitSign_of_ne hplus hminus]
    rw [readDecimal_of_no_name hbody (afterName_of_ne hnan "nan" rfl _)
      (afterName_of_ne hsnan "snan" rfl _) (lowered_ne_pair hinf _ ['f'])
      (lowered_ne_pair hinf _ ['f', 'i', 'n', 'i', 't', 'y'])]
    exact readFinite_word hdigit hpoint false _
  rw [Number.ofText?, hinteger, hdecimal]

end Words

end Written

/-! ## Forms -/

/-- The preferred way to read a form uses up the text. -/
def ReadsWhole (form : List DatePart) (r : Reading) (s : List Char) (r' : Reading) : Prop :=
  ∃ more, readParts form r s = (r', []) :: more

section Forms

variable {p : DatePart} {form : List DatePart} {r r₁ r' : Reading} {s s₁ rest : List Char}
  {more : List (Reading × List Char)} {month day year : Nat} {short : Bool} {d : Date}

theorem readsWhole_nil (r : Reading) : ReadsWhole [] r [] r := ⟨[], rfl⟩

theorem ReadsWhole.step (hrest : ReadsWhole form r₁ s₁ r') (h : p.read r s = (r₁, s₁) :: more) :
    ReadsWhole (p :: form) r s r' := by
  obtain ⟨others, hothers⟩ := hrest
  refine ⟨others ++ more.flatMap fun q => readParts form q.1 q.2, ?_⟩
  rw [readParts, h, List.flatMap_cons]
  show readParts form r₁ s₁ ++ _ = _
  rw [hothers, List.cons_append]

theorem readParts_of_nil (h : p.read r s = []) : readParts (p :: form) r s = [] := by
  rw [readParts, h, List.flatMap_nil]

theorem readForm?_of_readsWhole (h : ReadsWhole form {} s r') :
    readForm? form s = Date.of? r'.year r'.month r'.day := by
  obtain ⟨more, h⟩ := h
  rw [readForm?, h]

theorem readForm?_of_nil (h : readParts form {} s = []) : readForm? form s = none := by
  rw [readForm?, h]

/-! ### Pieces of a form -/

theorem ReadsWhole.mark {c : Char} (h : ReadsWhole form r rest r') :
    ReadsWhole (.mark c :: form) r (c :: rest) r' := by
  have hread : (DatePart.mark c).read r (c :: rest) = [(r, rest)] := by simp [DatePart.read]
  exact h.step hread

/-- One blank is a gap if no other comes behind it. -/
theorem gaps_space {c : Char} (hc : isBlank c = false) (rest : List Char) :
    gaps (' ' :: c :: rest) = [c :: rest] := by
  have hspace : isBlank ' ' = true := by decide
  simp [gaps, hspace, hc]

theorem ReadsWhole.gap (hs : Trimmed s) (h : ReadsWhole form r (s ++ rest) r') :
    ReadsWhole (.gap :: form) r (' ' :: (s ++ rest)) r' := by
  obtain ⟨c, t, rfl⟩ := List.exists_cons_of_ne_nil hs.ne_nil
  have hc : isBlank c = false := (trim_eq_self_iff.mp hs.trim_eq).1 c rfl
  rw [List.cons_append] at h ⊢
  exact h.step (by rw [DatePart.read, gaps_space hc]; rfl)

theorem monthNumbers_padded (hm : 1 ≤ month ∧ month ≤ 12) (rest : List Char) :
    ∃ more, monthNumbers ((padded 2 month).toList ++ '/' :: rest) = (month, '/' :: rest) :: more := by
  obtain ⟨hlow, hhigh⟩ := hm
  interval_cases month <;> exact ⟨_, rfl⟩

theorem ReadsWhole.monthNumber (hm : 1 ≤ month ∧ month ≤ 12)
    (h : ReadsWhole form { r with month := month } ('/' :: rest) r') :
    ReadsWhole (.monthNumber :: form) r ((padded 2 month).toList ++ '/' :: rest) r' := by
  obtain ⟨more, hread⟩ := monthNumbers_padded hm rest
  exact h.step (by rw [DatePart.read, hread, List.map_cons])

theorem dayNumbers_padded (hd : 1 ≤ day ∧ day ≤ 31) (rest : List Char) :
    ∃ more, dayNumbers ((padded 2 day).toList ++ '/' :: rest) = (day, '/' :: rest) :: more := by
  obtain ⟨hlow, hhigh⟩ := hd
  interval_cases day <;> exact ⟨_, rfl⟩

theorem ReadsWhole.paddedDay (hd : 1 ≤ day ∧ day ≤ 31)
    (h : ReadsWhole form { r with day := day } ('/' :: rest) r') :
    ReadsWhole (.day :: form) r ((padded 2 day).toList ++ '/' :: rest) r' := by
  obtain ⟨more, hread⟩ := dayNumbers_padded hd rest
  exact h.step (by rw [DatePart.read, hread, List.map_cons])

theorem dayNumbers_short {c : Char} (hlow : 1 ≤ day) (hhigh : day < 10) (hc : c = ' ' ∨ c = ',')
    (rest : List Char) : dayNumbers (Nat.toDigits 10 day ++ c :: rest) = [(day, c :: rest)] := by
  rcases hc with rfl | rfl
  · interval_cases day <;> rfl
  · interval_cases day <;> rfl

theorem dayNumbers_long {c : Char} (hlow : 10 ≤ day) (hhigh : day ≤ 31) (rest : List Char) :
    dayNumbers (Nat.toDigits 10 day ++ c :: rest) =
      [(day, c :: rest), (day / 10, Nat.digitChar (day % 10) :: c :: rest)] := by
  interval_cases day <;> rfl

/-- A day that is not padded is read whole or, second, but for its last digit. -/
theorem dayNumbers_plain {c : Char} (hd : 1 ≤ day ∧ day ≤ 31) (hc : c = ' ' ∨ c = ',')
    (rest : List Char) :
    ∃ more, dayNumbers (Nat.toDigits 10 day ++ c :: rest) = (day, c :: rest) :: more ∧
      ∀ x ∈ more, x.2 = Nat.digitChar (day % 10) :: c :: rest := by
  obtain ⟨hlow, hhigh⟩ := hd
  rcases Nat.lt_or_ge day 10 with hshort | hlong
  · refine ⟨[], dayNumbers_short hlow hshort hc rest, ?_⟩
    intro x hx
    cases hx
  · refine ⟨_, dayNumbers_long hlong hhigh rest, ?_⟩
    intro x hx
    rw [List.mem_singleton.mp hx]

theorem ReadsWhole.plainDay {c : Char} (hd : 1 ≤ day ∧ day ≤ 31) (hc : c = ' ' ∨ c = ',')
    (h : ReadsWhole form { r with day := day } (c :: rest) r') :
    ReadsWhole (.day :: form) r (Nat.toDigits 10 day ++ c :: rest) r' := by
  obtain ⟨more, hread, -⟩ := dayNumbers_plain hd hc rest
  exact h.step (by rw [DatePart.read, hread, List.map_cons])

theorem yearNumber_padded (hy : year < 10 ^ 4) :
    yearNumber (padded 4 year).toList = [(year, [])] := by
  have hlength := padded_length (by decide : 0 < 4) hy
  have hdigits := padded_isDigit 4 year
  have hvalue := padded_value 4 year
  match hds : (padded 4 year).toList, hlength with
  | [a, b, c, d], _ =>
    rw [hds] at hdigits hvalue
    simp only [List.forall_mem_cons] at hdigits
    obtain ⟨ha, hb, hc, hd, -⟩ := hdigits
    simp only [Nat.ofDigitChars_cons, Nat.ofDigitChars_nil] at hvalue
    simp only [yearNumber, digitValue?_of_isDigit ha, digitValue?_of_isDigit hb,
      digitValue?_of_isDigit hc, digitValue?_of_isDigit hd]
    have hzero : '0'.toNat = 48 := rfl
    have : 1000 * (a.toNat - 48) + 100 * (b.toNat - 48) + 10 * (c.toNat - 48) + (d.toNat - 48) =
      year := by omega
    rw [this]

/-- The year ends the text. -/
theorem readsWhole_year (hy : year < 10 ^ 4) (r : Reading) :
    ReadsWhole [.year] r (padded 4 year).toList { r with year := year } :=
  (readsWhole_nil _).step (by rw [DatePart.read, yearNumber_padded hy, List.map_cons])

/-! ### Names of months -/

theorem monthWord_cons (hm : 1 ≤ month ∧ month ≤ 12) (short : Bool) :
    ∃ a b w, monthWord short month = a :: b :: w ∧ opensText a b = true := by
  obtain ⟨hlow, hhigh⟩ := hm
  cases short
  · interval_cases month <;> exact ⟨_, _, _, rfl, by decide⟩
  · interval_cases month <;> exact ⟨_, _, _, rfl, by decide⟩

theorem namedMonth_full (hm : 1 ≤ month ∧ month ≤ 12) (rest : List Char) :
    namedMonth (monthWord false month ++ ' ' :: rest) 1 monthNames = [(month, ' ' :: rest)] := by
  obtain ⟨hlow, hhigh⟩ := hm
  interval_cases month <;> rfl

theorem namedMonth_short (hm : 1 ≤ month ∧ month ≤ 12) (rest : List Char) :
    namedMonth (monthWord true month ++ ' ' :: rest) 1 (monthNames.map shortName) =
      [(month, ' ' :: rest)] := by
  obtain ⟨hlow, hhigh⟩ := hm
  interval_cases month <;> rfl

/-- The short name of May is its full name; no other short name is one. -/
theorem monthWord_may : monthWord true 5 = monthWord false 5 := rfl

theorem namedMonth_abbreviated (hm : 1 ≤ month ∧ month ≤ 12) (hmay : month ≠ 5)
    (rest : List Char) : namedMonth (monthWord true month ++ ' ' :: rest) 1 monthNames = [] := by
  obtain ⟨hlow, hhigh⟩ := hm
  rcases Nat.lt_or_gt_of_ne hmay with hbefore | hbehind
  · interval_cases month <;> rfl
  · interval_cases month <;> rfl

theorem namedMonth_digits (hd : 1 ≤ day ∧ day ≤ 31) (rest : List Char) :
    namedMonth (Nat.toDigits 10 day ++ ' ' :: rest) 1 monthNames = [] ∧
      namedMonth (Nat.toDigits 10 day ++ ' ' :: rest) 1 (monthNames.map shortName) = [] := by
  obtain ⟨hlow, hhigh⟩ := hd
  interval_cases day <;> exact ⟨rfl, rfl⟩

theorem monthNumbers_word (hm : 1 ≤ month ∧ month ≤ 12) (short : Bool) (rest : List Char) :
    monthNumbers (monthWord short month ++ rest) = [] := by
  obtain ⟨hlow, hhigh⟩ := hm
  cases short
  · interval_cases month <;> rfl
  · interval_cases month <;> rfl

theorem ReadsWhole.monthName (hm : 1 ≤ month ∧ month ≤ 12)
    (h : ReadsWhole form { r with month := month } (' ' :: rest) r') :
    ReadsWhole (.monthName :: form) r (monthWord false month ++ ' ' :: rest) r' :=
  h.step (by rw [DatePart.read, namedMonth_full hm, List.map_cons])

theorem ReadsWhole.shortMonthName (hm : 1 ≤ month ∧ month ≤ 12)
    (h : ReadsWhole form { r with month := month } (' ' :: rest) r') :
    ReadsWhole (.shortMonthName :: form) r (monthWord true month ++ ' ' :: rest) r' :=
  h.step (by rw [DatePart.read, namedMonth_short hm, List.map_cons])

/-! ### The form that is meant -/

/-- The year stands at the end, behind a gap. -/
theorem readsWhole_gap_year (hy : year < 10 ^ 4) (r : Reading) :
    ReadsWhole [.gap, .year] r (' ' :: (padded 4 year).toList) { r with year := year } := by
  have hyear := readsWhole_year hy r
  rw [← List.append_nil (padded 4 year).toList] at hyear ⊢
  exact hyear.gap (trimmed_padded 4 year)

/-- What stands behind the name of the month if the name comes first. -/
theorem readsWhole_day_year (hd : 1 ≤ day ∧ day ≤ 31) (hy : year < 10 ^ 4) (r : Reading) :
    ReadsWhole [.gap, .day, .mark ',', .gap, .year] r
      (' ' :: (Nat.toDigits 10 day ++ ',' :: ' ' :: (padded 4 year).toList))
      { r with day := day, year := year } := by
  have hyear := readsWhole_gap_year hy { r with day := day }
  exact (ReadsWhole.plainDay hd (Or.inr rfl) hyear.mark).gap (trimmed_toDigits day)

theorem of?_of_isValid (h : d.isValid = true) : Date.of? d.year d.month d.day = some d := by
  simp [Date.of?, h]

theorem readWritten?_slashed (h : d.isValid = true) :
    readWritten? (d.written .slashed) = some d := by
  obtain ⟨hyear, hmonth, hday⟩ := bounds_of_isValid h
  have hwhole : ReadsWhole [.monthNumber, .mark '/', .day, .mark '/', .year] {} (d.written .slashed)
      ⟨d.year, d.month, d.day⟩ :=
    ReadsWhole.monthNumber hmonth (.mark (.paddedDay hday (.mark (readsWhole_year hyear _))))
  simp [readWritten?, writtenForms, readForm?_of_readsWhole hwhole, of?_of_isValid h]

/-- No form that starts with a number reads a text that starts with a name. -/
theorem readForm?_number_word (hm : 1 ≤ month ∧ month ≤ 12) (rest : List Char) :
    readForm? (.monthNumber :: form) (monthWord short month ++ rest) = none := by
  apply readForm?_of_nil
  apply readParts_of_nil
  rw [DatePart.read, monthNumbers_word hm, List.map_nil]

/-- In May it makes no difference whether the name of the month is short. -/
theorem written_may (h : d.month = 5) :
    d.written (.monthFirst true) = d.written (.monthFirst false) ∧
      d.written (.dayFirst true) = d.written (.dayFirst false) := by
  simp only [Date.written, h, monthWord_may, and_self]

theorem readWritten?_monthFirst_full (h : d.isValid = true) :
    readWritten? (d.written (.monthFirst false)) = some d := by
  obtain ⟨hyear, hmonth, hday⟩ := bounds_of_isValid h
  have hwhole : ReadsWhole [.monthName, .gap, .day, .mark ',', .gap, .year] {}
      (d.written (.monthFirst false)) ⟨d.year, d.month, d.day⟩ :=
    ReadsWhole.monthName hmonth (readsWhole_day_year hday hyear _)
  have hnumber : readForm? [.monthNumber, .mark '/', .day, .mark '/', .year]
      (d.written (.monthFirst false)) = none := readForm?_number_word hmonth _
  simp [readWritten?, writtenForms, hnumber, readForm?_of_readsWhole hwhole, of?_of_isValid h]

theorem readWritten?_monthFirst (h : d.isValid = true) (short : Bool) :
    readWritten? (d.written (.monthFirst short)) = some d := by
  obtain ⟨hyear, hmonth, hday⟩ := bounds_of_isValid h
  cases short with
  | false => exact readWritten?_monthFirst_full h
  | true =>
    by_cases hmay : d.month = 5
    · rw [(written_may hmay).1]
      exact readWritten?_monthFirst_full h
    · have hwhole : ReadsWhole [.shortMonthName, .gap, .day, .mark ',', .gap, .year] {}
          (d.written (.monthFirst true)) ⟨d.year, d.month, d.day⟩ :=
        ReadsWhole.shortMonthName hmonth (readsWhole_day_year hday hyear _)
      have hnumber : readForm? [.monthNumber, .mark '/', .day, .mark '/', .year]
          (d.written (.monthFirst true)) = none := readForm?_number_word hmonth _
      have hfull : readForm? [.monthName, .gap, .day, .mark ',', .gap, .year]
          (d.written (.monthFirst true)) = none := by
        apply readForm?_of_nil
        apply readParts_of_nil
        rw [DatePart.read, Date.written, namedMonth_abbreviated hmonth hmay, List.map_nil]
      simp [readWritten?, writtenForms, hnumber, hfull, readForm?_of_readsWhole hwhole,
        of?_of_isValid h]

/-- No form that starts with a month reads a text that starts with a day. -/
theorem readForm?_digits (form : List DatePart) (hd : 1 ≤ day ∧ day ≤ 31) (rest : List Char) :
    readForm? [.monthNumber, .mark '/', .day, .mark '/', .year] (Nat.toDigits 10 day ++ ' ' :: rest) =
        none ∧
      readForm? (.monthName :: form) (Nat.toDigits 10 day ++ ' ' :: rest) = none ∧
      readForm? (.shortMonthName :: form) (Nat.toDigits 10 day ++ ' ' :: rest) = none := by
  obtain ⟨hfull, hshort⟩ := namedMonth_digits hd rest
  obtain ⟨hlow, hhigh⟩ := hd
  refine ⟨?_, ?_, ?_⟩
  · apply readForm?_of_nil
    interval_cases day <;> rfl
  · apply readForm?_of_nil
    apply readParts_of_nil
    rw [DatePart.read, hfull, List.map_nil]
  · apply readForm?_of_nil
    apply readParts_of_nil
    rw [DatePart.read, hshort, List.map_nil]

theorem readWritten?_dayFirst_full (h : d.isValid = true) :
    readWritten? (d.written (.dayFirst false)) = some d := by
  obtain ⟨hyear, hmonth, hday⟩ := bounds_of_isValid h
  have hwhole : ReadsWhole [.day, .gap, .monthName, .gap, .year] {}
      (d.written (.dayFirst false)) ⟨d.year, d.month, d.day⟩ :=
    ReadsWhole.plainDay hday (Or.inl rfl)
      ((ReadsWhole.monthName hmonth (readsWhole_gap_year hyear _)).gap (trimmed_monthWord hmonth false))
  obtain ⟨hnumber, hname, hshort⟩ := readForm?_digits [.gap, .day, .mark ',', .gap, .year] hday
    (monthWord false d.month ++ ' ' :: (padded 4 d.year).toList)
  simp only [Date.written] at hwhole ⊢
  simp [readWritten?, writtenForms, hnumber, hname, hshort, readForm?_of_readsWhole hwhole,
    of?_of_isValid h]

theorem isBlank_digitChar (n : Nat) : isBlank (Nat.digitChar (n % 10)) = false := by
  have hall : ∀ k < 10, isBlank (Nat.digitChar k) = false := by decide
  exact hall _ (Nat.mod_lt _ (by decide))

/-- If nothing is read behind the day and the gap, no part of the day's digits helps. -/
theorem readParts_day_gap (hd : 1 ≤ day ∧ day ≤ 31) (hs : Trimmed s)
    (h : ∀ r, readParts form r (s ++ rest) = []) (r : Reading) :
    readParts (.day :: .gap :: form) r (Nat.toDigits 10 day ++ ' ' :: (s ++ rest)) = [] := by
  obtain ⟨more, hread, hmore⟩ := dayNumbers_plain hd (Or.inl rfl) (s ++ rest)
  obtain ⟨c, t, rfl⟩ := List.exists_cons_of_ne_nil hs.ne_nil
  have hc : isBlank c = false := (trim_eq_self_iff.mp hs.trim_eq).1 c rfl
  rw [readParts, DatePart.read, hread, List.map_cons, List.flatMap_cons, List.append_eq_nil_iff]
  constructor
  · show readParts (.gap :: form) _ _ = []
    rw [readParts, DatePart.read, List.cons_append, gaps_space hc, List.map_singleton,
      List.flatMap_singleton]
    exact h _
  · rw [List.flatMap_eq_nil_iff]
    intro x hx
    obtain ⟨y, hy, rfl⟩ := List.mem_map.mp hx
    apply readParts_of_nil
    simp [DatePart.read, hmore y hy, gaps, isBlank_digitChar]

theorem readWritten?_dayFirst (h : d.isValid = true) (short : Bool) :
    readWritten? (d.written (.dayFirst short)) = some d := by
  obtain ⟨hyear, hmonth, hday⟩ := bounds_of_isValid h
  cases short with
  | false => exact readWritten?_dayFirst_full h
  | true =>
    by_cases hmay : d.month = 5
    · rw [(written_may hmay).2]
      exact readWritten?_dayFirst_full h
    · have hword := trimmed_monthWord hmonth true
      have hwhole : ReadsWhole [.day, .gap, .shortMonthName, .gap, .year] {}
          (d.written (.dayFirst true)) ⟨d.year, d.month, d.day⟩ :=
        ReadsWhole.plainDay hday (Or.inl rfl)
          ((ReadsWhole.shortMonthName hmonth (readsWhole_gap_year hyear _)).gap hword)
      have hfull : readForm? [.day, .gap, .monthName, .gap, .year] (d.written (.dayFirst true)) =
          none := by
        apply readForm?_of_nil
        apply readParts_day_gap hday hword
        intro r
        apply readParts_of_nil
        rw [DatePart.read, namedMonth_abbreviated hmonth hmay, List.map_nil]
      obtain ⟨hnumber, hname, hshort⟩ := readForm?_digits [.gap, .day, .mark ',', .gap, .year] hday
        (monthWord true d.month ++ ' ' :: (padded 4 d.year).toList)
      simp only [Date.written] at hwhole hfull ⊢
      simp [readWritten?, writtenForms, hnumber, hname, hshort, hfull,
        readForm?_of_readsWhole hwhole, of?_of_isValid h]

end Forms

/-! ## What a rule sees -/

/-- A written day is no moment in the standard form, unless it is meant to be one. -/
theorem readIso?_written {d : Date} (h : d.isValid = true) {style : DateStyle}
    (hstyle : style ≠ .iso) : Stamp.readIso? (d.written style) = none := by
  obtain ⟨-, hmonth, hday⟩ := bounds_of_isValid h
  cases style with
  | iso => exact absurd rfl hstyle
  | slashed =>
    have hlength : (padded 2 d.month).toList.length < 4 := by
      rw [padded_length (by decide) (by omega : d.month < 10 ^ 2)]
      decide
    exact readIso?_stopped (padded_isDigit 2 d.month) hlength (by decide) _
  | monthFirst short =>
    obtain ⟨a, b, w, hword, hopens⟩ := monthWord_cons hmonth short
    simp only [opensText, Bool.and_eq_true, decide_eq_true_eq] at hopens
    have hnone : ∀ c ∈ ([] : List Char), c.isDigit = true := by simp
    rw [Date.written, hword]
    exact readIso?_stopped hnone (by decide) hopens.1.1.1.2 _
  | dayFirst short =>
    have hlength : (Nat.toDigits 10 d.day).length < 4 := by
      have := (Nat.length_toDigits_le_iff (by decide : 1 < 10) (by decide : 0 < 2)).mpr
        (by omega : d.day < 10 ^ 2)
      omega
    exact readIso?_stopped (toDigits_isDigit d.day) hlength (by decide) _

/-- A written day is no numeral. -/
theorem ofText?_written {d : Date} (h : d.isValid = true) (style : DateStyle) :
    Number.ofText? (d.written style) = none := by
  obtain ⟨-, hmonth, hday⟩ := bounds_of_isValid h
  have htrim := (trimmed_written h style).trim_eq
  cases style with
  | iso =>
    have hnumber : Number.ofText? (d.isoText.toList ++ []) = none := by
      apply ofText?_isoText
      rw [List.append_nil]
      exact isoText_solid d
    rwa [List.append_nil] at hnumber
  | slashed => exact ofText?_stopped (padded_ne_nil 2 d.month) (padded_isDigit 2 d.month) (by decide) htrim
  | monthFirst short =>
    obtain ⟨a, b, w, hword, hopens⟩ := monthWord_cons hmonth short
    rw [Date.written, hword] at htrim ⊢
    exact ofText?_word hopens htrim
  | dayFirst short =>
    exact ofText?_stopped Nat.toDigits_ne_nil (toDigits_isDigit d.day) (by decide) htrim

namespace Rules

/-- Outer blanks do not count. -/
theorem parseText_of_trim_eq {s t : List Char} (h : trim s = trim t) : parseText s = parseText t := by
  simp only [parseText, h]

section Agree

variable {front back : List Char} {d : Date} {s : Stamp} {m : Moment}

theorem parseMoment_surrounded (hfront : ∀ c ∈ front, isBlank c = true)
    (hback : ∀ c ∈ back, isBlank c = true) (t : List Char) :
    parseMoment (.text (String.ofList (front ++ t ++ back))) = parseText t := by
  have htrim : trim (front ++ t ++ back) = trim t := by
    rw [trim_append_blank hback, trim_append_of_blank hfront]
  rw [parseMoment, String.toList_ofList, parseText_of_trim_eq htrim]

theorem parseText_written (h : d.isValid = true) (style : DateStyle) :
    parseText (d.written style) = .ok (some (Moment.midnight d)) := by
  obtain ⟨hne, htrim⟩ := trimmed_written h style
  have hnumber := ofText?_written h style
  cases style with
  | iso =>
    have hdate := parseMoment_dateText h
    rw [parseMoment, parseMoment] at hdate
    exact hdate
  | slashed =>
    simp [parseText, htrim, hne, hnumber, readIso?_written h, readWritten?_slashed h]
  | monthFirst short =>
    simp [parseText, htrim, hne, hnumber, readIso?_written h, readWritten?_monthFirst h]
  | dayFirst short =>
    simp [parseText, htrim, hne, hnumber, readIso?_written h, readWritten?_dayFirst h]

theorem parseText_isoText (h : s.Regular) : parseText s.isoText.toList = parseMoment (.stamp s) := by
  have hstamp := parseMoment_stampText h
  rwa [parseMoment] at hstamp

theorem valid_of_regular (h : s.Regular) : s.Valid where
  moment := ⟨h.date, h.hour, h.minute, h.second, h.micro⟩
  offset o ho := (h.offset o ho).1

/-- A moment is seen in universal time, exactly. -/
theorem parseMoment_stamp_eq_ok_iff (h : s.Valid) :
    parseMoment (.stamp s) = .ok (some m) ↔ m.Valid ∧ m.instant = s.instant := by
  rw [← Stamp.toUniversal?_eq_some_iff h, parseMoment, universal]
  cases s.toUniversal? with
  | none => simp [Except.map]
  | some k => simp [Except.map]

/-- **Texts and objects agree.**  A moment is read again from its standard text, so that both come to the
same moment in universal time, or to none; and a day is read from each of its texts as its midnight. -/
theorem texts_and_objects_agree (hfront : ∀ c ∈ front, isBlank c = true)
    (hback : ∀ c ∈ back, isBlank c = true) :
    (∀ s : Stamp, s.Regular →
      parseMoment (.text (String.ofList (front ++ s.isoText.toList ++ back))) =
          parseMoment (.stamp s) ∧
        ∀ m : Moment, parseMoment (.stamp s) = .ok (some m) ↔ m.Valid ∧ m.instant = s.instant) ∧
    ∀ d : Date, d.isValid = true →
      parseMoment (.date d) = .ok (some (.midnight d)) ∧
        ∀ style : DateStyle,
          parseMoment (.text (String.ofList (front ++ d.written style ++ back))) =
            .ok (some (.midnight d)) := by
  constructor
  · intro s hs
    constructor
    · rw [parseMoment_surrounded hfront hback, parseText_isoText hs]
    · intro m
      exact parseMoment_stamp_eq_ok_iff (valid_of_regular hs)
  · intro d hd
    refine ⟨rfl, ?_⟩
    intro style
    rw [parseMoment_surrounded hfront hback, parseText_written hd]

/-- A moment that lies, in universal time, on the last day of February. -/
def eveningStamp : Stamp := ⟨⟨⟨2024, 3, 1⟩, 0, 30, 0, 0⟩, some 3600⟩

theorem eveningStamp_regular : eveningStamp.Regular where
  date := by decide
  hour := by decide
  minute := by decide
  second := by decide
  micro := by decide
  offset := by
    intro o ho
    cases ho
    decide

/-- That moment and that day, between blanks. -/
theorem texts_and_objects_agree_leap :
    (∀ c ∈ [' ', '\t'], isBlank c = true) ∧ (∀ c ∈ ['\n'], isBlank c = true) ∧
      (parseMoment (.text (String.ofList ([' ', '\t'] ++ eveningStamp.isoText.toList ++ ['\n']))) =
          parseMoment (.stamp eveningStamp) ∧
        ∀ m : Moment, parseMoment (.stamp eveningStamp) = .ok (some m) ↔
          m.Valid ∧ m.instant = eveningStamp.instant) ∧
      ∀ style : DateStyle,
        parseMoment (.text (String.ofList ([' ', '\t'] ++ Date.written ⟨2024, 2, 29⟩ style ++
          ['\n']))) = .ok (some (.midnight ⟨2024, 2, 29⟩)) := by
  have hfront : ∀ c ∈ [' ', '\t'], isBlank c = true := List.all_eq_true.mp (by decide)
  have hback : ∀ c ∈ ['\n'], isBlank c = true := List.all_eq_true.mp (by decide)
  obtain ⟨hmoments, hdays⟩ := texts_and_objects_agree hfront hback
  exact ⟨hfront, hback, hmoments _ eveningStamp_regular, (hdays ⟨2024, 2, 29⟩ (by decide)).2⟩

end Agree

end Rules

end FieldCheck
