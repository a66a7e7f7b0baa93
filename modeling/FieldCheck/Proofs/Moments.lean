import FieldCheck.Proofs.Forms
import FieldCheck.Rule.Dates

/-!
# Numbers and moments, read again

Integers, dates and moments are read again from the texts that write them.

* `fixedNumber_padded`, `fractionDigits_padded` — numbers with zeros in front.
* `ofText?_integerText` — integers.
* `takeIso?_isoText`, `takeClock?_clockText`, `readZone?_offsetText` — the parts of a moment.
* `Stamp.Regular` — the moments of the calendar, with an offset of whole minutes if they have one.
* `parseMoment_dateText`, `parseMoment_stampText` — a rule sees the same moment in either form.
-/

set_option autoImplicit false

-- a power of naturals is that of the numbers themselves, not that of a monoid
attribute [local instance (1100)] instPowNat

namespace FieldCheck

open Text

/-! ## Digits -/

theorem digitIn?_of_isDigit {c : Char} (h : c.isDigit = true) :
    digitIn? 10 c = some (c.toNat - 48) := by
  have hbelow : c.toNat ≤ 57 := (Char.isDigit_iff_toNat.mp h).2
  have : c.toNat - 48 < 10 := by omega
  simp [digitIn?, h, this]

theorem digitValue?_of_isDigit {c : Char} (h : c.isDigit = true) :
    digitValue? c = some (c.toNat - 48) := by
  have hbelow : c.toNat ≤ 57 := (Char.isDigit_iff_toNat.mp h).2
  rw [digitValue?, if_pos (by omega), digitIn?_of_isDigit h]

/-- As many digits as are asked for are read, and no more. -/
theorem fixedNumber_digits {ds : List Char} (h : ∀ c ∈ ds, c.isDigit = true) (acc : Nat)
    (rest : List Char) :
    fixedNumber ds.length acc (ds ++ rest) = some (Nat.ofDigitChars 10 ds acc, rest) := by
  induction ds generalizing acc with
  | nil => simp [fixedNumber]
  | cons c ds ih =>
    obtain ⟨hc, hds⟩ := List.forall_mem_cons.mp h
    rw [List.length_cons, List.cons_append, fixedNumber, digitIn?_of_isDigit hc,
      Nat.ofDigitChars_cons]
    exact ih hds _

theorem padded_isDigit (width n : Nat) : ∀ c ∈ (padded width n).toList, c.isDigit = true := by
  intro c hc
  rw [padded, String.toList_ofList, List.mem_append, List.mem_replicate] at hc
  rcases hc with ⟨-, rfl⟩ | hc
  · decide
  · exact Nat.isDigit_of_mem_toDigits (by decide) (by decide) hc

theorem padded_length {width n : Nat} (hwidth : 0 < width) (h : n < 10 ^ width) :
    (padded width n).toList.length = width := by
  have : (Nat.toDigits 10 n).length ≤ width := (Nat.length_toDigits_le_iff (by decide) hwidth).mpr h
  simp only [padded, String.toList_ofList, List.length_append, List.length_replicate]
  omega

theorem padded_value (width n : Nat) : Nat.ofDigitChars 10 (padded width n).toList 0 = n := by
  rw [padded, String.toList_ofList, Nat.ofDigitChars_append, Nat.ofDigitChars_replicate_zero,
    Nat.mul_zero, Nat.ofDigitChars_ten_toDigits]

theorem fixedNumber_padded {width n : Nat} (hwidth : 0 < width) (h : n < 10 ^ width)
    (rest : List Char) :
    fixedNumber width 0 ((padded width n).toList ++ rest) = some (n, rest) := by
  have hread := fixedNumber_digits (padded_isDigit width n) 0 rest
  rwa [padded_length hwidth h, padded_value] at hread

/-- What comes behind digits does not go on with one. -/
def NoDigitFirst (rest : List Char) : Prop := ∀ c ∈ rest.head?, digitIn? 10 c = none

theorem fractionDigits_of_noDigitFirst {rest : List Char} (h : NoDigitFirst rest) (scale acc : Nat) :
    fractionDigits scale acc rest = (acc, rest) := by
  cases rest with
  | nil => rfl
  | cons c rest => rw [fractionDigits, h c rfl]

/-- A digit of a fraction counts for as much as the digits behind it leave. -/
theorem fractionDigits_digits {ds rest : List Char} (h : ∀ c ∈ ds, c.isDigit = true)
    (hrest : NoDigitFirst rest) (acc : Nat) :
    fractionDigits (10 ^ ds.length / 10) acc (ds ++ rest) =
      (acc + Nat.ofDigitChars 10 ds 0, rest) := by
  induction ds generalizing acc with
  | nil => rw [List.nil_append, fractionDigits_of_noDigitFirst hrest, Nat.ofDigitChars_nil]; rfl
  | cons c ds ih =>
    obtain ⟨hc, hds⟩ := List.forall_mem_cons.mp h
    have hscale : 10 ^ (c :: ds).length / 10 = 10 ^ ds.length := by
      rw [List.length_cons, Nat.pow_succ, Nat.mul_div_cancel _ (by decide)]
    rw [hscale, List.cons_append, fractionDigits, digitIn?_of_isDigit hc]
    show fractionDigits _ (acc + (c.toNat - '0'.toNat) * _) _ = _
    rw [ih hds, Nat.ofDigitChars_cons, Nat.mul_zero, Nat.zero_add,
      @Nat.ofDigitChars_eq_ofDigitChars_zero ds (c.toNat - '0'.toNat), Nat.add_assoc, Nat.mul_comm]

theorem fractionDigits_padded {n : Nat} (h : n < 1000000) {rest : List Char}
    (hrest : NoDigitFirst rest) :
    fractionDigits 100000 0 ((padded 6 n).toList ++ rest) = (n, rest) := by
  have hread := fractionDigits_digits (padded_isDigit 6 n) hrest 0
  rwa [padded_length (by decide) h, padded_value, Nat.zero_add] at hread

/-! ## Integers -/

theorem groupedDigits_digits {ds : List Char} (h : ∀ c ∈ ds, c.isDigit = true) :
    groupedDigits true ds = some (ds.map fun c => c.toNat - 48) := by
  induction ds with
  | nil => rfl
  | cons c ds ih =>
    obtain ⟨hc, hds⟩ := List.forall_mem_cons.mp h
    rw [groupedDigits, digitValue?_of_isDigit hc, List.map_cons]
    simp only [ih hds, Option.map_some]

theorem groupedDigits_first {ds : List Char} (hne : ds ≠ []) (h : ∀ c ∈ ds, c.isDigit = true) :
    groupedDigits false ds = groupedDigits true ds := by
  cases ds with
  | nil => exact absurd rfl hne
  | cons c ds =>
    obtain ⟨hc, -⟩ := List.forall_mem_cons.mp h
    rw [groupedDigits, groupedDigits, digitValue?_of_isDigit hc]

theorem splitSign_of_isDigit {c : Char} (h : c.isDigit = true) (s : List Char) :
    splitSign (c :: s) = (false, c :: s) := by
  unfold splitSign
  split
  · rename_i heq
    cases heq
    cases h
  · rename_i heq
    cases heq
    cases h
  · rfl

theorem toDigits_isDigit (n : Nat) : ∀ c ∈ Nat.toDigits 10 n, c.isDigit = true :=
  fun _ hc => Nat.isDigit_of_mem_toDigits (by decide) (by decide) hc

theorem splitSign_integerText (n : Int) :
    splitSign (integerText n) = (decide (n < 0), Nat.toDigits 10 n.natAbs) := by
  unfold integerText
  split
  · rename_i hneg
    simp [splitSign, hneg]
  · rename_i hneg
    have hdigits := toDigits_isDigit n.natAbs
    cases hds : Nat.toDigits 10 n.natAbs with
    | nil => exact absurd hds Nat.toDigits_ne_nil
    | cons c ds =>
      rw [hds] at hdigits
      rw [splitSign_of_isDigit (hdigits c List.mem_cons_self)]
      simp [hneg]

/-- An integer is read again, unless it has too many digits. -/
theorem readInteger_integerText {n : Int} (h : (Nat.toDigits 10 n.natAbs).length ≤ digitLimit) :
    readInteger (integerText n) = some n := by
  have hvalue : digitsValue 10 ((Nat.toDigits 10 n.natAbs).map fun c => c.toNat - 48) = n.natAbs := by
    rw [digitsValue, List.foldl_map]
    exact Nat.ofDigitChars_ten_toDigits
  have hlimit : ¬digitLimit < (Nat.toDigits 10 n.natAbs).length := Nat.not_lt.mpr h
  have hdigits := toDigits_isDigit n.natAbs
  rw [readInteger, trim_of_solid (integerText_solid n), splitSign_integerText]
  simp only [groupedDigits_first Nat.toDigits_ne_nil hdigits, groupedDigits_digits hdigits,
    List.length_map, hlimit, if_false, hvalue, Option.some.injEq]
  split
  · rename_i hneg
    have : n < 0 := by simpa using hneg
    omega
  · rename_i hneg
    have : ¬n < 0 := by simpa using hneg
    omega

theorem ofText?_integerText {n : Int} (h : (Nat.toDigits 10 n.natAbs).length ≤ digitLimit) :
    Number.ofText? (integerText n) = some (.int n) := by
  rw [Number.ofText?, readInteger_integerText h]

/-! ## Days -/

@[simp] theorem after?_cons (c : Char) (rest : List Char) : after? c (c :: rest) = some rest := by
  simp [after?]

theorem daysInMonth_le (year month : Nat) : Date.daysInMonth year month ≤ 31 := by
  unfold Date.daysInMonth
  split
  · split <;> decide
  all_goals decide

theorem isoText_toList_append (d : Date) (rest : List Char) :
    d.isoText.toList ++ rest = (padded 4 d.year).toList ++ '-' ::
      ((padded 2 d.month).toList ++ '-' :: ((padded 2 d.day).toList ++ rest)) := by
  simp [Date.isoText, String.toList_append]

theorem takeIso?_isoText {d : Date} (h : d.isValid = true) (rest : List Char) :
    Date.takeIso? (d.isoText.toList ++ rest) = some (d, rest) := by
  have hvalid := h
  simp only [Date.isValid, Bool.and_eq_true, decide_eq_true_eq] at hvalid
  obtain ⟨⟨⟨⟨⟨-, hyear⟩, -⟩, hmonth⟩, -⟩, hday⟩ := hvalid
  have hday' := daysInMonth_le d.year d.month
  have hof : Date.of? d.year d.month d.day = some d := by simp [Date.of?, h]
  rw [isoText_toList_append]
  simp only [Date.takeIso?, Option.bind_eq_bind, Option.bind_some, after?_cons, hof,
    fixedNumber_padded (by decide : 0 < 4) (by omega : d.year < 10 ^ 4),
    fixedNumber_padded (by decide : 0 < 2) (by omega : d.month < 10 ^ 2),
    fixedNumber_padded (by decide : 0 < 2) (by omega : d.day < 10 ^ 2)]

/-! ## Times of day -/

/-- The moments of the calendar, with an offset of whole minutes if they have one. -/
structure Stamp.Regular (s : Stamp) : Prop where
  date : s.moment.date.isValid = true
  hour : s.moment.hour ≤ 23
  minute : s.moment.minute ≤ 59
  second : s.moment.second ≤ 59
  micro : s.moment.micro < 1000000
  offset : ∀ o ∈ s.offset, o.natAbs < 86400 ∧ o.natAbs % 60 = 0

/-- What may stand behind a time of day: nothing, or a sign. -/
def SignFirst (rest : List Char) : Prop := ∀ c ∈ rest.head?, c = '+' ∨ c = '-'

theorem SignFirst.noDigitFirst {rest : List Char} (h : SignFirst rest) : NoDigitFirst rest := by
  intro c hc
  rcases h c hc with rfl | rfl
  · decide
  · decide

theorem takeFraction?_of_signFirst {rest : List Char} (h : SignFirst rest) :
    takeFraction? rest = some (0, rest) := by
  match rest, h with
  | [], _ => rfl
  | [c], h =>
    rcases h c rfl with rfl | rfl
    · rfl
    · rfl
  | c :: d :: rest, h =>
    rcases h c rfl with rfl | rfl
    · rfl
    · rfl

theorem takeFraction?_padded {n : Nat} (h : n < 1000000) {rest : List Char}
    (hrest : NoDigitFirst rest) :
    takeFraction? ('.' :: ((padded 6 n).toList ++ rest)) = some (n, rest) := by
  have hread := fractionDigits_padded h hrest
  have hdigits := padded_isDigit 6 n
  have hlength := padded_length (by decide : 0 < 6) h
  cases hds : (padded 6 n).toList with
  | nil => simp [hds] at hlength
  | cons c ds =>
    rw [hds] at hread hdigits
    have hc := digitIn?_of_isDigit (hdigits c List.mem_cons_self)
    rw [List.cons_append] at hread ⊢
    simp only [takeFraction?, hc, Option.isSome_some, if_true, hread]
    rfl

theorem takeClock?_clockText {s : Stamp} (h : s.Regular) {rest : List Char}
    (hrest : SignFirst rest) :
    takeClock? s.moment.date (s.moment.clockText.toList ++ rest) = some (s.moment, rest) := by
  obtain ⟨⟨d, hour, minute, second, micro⟩, offset⟩ := s
  obtain ⟨-, hhour, hminute, hsecond, hmicro, -⟩ := h
  simp only at hhour hminute hsecond hmicro ⊢
  have hfraction : takeFraction? ((if micro = 0 then "" else "." ++ padded 6 micro).toList ++ rest) =
      some (micro, rest) := by
    split
    · rename_i hzero
      rw [hzero, String.toList_empty, List.nil_append]
      exact takeFraction?_of_signFirst hrest
    · have hpoint : ".".toList = ['.'] := by decide
      rw [String.toList_append, hpoint, List.append_assoc, List.singleton_append]
      exact takeFraction?_padded hmicro hrest.noDigitFirst
  have htext : (Moment.clockText ⟨d, hour, minute, second, micro⟩).toList ++ rest =
      (padded 2 hour).toList ++ ':' :: ((padded 2 minute).toList ++ ':' ::
        ((padded 2 second).toList ++
          ((if micro = 0 then "" else "." ++ padded 6 micro).toList ++ rest))) := by
    simp [Moment.clockText, String.toList_append]
  rw [htext]
  simp only [takeClock?, Option.bind_eq_bind, Option.bind_some, after?_cons,
    fixedNumber_padded (by decide : 0 < 2) (by omega : hour < 10 ^ 2),
    fixedNumber_padded (by decide : 0 < 2) (by omega : minute < 10 ^ 2),
    fixedNumber_padded (by decide : 0 < 2) (by omega : second < 10 ^ 2), hfraction]
  have hclock : ¬(23 < hour ∨ 59 < minute) := by omega
  have hsecond' : ¬59 < second := by omega
  simp [hclock, hsecond']

/-! ## Offsets -/

theorem readOffset?_padded {n : Nat} (h : n < 86400) (hminutes : n % 60 = 0) :
    readOffset? false ((padded 2 (n / 3600)).toList ++ ':' :: (padded 2 (n / 60 % 60)).toList) =
      some n := by
  have hminute := fixedNumber_padded (by decide : 0 < 2) (by omega : n / 60 % 60 < 10 ^ 2) []
  rw [List.append_nil] at hminute
  have htotal : n / 3600 * 3600 + n / 60 % 60 * 60 = n := by omega
  have hbound : ¬(59 < n / 60 % 60 ∨ 86400 ≤ n) := by omega
  simp only [readOffset?, Option.bind_eq_bind, Option.bind_some, after?_cons, Option.getD_some,
    fixedNumber_padded (by decide : 0 < 2) (by omega : n / 3600 < 10 ^ 2), hminute, htotal]
  simp [hbound]

/-- The character in front of an offset. -/
def signOf (o : Int) : Char := if o < 0 then '-' else '+'

theorem offsetText_toList (o : Int) :
    (offsetText o).toList = signOf o :: ((padded 2 (o.natAbs / 3600)).toList ++
      ':' :: ((padded 2 (o.natAbs / 60 % 60)).toList ++
        (if o.natAbs % 60 = 0 then "" else ":" ++ padded 2 (o.natAbs % 60)).toList)) := by
  simp only [offsetText, signOf, String.toList_append]
  split <;> simp

theorem readZone?_plus {rest : List Char} {n : Nat} (h : readOffset? false rest = some n) :
    readZone? false ('+' :: rest) = some (some (n : Int)) := by
  simp [readZone?, h]

theorem readZone?_minus {rest : List Char} {n : Nat} (h : readOffset? false rest = some n) :
    readZone? false ('-' :: rest) = some (some (-(n : Int))) := by
  simp [readZone?, h]

theorem readZone?_offsetText {o : Int} (h : o.natAbs < 86400) (hminutes : o.natAbs % 60 = 0) :
    readZone? false (offsetText o).toList = some (some o) := by
  have hread := readOffset?_padded h hminutes
  rw [offsetText_toList, if_pos hminutes, String.toList_empty, List.append_nil, signOf]
  split
  · have hback : -(o.natAbs : Int) = o := by omega
    rw [readZone?_minus hread, hback]
  · have hback : (o.natAbs : Int) = o := by omega
    rw [readZone?_plus hread, hback]

theorem signFirst_offset (offset : Option Int) :
    SignFirst ((offset.map offsetText).getD "").toList := by
  intro c hc
  cases offset with
  | none => simp at hc
  | some o =>
    rw [Option.map_some, Option.getD_some, offsetText_toList, List.head?_cons] at hc
    cases hc
    unfold signOf
    split
    · exact Or.inr rfl
    · exact Or.inl rfl

/-! ## Moments -/

theorem stampText_toList (s : Stamp) :
    s.isoText.toList = s.moment.date.isoText.toList ++ 'T' ::
      (s.moment.clockText.toList ++ ((s.offset.map offsetText).getD "").toList) := by
  simp [Stamp.isoText, Stamp.textWith, Moment.textWith, String.toList_append]

theorem readIso?_isoText {s : Stamp} (h : s.Regular) : Stamp.readIso? s.isoText.toList = some s := by
  have hclock := takeClock?_clockText h (signFirst_offset s.offset)
  have hzone : readZone? false ((s.offset.map offsetText).getD "").toList = some s.offset := by
    cases hoffset : s.offset with
    | none => rfl
    | some o =>
      obtain ⟨ho, hminutes⟩ := h.offset o hoffset
      exact readZone?_offsetText ho hminutes
  rw [stampText_toList]
  simp only [Stamp.readIso?, Stamp.read?, takeIso?_isoText h.date, Option.bind_eq_bind,
    Option.bind_some, hclock, hzone]
  simp

theorem readIso?_dateText {d : Date} (h : d.isValid = true) :
    Stamp.readIso? d.isoText.toList = some ⟨Moment.midnight d, none⟩ := by
  have hday := takeIso?_isoText h []
  rw [List.append_nil] at hday
  simp only [Stamp.readIso?, Stamp.read?, hday, Option.bind_eq_bind, Option.bind_some]

/-! ## Not numerals -/

/-- Digits are taken up to the first character that is none. -/
theorem takeDigits_digits {ds rest : List Char} (h : ∀ c ∈ ds, c.isDigit = true)
    (hrest : ∀ c ∈ rest.head?, digitValue? c = none) :
    takeDigits (ds ++ rest) = (ds.map fun c => c.toNat - 48, rest) := by
  induction ds with
  | nil =>
    cases rest with
    | nil => rfl
    | cons c rest => rw [List.nil_append, takeDigits, hrest c rfl, List.map_nil]
  | cons c ds ih =>
    obtain ⟨hc, hds⟩ := List.forall_mem_cons.mp h
    rw [List.cons_append, takeDigits, digitValue?_of_isDigit hc, ih hds]
    rfl

theorem groupedDigits_stopped {c : Char} {ds : List Char} (h : ∀ d ∈ ds, d.isDigit = true)
    (hc : digitValue? c = none) (hlow : c ≠ '_') (after : Bool) (rest : List Char) :
    groupedDigits after (ds ++ c :: rest) = none := by
  induction ds generalizing after with
  | nil =>
    rw [List.nil_append, groupedDigits, hc]
    simp [hlow]
  | cons d ds ih =>
    obtain ⟨hd, hds⟩ := List.forall_mem_cons.mp h
    rw [List.cons_append, groupedDigits, digitValue?_of_isDigit hd]
    simp only [ih hds, Option.map_none]

/-- No name starts with a digit. -/
theorem lowered_ne {c d : Char} (hc : c.isDigit = true) (hd : d.isDigit = false)
    (s more : List Char) : (c :: s).map Char.toLower ≠ d :: more := by
  have hlower : c.toLower = c := by
    have hbelow : c.toNat ≤ 57 := (Char.isDigit_iff_toNat.mp hc).2
    refine dif_neg fun hupper => ?_
    have habove : 65 ≤ c.toNat := UInt32.le_iff_toNat_le.mp hupper.1
    omega
  intro heq
  rw [List.map_cons, hlower] at heq
  rw [(List.cons.inj heq).1, hd] at hc
  cases hc

theorem afterName_of_isDigit {c d : Char} (hc : c.isDigit = true) (hd : d.isDigit = false)
    (name : String) {more : List Char} (hname : name.toList = d :: more) (s : List Char) :
    afterName name (c :: s) = none := by
  have hlength : name.length = more.length + 1 := by
    rw [← String.length_toList, hname, List.length_cons]
  rw [afterName, hlength, hname, List.take_succ_cons, if_neg (lowered_ne hc hd _ _)]

/-- What is no name can only be read as digits with a point and an exponent. -/
theorem readDecimal_of_no_name {s body : List Char} {negative : Bool}
    (hbody : splitSign ((trim s).filter (· != '_')) = (negative, body))
    (hnan : afterName "nan" body = none) (hsnan : afterName "snan" body = none)
    (hshort : body.map Char.toLower ≠ "inf".toList)
    (hlong : body.map Char.toLower ≠ "infinity".toList) :
    readDecimal s = readFinite negative body := by
  rw [readDecimal, hbody]
  simp only [hnan, hsnan, hshort, hlong, decide_false, Bool.or_self, Bool.false_eq_true, if_false]

theorem readDecimal_of_isDigit {s body : List Char} {c : Char} {negative : Bool}
    (hbody : splitSign ((trim s).filter (· != '_')) = (negative, c :: body))
    (hc : c.isDigit = true) : readDecimal s = readFinite negative (c :: body) := by
  have hi : 'i'.isDigit = false := by decide
  apply readDecimal_of_no_name hbody
  · exact afterName_of_isDigit hc (by decide : 'n'.isDigit = false) "nan" rfl body
  · exact afterName_of_isDigit hc (by decide : 's'.isDigit = false) "snan" rfl body
  · exact lowered_ne hc hi _ ['n', 'f']
  · exact lowered_ne hc hi _ ['n', 'f', 'i', 'n', 'i', 't', 'y']

theorem filter_low_digits {ds : List Char} (h : ∀ c ∈ ds, c.isDigit = true) :
    ds.filter (· != '_') = ds := by
  refine List.filter_eq_self.mpr fun d hd => ?_
  have := h d hd
  simp only [bne_iff_ne]
  rintro rfl
  cases this

/-- Whether a character ends the numeral that its text starts with. -/
def stopsNumeral (c : Char) : Bool :=
  digitValue? c = none && c ≠ '_' && c ≠ '.' && c ≠ 'e' && c ≠ 'E'

/-- The digits behind a point, if there is one, and what comes behind them. -/
def takePoint : List Char → List Nat × List Char
  | '.' :: rest => takeDigits rest
  | rest => ([], rest)

theorem takePoint_of_ne {c : Char} (h : c ≠ '.') (rest : List Char) :
    takePoint (c :: rest) = ([], c :: rest) := by
  unfold takePoint
  split
  · rename_i heq
    exact absurd (List.cons.inj heq).1 h
  · rfl

theorem readFinite_parts (negative : Bool) (s : List Char) :
    readFinite negative s =
      if (takeDigits s).1.isEmpty && (takePoint (takeDigits s).2).1.isEmpty then none
      else match readExponent (takePoint (takeDigits s).2).2 with
        | none => none
        | some x =>
          let c := digitsValue 10 ((takeDigits s).1 ++ (takePoint (takeDigits s).2).1)
          let e := x - (takePoint (takeDigits s).2).1.length
          if Decimal.representable c e then some (.finite negative c e) else none := rfl

/-- Digits with a point and an exponent are read part by part. -/
theorem readFinite_eq {s rest tail : List Char} {whole fraction : List Nat} (negative : Bool)
    (hwhole : takeDigits s = (whole, rest)) (hne : whole ≠ [])
    (hfraction : takePoint rest = (fraction, tail)) :
    readFinite negative s = (readExponent tail).bind fun x =>
      if Decimal.representable (digitsValue 10 (whole ++ fraction)) (x - fraction.length) then
        some (.finite negative (digitsValue 10 (whole ++ fraction)) (x - fraction.length))
      else none := by
  rw [readFinite_parts, hwhole, hfraction, List.isEmpty_eq_false_iff.mpr hne]
  cases readExponent tail <;> rfl

/-- Without a digit there is nothing to read. -/
theorem readFinite_of_no_digits {s rest tail : List Char} (negative : Bool)
    (hwhole : takeDigits s = ([], rest)) (hfraction : takePoint rest = ([], tail)) :
    readFinite negative s = none := by
  rw [readFinite_parts, hwhole, hfraction]
  rfl

theorem readFinite_stopped {c : Char} {ds : List Char} (hne : ds ≠ [])
    (h : ∀ d ∈ ds, d.isDigit = true) (hc : stopsNumeral c = true) (negative : Bool)
    (rest : List Char) : readFinite negative (ds ++ c :: rest) = none := by
  simp only [stopsNumeral, Bool.and_eq_true, decide_eq_true_eq] at hc
  obtain ⟨⟨⟨⟨hdigit, -⟩, hpoint⟩, hsmall⟩, hlarge⟩ := hc
  have htake : takeDigits (ds ++ c :: rest) = (ds.map fun c => c.toNat - 48, c :: rest) := by
    apply takeDigits_digits h
    rintro d ⟨⟩
    exact hdigit
  have hexponent : readExponent (c :: rest) = none := by
    simp [readExponent, hsmall, hlarge]
  rw [readFinite_eq negative htake (by simpa using hne) (takePoint_of_ne hpoint rest), hexponent]
  rfl

/-- Digits are no numeral with such a character behind them. -/
theorem ofText?_stopped {c : Char} {ds rest : List Char} (hne : ds ≠ [])
    (h : ∀ d ∈ ds, d.isDigit = true) (hc : stopsNumeral c = true)
    (htrim : trim (ds ++ c :: rest) = ds ++ c :: rest) :
    Number.ofText? (ds ++ c :: rest) = none := by
  have hstops := hc
  simp only [stopsNumeral, Bool.and_eq_true, decide_eq_true_eq] at hstops
  obtain ⟨⟨⟨⟨hdigit, hlow⟩, -⟩, -⟩, -⟩ := hstops
  obtain ⟨d, ds, rfl⟩ := List.exists_cons_of_ne_nil hne
  have hd := h d List.mem_cons_self
  have hinteger : readInteger (d :: ds ++ c :: rest) = none := by
    rw [readInteger, htrim, List.cons_append, splitSign_of_isDigit hd, ← List.cons_append]
    simp only [groupedDigits_stopped h hdigit hlow]
  have hbody : splitSign ((trim (d :: ds ++ c :: rest)).filter (· != '_')) =
      (false, d :: (ds ++ c :: rest.filter (· != '_'))) := by
    rw [htrim, List.filter_append, filter_low_digits h, List.filter_cons_of_pos (by simpa using hlow),
      List.cons_append, splitSign_of_isDigit hd]
  have hdecimal : readDecimal (d :: ds ++ c :: rest) = none := by
    rw [readDecimal_of_isDigit hbody hd, ← List.cons_append, readFinite_stopped hne h hc]
  rw [Number.ofText?, hinteger, hdecimal]

theorem ofText?_isoText (d : Date) {rest : List Char}
    (hsolid : (d.isoText.toList ++ rest).all isSolid = true) :
    Number.ofText? (d.isoText.toList ++ rest) = none := by
  have hne : (padded 4 d.year).toList ≠ [] := by
    simp [padded, Nat.toDigits_ne_nil]
  rw [isoText_toList_append] at hsolid ⊢
  exact ofText?_stopped hne (padded_isDigit 4 d.year) (by decide) (trim_of_solid hsolid)

/-! ## What a rule sees -/

namespace Rules

theorem parseMoment_text {t : String} {s : Stamp} (hne : t.toList ≠ [])
    (hsolid : t.toList.all isSolid = true) (hnumber : Number.ofText? t.toList = none)
    (hread : Stamp.readIso? t.toList = some s) :
    parseMoment (.text t) = parseMoment (.stamp s) := by
  simp only [parseMoment, parseText, trim_of_solid hsolid, hnumber, hread, List.isEmpty_iff, hne,
    Option.isSome_none, Bool.or_false, if_false]

theorem parseMoment_dateText {d : Date} (h : d.isValid = true) :
    parseMoment (.text d.isoText) = parseMoment (.date d) := by
  have hnumber : Number.ofText? (d.isoText.toList ++ []) = none :=
    ofText?_isoText d (by rw [List.append_nil]; exact isoText_solid d)
  rw [List.append_nil] at hnumber
  exact parseMoment_text (isoText_ne_nil d) (isoText_solid d) hnumber (readIso?_dateText h)

theorem parseMoment_stampText {s : Stamp} (h : s.Regular) :
    parseMoment (.text s.isoText) = parseMoment (.stamp s) := by
  have hsolid := stampText_solid s
  have hnumber : Number.ofText? s.isoText.toList = none := by
    rw [stampText_toList] at hsolid ⊢
    exact ofText?_isoText _ hsolid
  exact parseMoment_text (stampText_ne_nil s) hsolid hnumber (readIso?_isoText h)

end Rules

end FieldCheck
