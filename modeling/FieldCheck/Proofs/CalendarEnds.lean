import FieldCheck.Proofs.Calendar
import FieldCheck.Proofs.Moments
import FieldCheck.Proofs.ShapePatterns

/-!
# The ends of the calendar

A moment with an offset may lie, in universal time, before the first day of the calendar or behind its
last one.  That is all that can go wrong when a value is read as a moment.

* `Stamp.instant`, `toUniversal?_eq_some_iff`, `toUniversal?_eq_none_iff` — a moment in universal time is
  exact, or there is none.
* `takeClock?_valid`, `read?_valid`, `readWritten?_isValid` — what the readers give is of the calendar.
* `stampOf?`, `parseMoment_of_stampOf?` — the moment that a value is or writes, before the offset counts.
* `LeavesCalendar`, `LeavesCalendar.first_or_last` — the values that crash, on two days only.
* `ShapeCrash`, `date_eq_error_iff` — why the rule for dates crashes.
* `ReferenceCrash`, `compared_eq_error_iff` — why a rule that compares moments crashes.

Principal result: `dates_crash_iff`.
-/

set_option autoImplicit false

namespace FieldCheck

open Text

/-! ## Universal time -/

namespace Stamp

/-- The instant that is meant, in universal time. -/
def instant (s : Stamp) : Int := s.moment.instant - s.offset.getD 0 * 1000000

/-- A moment of the calendar, with an offset below one day if it has one. -/
structure Valid (s : Stamp) : Prop where
  moment : s.moment.Valid
  offset : ∀ o ∈ s.offset, o.natAbs < 86400

variable {s : Stamp} {m : Moment}

/-- A moment in universal time is exact. -/
theorem toUniversal?_eq_some_iff (h : s.Valid) :
    s.toUniversal? = some m ↔ m.Valid ∧ m.instant = s.instant := by
  obtain ⟨moment, offset⟩ := s
  cases offset with
  | some o => exact Moment.ofInstant?_eq_some_iff
  | none =>
    have hinstant : instant ⟨moment, none⟩ = moment.instant := by simp [instant]
    rw [hinstant, ← Moment.ofInstant?_eq_some_iff]
    rw [Moment.ofInstant?_eq_some_iff.mpr ⟨h.moment, rfl⟩]
    rfl

/-- There is one unless the instant is out of the calendar. -/
theorem toUniversal?_eq_none_iff (h : s.Valid) :
    s.toUniversal? = none ↔ ¬Moment.InCalendar s.instant := by
  constructor
  · intro hnone hin
    obtain ⟨m, hm⟩ := Option.isSome_iff_exists.mp (Moment.ofInstant?_isSome_iff.mpr hin)
    rw [(toUniversal?_eq_some_iff h).mpr (Moment.ofInstant?_eq_some_iff.mp hm)] at hnone
    cases hnone
  · intro hout
    refine Option.eq_none_iff_forall_ne_some.mpr fun m hm => hout ?_
    obtain ⟨hvalid, heq⟩ := (toUniversal?_eq_some_iff h).mp hm
    exact heq ▸ hvalid.inCalendar

/-- An offset is too short to leave the calendar from any other day than the first and the last. -/
theorem Valid.first_or_last (h : s.Valid) (hout : ¬Moment.InCalendar s.instant) :
    s.moment.date = ⟨1, 1, 1⟩ ∨ s.moment.date = ⟨9999, 12, 31⟩ := by
  have hoffset : (s.offset.getD 0).natAbs < 86400 := by
    cases ho : s.offset with
    | none => decide
    | some o => exact h.offset o ho
  have hbounds := h.moment.instant_bounds
  have hday := Date.dayNumber_lt h.moment.date
  have hends : s.moment.date.dayNumber = 0 ∨ s.moment.date.dayNumber = Date.dayCount - 1 := by
    unfold Moment.InCalendar instant at hout
    unfold Moment.dayLength at hbounds hout
    omega
  rcases hends with hfirst | hlast
  · exact Or.inl (Date.dayNumber_inj h.moment.date rfl hfirst)
  · exact Or.inr (Date.dayNumber_inj h.moment.date rfl hlast)

theorem midnight_valid {d : Date} (h : d.isValid = true) : Valid ⟨Moment.midnight d, none⟩ where
  moment := Moment.midnight_valid h
  offset := nofun

end Stamp

/-! ## Readers -/

section Readers

variable {s rest : List Char} {d : Date} {m : Moment}

theorem isValid_of_of? {year month day : Nat} (h : Date.of? year month day = some d) :
    d.isValid = true := by
  unfold Date.of? at h
  dsimp only at h
  split at h
  · cases h
    assumption
  · cases h

theorem takeIso?_isValid (h : Date.takeIso? s = some (d, rest)) : d.isValid = true := by
  simp only [Date.takeIso?, Option.bind_eq_bind, Option.bind_eq_some_iff, Prod.exists,
    Option.some.injEq, Prod.mk.injEq] at h
  obtain ⟨year, _, -, _, -, month, _, -, _, -, day, _, -, d', hof, rfl, -⟩ := h
  exact isValid_of_of? hof

theorem digitIn?_lt {base digit : Nat} {c : Char} (h : digitIn? base c = some digit) :
    digit < base := by
  simpa using (Option.filter_eq_some_iff.mp h).2

/-- The digits of a fraction leave room for one more of the next smaller place. -/
theorem fractionDigits_lt {bound scale acc : Nat} (hacc : acc < bound)
    (hroom : acc + 10 * scale ≤ bound) : (fractionDigits scale acc s).1 < bound := by
  induction s generalizing scale acc with
  | nil => exact hacc
  | cons c rest ih =>
    rw [fractionDigits]
    split
    · rename_i digit hdigit
      have hdigit := digitIn?_lt hdigit
      have hscale : digit * scale ≤ 9 * scale := Nat.mul_le_mul_right scale (by omega)
      exact ih (by omega) (by omega)
    · exact hacc

theorem takeFraction?_lt {micro : Nat} (h : takeFraction? s = some (micro, rest)) :
    micro < 1000000 := by
  unfold takeFraction? at h
  split at h
  · split at h
    · split at h
      · rename_i mark c more hmark hdigit
        have hlt : (fractionDigits 100000 0 (c :: more)).1 < 1000000 :=
          fractionDigits_lt (by decide) (by decide)
        rwa [Option.some.inj h] at hlt
      · cases h
    · cases h
      decide
  · split at h
    · cases h
    · cases h
      decide
  · cases h
    decide

/-- A time of day that is read is one, and belongs to the day in front of it. -/
theorem takeClock?_valid (hd : d.isValid = true) (h : takeClock? d s = some (m, rest)) :
    m.Valid := by
  simp only [takeClock?, Option.bind_eq_bind, Option.bind_eq_some_iff, Prod.exists] at h
  obtain ⟨hour, _, -, _, -, minute, _, -, h⟩ := h
  split at h
  · cases h
  · rename_i hclock
    simp only [Bool.or_eq_true, decide_eq_true_eq, not_or, Nat.not_lt] at hclock
    split at h
    · simp only [Option.bind_eq_some_iff, Prod.exists] at h
      obtain ⟨second, _, -, h⟩ := h
      split at h
      · cases h
      · rename_i hsecond
        simp only [Option.bind_eq_some_iff, Prod.exists, Option.some.injEq, Prod.mk.injEq] at h
        obtain ⟨micro, _, hfraction, rfl, -⟩ := h
        exact ⟨hd, hclock.1, hclock.2, Nat.le_of_not_lt hsecond, takeFraction?_lt hfraction⟩
    · cases h
      exact ⟨hd, hclock.1, hclock.2, Nat.zero_le _, Nat.zero_lt_succ _⟩

theorem readOffset?_lt {fine : Bool} {n : Nat} (h : readOffset? fine s = some n) : n < 86400 := by
  simp only [readOffset?, Option.bind_eq_bind, Option.bind_eq_some_iff, Prod.exists] at h
  obtain ⟨hour, _, -, minute, _, -, h⟩ := h
  split at h
  · cases h
  · rename_i hbound
    simp only [Bool.or_eq_true, decide_eq_true_eq, not_or, Nat.not_lt, Nat.not_le] at hbound
    split at h
    · cases h
      exact hbound.2
    · split at h
      · split at h
        · split at h
          · cases h
            omega
          · cases h
        · cases h
      · cases h
    · cases h

theorem readZone?_lt {fine : Bool} {offset : Option Int} (h : readZone? fine s = some offset) :
    ∀ o ∈ offset, o.natAbs < 86400 := by
  intro o ho
  obtain rfl : offset = some o := ho
  unfold readZone? at h
  split at h
  · cases h
  · cases h
    decide
  · cases h
    decide
  · split at h
    · obtain ⟨_, hread, heq⟩ := Option.map_eq_some_iff.mp h
      obtain ⟨n, hn, hcast⟩ := Option.bind_eq_some_iff.mp hread
      cases hcast
      cases heq
      simpa using readOffset?_lt hn
    · split at h
      · obtain ⟨_, hread, heq⟩ := Option.map_eq_some_iff.mp h
        obtain ⟨n, hn, hcast⟩ := Option.bind_eq_some_iff.mp hread
        cases hcast
        cases heq
        simpa using readOffset?_lt hn
      · cases h

/-- What is read in the standard form is a moment of the calendar. -/
theorem read?_valid {fine : Bool} {stamp : Stamp} (h : Stamp.read? fine s = some stamp) :
    stamp.Valid := by
  simp only [Stamp.read?, Option.bind_eq_bind, Option.bind_eq_some_iff, Prod.exists] at h
  obtain ⟨d, rest, hdate, h⟩ := h
  have hd := takeIso?_isValid hdate
  split at h
  · cases h
    exact Stamp.midnight_valid hd
  · split at h
    · simp only [Option.bind_eq_some_iff, Prod.exists, Option.some.injEq] at h
      obtain ⟨m, behind, hclock, offset, hzone, rfl⟩ := h
      exact ⟨takeClock?_valid hd hclock, readZone?_lt hzone⟩
    · cases h

/-- What is read in a written form is a day of the calendar. -/
theorem readWritten?_isValid (h : readWritten? s = some d) : d.isValid = true := by
  obtain ⟨form, -, hread⟩ := List.exists_of_findSome?_eq_some h
  unfold readForm? at hread
  split at hread
  · exact isValid_of_of? hread
  · cases hread

end Readers

/-! ## Values -/

/-- A day or a moment among the values is one of the calendar. -/
def Value.OnCalendar : Value → Prop
  | .date d => d.isValid = true
  | .stamp s => s.Valid
  | _ => True

namespace Rules

/-- The moment that a value is or writes, with its offset. -/
def stampOf? : Value → Option Stamp
  | .stamp s => some s
  | .date d => some ⟨Moment.midnight d, none⟩
  | .text s =>
    let s := trim s.toList
    if s.isEmpty || (Number.ofText? s).isSome then none
    else (Stamp.readIso? s).or ((readWritten? s).map fun d => ⟨Moment.midnight d, none⟩)
  | _ => none

/-- A value whose moment lies, in universal time, before the first day of the calendar or behind its
last one. -/
def LeavesCalendar (v : Value) : Prop :=
  ∃ s, stampOf? v = some s ∧ ¬Moment.InCalendar s.instant

variable {v : Value} {args : List Value} {c : Context} {rule : String} {crash : Crash}
  {test : Moment → Moment → Bool}

/-- All that a value is read for is its moment and the offset of it. -/
theorem parseMoment_of_stampOf? (v : Value) :
    parseMoment v = match stampOf? v with
      | none => .ok none
      | some s => (universal s).map some := by
  cases v with
  | text s =>
    simp only [parseMoment, parseText, stampOf?]
    split
    · rfl
    · cases hiso : Stamp.readIso? (trim s.toList) with
      | some stamp => rfl
      | none => cases readWritten? (trim s.toList) <;> rfl
  | _ => rfl

theorem stampOf?_valid {s : Stamp} (hv : v.OnCalendar) (h : stampOf? v = some s) : s.Valid := by
  unfold stampOf? at h
  split at h
  · cases h
    exact hv
  · cases h
    exact Stamp.midnight_valid hv
  · dsimp only at h
    split at h
    · cases h
    · rcases Option.or_eq_some_iff.mp h with hiso | ⟨-, hwritten⟩
      · exact read?_valid hiso
      · obtain ⟨d, hd, rfl⟩ := Option.map_eq_some_iff.mp hwritten
        exact Stamp.midnight_valid (readWritten?_isValid hd)
  · cases h

/-- A value is no moment, or has an exact one in universal time, or leaves the calendar. -/
theorem parseMoment_cases (hv : v.OnCalendar) :
    (stampOf? v = none ∧ parseMoment v = .ok none) ∨
      (∃ s m, stampOf? v = some s ∧ Moment.InCalendar s.instant ∧ m.Valid ∧ m.instant = s.instant ∧
        parseMoment v = .ok (some m)) ∨
      (LeavesCalendar v ∧ parseMoment v = .error .dateOutOfRange) := by
  rw [parseMoment_of_stampOf?]
  cases hs : stampOf? v with
  | none => exact Or.inl ⟨rfl, rfl⟩
  | some s =>
    have hvalid := stampOf?_valid hv hs
    dsimp only
    unfold universal
    cases hm : s.toUniversal? with
    | none => exact Or.inr (Or.inr ⟨⟨s, hs, (Stamp.toUniversal?_eq_none_iff hvalid).mp hm⟩, rfl⟩)
    | some m =>
      obtain ⟨hmvalid, heq⟩ := (Stamp.toUniversal?_eq_some_iff hvalid).mp hm
      exact Or.inr (Or.inl ⟨s, m, rfl, heq ▸ hmvalid.inCalendar, hmvalid, heq, rfl⟩)

theorem parseMoment_eq_error_iff (hv : v.OnCalendar) :
    parseMoment v = .error crash ↔ crash = .dateOutOfRange ∧ LeavesCalendar v := by
  rcases parseMoment_cases hv with ⟨hnone, heq⟩ | ⟨s, m, hs, hin, -, -, heq⟩ | ⟨hleaves, heq⟩
  · rw [heq]
    refine ⟨nofun, ?_⟩
    rintro ⟨-, s, hs, -⟩
    rw [hnone] at hs
    cases hs
  · rw [heq]
    refine ⟨nofun, ?_⟩
    rintro ⟨-, s', hs', hout⟩
    rw [hs] at hs'
    cases hs'
    exact absurd hin hout
  · rw [heq, Except.error.injEq, eq_comm]
    exact ⟨fun h => ⟨h, hleaves⟩, And.left⟩

/-- A value leaves the calendar from its first day or from its last one. -/
theorem LeavesCalendar.first_or_last (hv : v.OnCalendar) (h : LeavesCalendar v) :
    ∃ s, stampOf? v = some s ∧ (s.moment.date = ⟨1, 1, 1⟩ ∨ s.moment.date = ⟨9999, 12, 31⟩) := by
  obtain ⟨s, hs, hout⟩ := h
  exact ⟨s, hs, (stampOf?_valid hv hs).first_or_last hout⟩

/-! ## Rules -/

/-- A text is to be compared with a shape that cannot be written as a text. -/
def ShapeCrash (v shape : Value) (c : Context) (crash : Crash) : Prop :=
  (∃ s, v = .text s) ∧ shape.truthy = true ∧ plainText c shape = .error crash

theorem date_eq_error_iff (hv : v.OnCalendar) :
    date v args c = .error crash ↔
      ((args.headD .absent).truthy = false ∧ crash = .dateOutOfRange ∧ LeavesCalendar v) ∨
        ShapeCrash v (args.headD .absent) c crash := by
  unfold date ShapeCrash
  dsimp only
  cases htruthy : (args.headD .absent).truthy with
  | true =>
    cases v with
    | text s =>
      cases hshape : plainText c (args.headD .absent) with
      | error other => simp
      | ok shape => simp [readPattern_shape, Except.map]
    | _ => simp
  | false =>
    rw [← parseMoment_eq_error_iff hv]
    cases parseMoment v <;> simp [Except.map]

/-- An argument that is to be a day or a moment: it is not empty and is the name of no field. -/
def MustBeDate (c : Context) (a : Value) : Prop :=
  a ≠ .absent ∧ a ≠ .text "" ∧ ∀ s, a = .text s → c.other? s = none

/-- Why the moment that is compared with cannot be given. -/
inductive ReferenceCrash (rule : String) (args : List Value) (c : Context) : Crash → Prop
  /-- The argument is to be a day or a moment, and is neither. -/
  | unreadable {a : Value} (head : args.head? = some a) (must : MustBeDate c a)
      (nothing : parseMoment a = .ok none) :
      ReferenceCrash rule args c (quoting c a (.notDate rule))
  /-- The argument leaves the calendar. -/
  | literal {a : Value} (head : args.head? = some a) (must : MustBeDate c a)
      (leaves : LeavesCalendar a) : ReferenceCrash rule args c .dateOutOfRange
  /-- The field that the argument names leaves the calendar. -/
  | field {name : String} {u : Value} (head : args.head? = some (.text name)) (named : name ≠ "")
      (found : c.other? name = some u) (leaves : LeavesCalendar u) :
      ReferenceCrash rule args c .dateOutOfRange

/-- The moment of an argument that is to be one. -/
def literalMoment (rule : String) (a : Value) (c : Context) : Except Crash (Option Moment) :=
  match parseMoment a with
  | .error crash => .error crash
  | .ok (some m) => .ok (some m)
  | .ok none => .error (quoting c a (.notDate rule))

/-- What a rule compares with: the present, a field, or its argument. -/
theorem reference_cases (rule : String) (args : List Value) (c : Context) :
    ((∀ a, args.head? = some a → a = .absent ∨ a = .text "") ∧
        reference rule args c = .ok (some c.now)) ∨
      (∃ name u, args.head? = some (.text name) ∧ name ≠ "" ∧ c.other? name = some u ∧
        reference rule args c = parseMoment u) ∨
      ∃ a, args.head? = some a ∧ MustBeDate c a ∧
        reference rule args c = literalMoment rule a c := by
  cases args with
  | nil => exact Or.inl ⟨nofun, rfl⟩
  | cons a rest =>
    cases a with
    | absent => exact Or.inl ⟨fun a ha => Or.inl (Option.some.inj ha).symm, rfl⟩
    | text name =>
      by_cases hempty : name = ""
      · subst hempty
        exact Or.inl ⟨fun a ha => Or.inr (Option.some.inj ha).symm, rfl⟩
      · have hne : name.isEmpty = false := by simpa using hempty
        cases hfound : c.other? name with
        | some u =>
          refine Or.inr (Or.inl ⟨name, u, rfl, hempty, hfound, ?_⟩)
          simp only [reference, hne, Bool.false_eq_true, if_false, hfound]
        | none =>
          refine Or.inr (Or.inr ⟨_, rfl, ⟨nofun, by simpa using hempty, ?_⟩, ?_⟩)
          · rintro s heq
            cases heq
            exact hfound
          · simp only [reference, hne, Bool.false_eq_true, if_false, hfound]
            rfl
    | _ => exact Or.inr (Or.inr ⟨_, rfl, ⟨nofun, nofun, nofun⟩, rfl⟩)

section Reference

variable {a u : Value} {name : String}

theorem not_referenceCrash_of_empty (hempty : ∀ a, args.head? = some a → a = .absent ∨ a = .text "") :
    ¬ReferenceCrash rule args c crash := by
  have hnot {a : Value} (head : args.head? = some a) (must : MustBeDate c a) : False := by
    rcases hempty a head with rfl | rfl
    · exact must.1 rfl
    · exact must.2.1 rfl
  intro h
  cases h with
  | unreadable head must _ => exact hnot head must
  | literal head must _ => exact hnot head must
  | field head named _ _ =>
    rcases hempty _ head with h | h
    · cases h
    · exact named (Value.text.inj h)

theorem referenceCrash_field_iff (hhead : args.head? = some (.text name)) (hne : name ≠ "")
    (hfound : c.other? name = some u) :
    ReferenceCrash rule args c crash ↔ crash = .dateOutOfRange ∧ LeavesCalendar u := by
  have hnot {a : Value} (head : args.head? = some a) (must : MustBeDate c a) : False := by
    obtain rfl : .text name = a := Option.some.inj (hhead.symm.trans head)
    exact nomatch (must.2.2 name rfl).symm.trans hfound
  constructor
  · intro h
    cases h with
    | unreadable head must _ => exact (hnot head must).elim
    | literal head must _ => exact (hnot head must).elim
    | field head _ found leaves =>
      cases hhead.symm.trans head
      cases hfound.symm.trans found
      exact ⟨rfl, leaves⟩
  · rintro ⟨rfl, hleaves⟩
    exact .field hhead hne hfound hleaves

theorem referenceCrash_literal_iff (hhead : args.head? = some a) (hmust : MustBeDate c a) :
    ReferenceCrash rule args c crash ↔
      (crash = quoting c a (.notDate rule) ∧ parseMoment a = .ok none) ∨
        (crash = .dateOutOfRange ∧ LeavesCalendar a) := by
  constructor
  · intro h
    cases h with
    | unreadable head _ nothing =>
      cases hhead.symm.trans head
      exact Or.inl ⟨rfl, nothing⟩
    | literal head _ leaves =>
      cases hhead.symm.trans head
      exact Or.inr ⟨rfl, leaves⟩
    | field head _ found _ =>
      cases hhead.symm.trans head
      exact nomatch (hmust.2.2 _ rfl).symm.trans found
  · rintro (⟨rfl, hnothing⟩ | ⟨rfl, hleaves⟩)
    · exact .unreadable hhead hmust hnothing
    · exact .literal hhead hmust hleaves

end Reference

theorem reference_eq_error_iff (hargs : ∀ a ∈ args, a.OnCalendar)
    (hfields : ∀ name u, c.other? name = some u → u.OnCalendar) :
    reference rule args c = .error crash ↔ ReferenceCrash rule args c crash := by
  rcases reference_cases rule args c with
    ⟨hempty, heq⟩ | ⟨name, u, hhead, hne, hfound, heq⟩ | ⟨a, hhead, hmust, heq⟩
  · rw [heq]
    exact ⟨nofun, fun h => absurd h (not_referenceCrash_of_empty hempty)⟩
  · rw [heq, referenceCrash_field_iff hhead hne hfound,
      parseMoment_eq_error_iff (hfields name u hfound)]
  · have ha : a.OnCalendar := hargs a (List.mem_of_mem_head? hhead)
    rw [heq, referenceCrash_literal_iff hhead hmust, ← parseMoment_eq_error_iff ha, literalMoment]
    cases hparse : parseMoment a with
    | error other => simp
    | ok found =>
      cases found with
      | some m => simp
      | none => simp [eq_comm]

theorem compared_eq_error_iff (hv : v.OnCalendar) (hargs : ∀ a ∈ args, a.OnCalendar)
    (hfields : ∀ name u, c.other? name = some u → u.OnCalendar) :
    compared rule test v args c = .error crash ↔ ReferenceCrash rule args c crash ∨
      ((∀ other, ¬ReferenceCrash rule args c other) ∧ crash = .dateOutOfRange ∧ LeavesCalendar v) := by
  simp only [← reference_eq_error_iff hargs hfields, ← parseMoment_eq_error_iff hv, compared]
  cases reference rule args c with
  | error other => simp
  | ok found =>
    cases parseMoment v with
    | error other => simp
    | ok moment => simp

/-- All that is to be known of how the rules for dates crash on a value. -/
structure DatesCrash (v : Value) (args : List Value) (c : Context) : Prop where
  /-- A value is read, exactly, as a moment of the calendar or as none, unless it leaves the calendar. -/
  reads : ¬LeavesCalendar v → ∃ found, parseMoment v = .ok found ∧ ∀ m ∈ found, m.Valid ∧
    ∃ s, stampOf? v = some s ∧ m.instant = s.instant
  /-- A value that leaves the calendar cannot be read. -/
  read : ∀ crash, parseMoment v = .error crash ↔ crash = .dateOutOfRange ∧ LeavesCalendar v
  /-- It does so on two days only. -/
  ends : LeavesCalendar v →
    ∃ s, stampOf? v = some s ∧ (s.moment.date = ⟨1, 1, 1⟩ ∨ s.moment.date = ⟨9999, 12, 31⟩)
  /-- The rule for dates crashes on such a value, unless it is given a shape, and on a text where the
  shape cannot be written. -/
  date : ∀ crash, date v args c = .error crash ↔
    ((args.headD .absent).truthy = false ∧ crash = .dateOutOfRange ∧ LeavesCalendar v) ∨
      ShapeCrash v (args.headD .absent) c crash
  /-- The rules that compare crash if there is nothing to compare with, and on such a value. -/
  after : ∀ crash, after v args c = .error crash ↔ ReferenceCrash "after" args c crash ∨
    ((∀ other, ¬ReferenceCrash "after" args c other) ∧ crash = .dateOutOfRange ∧ LeavesCalendar v)
  before : ∀ crash, before v args c = .error crash ↔ ReferenceCrash "before" args c crash ∨
    ((∀ other, ¬ReferenceCrash "before" args c other) ∧ crash = .dateOutOfRange ∧ LeavesCalendar v)

/-- **The rules for dates crash on what leaves the calendar**, where an argument that is neither empty nor
the name of a field is no date, and where a shape cannot be written; on nothing else. -/
theorem dates_crash_iff (hv : v.OnCalendar) (hargs : ∀ a ∈ args, a.OnCalendar)
    (hfields : ∀ name u, c.other? name = some u → u.OnCalendar) : DatesCrash v args c where
  reads := by
    intro hstays
    rcases parseMoment_cases hv with ⟨-, heq⟩ | ⟨s, m, hs, -, hm, hinstant, heq⟩ | ⟨hleaves, -⟩
    · exact ⟨none, heq, nofun⟩
    · refine ⟨some m, heq, fun m' hm' => ?_⟩
      cases hm'
      exact ⟨hm, s, hs, hinstant⟩
    · exact absurd hleaves hstays
  read := fun _ => parseMoment_eq_error_iff hv
  ends := LeavesCalendar.first_or_last hv
  date := fun _ => date_eq_error_iff hv
  after := fun _ => compared_eq_error_iff hv hargs hfields
  before := fun _ => compared_eq_error_iff hv hargs hfields

/-- The last half hour of the calendar, by a clock that is one hour behind. -/
def lastStamp : Stamp := ⟨⟨⟨9999, 12, 31⟩, 23, 30, 0, 0⟩, some (-3600)⟩

def startContext : Context where
  values := [("start", .date ⟨2024, 2, 29⟩)]

theorem dates_crash_iff_last :
    (Value.stamp lastStamp).OnCalendar ∧ (∀ a ∈ [Value.text "start"], a.OnCalendar) ∧
      (∀ name u, startContext.other? name = some u → u.OnCalendar) ∧
      after (.stamp lastStamp) [.text "start"] startContext = .error .dateOutOfRange := by
  have hv : (Value.stamp lastStamp).OnCalendar :=
    ⟨⟨by decide, by decide, by decide, by decide, by decide⟩, by decide⟩
  have hargs : ∀ a ∈ [Value.text "start"], a.OnCalendar := by simp [Value.OnCalendar]
  have hfields : ∀ name u, startContext.other? name = some u → u.OnCalendar := by
    intro name u hu
    obtain ⟨-, rfl⟩ : name = "start" ∧ u = .date ⟨2024, 2, 29⟩ := by
      obtain ⟨before, behind, hvalues, -⟩ := List.lookup_eq_some_iff.mp hu
      have hmem : (name, u) ∈ startContext.values := by
        rw [hvalues]
        exact List.mem_append_right _ List.mem_cons_self
      simpa [startContext] using hmem
    exact (by decide : Date.isValid ⟨2024, 2, 29⟩ = true)
  have hcrash := dates_crash_iff hv hargs hfields
  refine ⟨hv, hargs, hfields, (hcrash.after _).mpr (Or.inr ⟨fun other h => ?_, ?_⟩)⟩
  · have hleap : parseMoment (.date ⟨2024, 2, 29⟩) = .ok (some (Moment.midnight ⟨2024, 2, 29⟩)) := rfl
    rw [referenceCrash_field_iff rfl (by decide) rfl,
      ← parseMoment_eq_error_iff (hfields "start" _ rfl), hleap] at h
    cases h
  · exact (hcrash.read _).mp rfl

/-- Midnight at the start of the calendar, by a clock that is two hours ahead. -/
def firstStamp : Stamp := ⟨⟨⟨1, 1, 1⟩, 0, 0, 0, 0⟩, some 7200⟩

/-- A text that a user may submit crashes the reader and the rules. -/
theorem text_leaves_calendar :
    parseMoment (.text "0001-01-01T00:00:00+02:00") = .error .dateOutOfRange ∧
      date (.text "0001-01-01T00:00:00+02:00") [] {} = .error .dateOutOfRange ∧
      before (.text "0001-01-01T00:00:00+02:00") [] {} = .error .dateOutOfRange := by
  have hregular : firstStamp.Regular :=
    ⟨by decide, by decide, by decide, by decide, by decide, by decide⟩
  have htext : firstStamp.isoText = "0001-01-01T00:00:00+02:00" := by decide
  have hcrash : parseMoment (.text "0001-01-01T00:00:00+02:00") = .error .dateOutOfRange := by
    rw [← htext, parseMoment_stampText hregular]
    rfl
  have hdate : date (.text "0001-01-01T00:00:00+02:00") [] {} =
      (parseMoment (.text "0001-01-01T00:00:00+02:00")).map Option.isSome := rfl
  refine ⟨hcrash, by rw [hdate, hcrash]; rfl, ?_⟩
  rw [before, compared, reference, hcrash]

end Rules

end FieldCheck
