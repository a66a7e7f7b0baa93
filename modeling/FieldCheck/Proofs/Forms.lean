import FieldCheck.Proofs.Trim
import FieldCheck.Value.Written
import Mathlib.Data.List.TakeWhile

/-!
# Written forms of arguments

Every value that has a written form may stand as an argument: numbers, switches, dates and moments
are written without blanks, separators, brackets and slashes.

* `isSolid` — the characters that such a text is made of; `isPlainArgument_of_solid`.
* `integerText_solid`, `doubleText_solid`, `isoText_solid` — the written forms, kind by kind.
* `shortest_ne_nil` — a number that is not zero has digits.
* `isPlainArgument_of_form` — all kinds together.
-/

set_option autoImplicit false

namespace FieldCheck

open Text

/-- A character that is neither blank nor a separator, a bracket or a slash. -/
def isSolid (c : Char) : Bool := !isBlank c && !isReserved c && c ≠ '/'

theorem trim_of_solid {s : List Char} (h : s.all isSolid = true) : trim s = s := by
  have hc : ∀ c ∈ s, isBlank c = false := by
    intro c hc
    have := List.all_eq_true.mp h c hc
    simp only [isSolid, Bool.and_eq_true, Bool.not_eq_true'] at this
    exact this.1.1
  exact trim_eq_self_iff.mpr ⟨fun c hm => hc c (List.mem_of_mem_head? hm),
    fun c hm => hc c (List.mem_of_mem_getLast? hm)⟩

theorem isPlainArgument_of_solid {s : List Char} (hne : s ≠ []) (h : s.all isSolid = true) :
    isPlainArgument s = true := by
  have hc : ∀ c ∈ s, isReserved c = false ∧ c ≠ '/' := by
    intro c hc
    have := List.all_eq_true.mp h c hc
    simp only [isSolid, Bool.and_eq_true, Bool.not_eq_true', decide_eq_true_eq] at this
    exact ⟨this.1.2, this.2⟩
  have hhead : s.head? ≠ some '/' := fun hs => (hc '/' (List.mem_of_mem_head? hs)).2 rfl
  have hres : s.any isReserved = false := by
    rw [List.any_eq_false]
    intro c hm
    simp [(hc c hm).1]
  simp [isPlainArgument, hne, trim_of_solid h, hhead, hres]

/-! ## Digits -/

theorem isSolid_of_isDigit {c : Char} (h : c.isDigit = true) : isSolid c = true := by
  have hall : ∀ n < 58, 48 ≤ n → isSolid (Char.ofNat n) = true := by decide
  simp only [Char.isDigit, Bool.and_eq_true, decide_eq_true_eq, ge_iff_le, UInt32.le_iff_toNat_le]
    at h
  have := hall c.toNat (Nat.lt_succ_of_le h.2) h.1
  rwa [Char.ofNat_toNat] at this

theorem digits_solid (n : Nat) : (Nat.toDigits 10 n).all isSolid = true :=
  List.all_eq_true.mpr fun _ hc =>
    isSolid_of_isDigit (Nat.isDigit_of_mem_toDigits (by decide) (by decide) hc)

theorem zeros_solid (n : Nat) : (zeros n).all isSolid = true := by
  rw [zeros, List.all_replicate]
  split <;> decide

theorem integerText_solid (n : Int) : (integerText n).all isSolid = true := by
  unfold integerText
  split
  · rw [List.all_cons, digits_solid]
    decide
  · exact digits_solid _

theorem integerText_ne_nil (n : Int) : integerText n ≠ [] := by
  unfold integerText
  split
  · simp
  · exact Nat.toDigits_ne_nil

/-! ## Dates and moments -/

theorem padded_solid (width n : Nat) : (padded width n).toList.all isSolid = true := by
  rw [padded, String.toList_ofList, List.all_append, digits_solid, Bool.and_true]
  exact zeros_solid _

theorem isoText_solid (d : Date) : d.isoText.toList.all isSolid = true := by
  simp only [Date.isoText, String.toList_append, List.all_append, padded_solid, Bool.and_true,
    Bool.true_and]
  decide

theorem isoText_ne_nil (d : Date) : d.isoText.toList ≠ [] := by
  simp [Date.isoText, String.toList_append]

theorem clockText_solid (m : Moment) : m.clockText.toList.all isSolid = true := by
  have hcolon : ":".toList.all isSolid = true := by decide
  have hdot : ".".toList.all isSolid = true := by decide
  simp only [Moment.clockText, String.toList_append, List.all_append, padded_solid, hcolon,
    Bool.and_true]
  split
  · rfl
  · simp only [String.toList_append, List.all_append, padded_solid, hdot, Bool.and_true]

theorem offsetText_solid (o : Int) : (offsetText o).toList.all isSolid = true := by
  have hcolon : ":".toList.all isSolid = true := by decide
  have hsign : (if o < 0 then "-" else "+").toList.all isSolid = true := by
    split <;> decide
  simp only [offsetText, String.toList_append, List.all_append, padded_solid, hcolon, hsign,
    Bool.and_true]
  split
  · rfl
  · simp only [String.toList_append, List.all_append, padded_solid, hcolon, Bool.and_true]

theorem stampText_solid (s : Stamp) : s.isoText.toList.all isSolid = true := by
  have hoffset : ((s.offset.map offsetText).getD "").toList.all isSolid = true := by
    cases s.offset with
    | none => rfl
    | some o => exact offsetText_solid o
  simp only [Stamp.isoText, Stamp.textWith, Moment.textWith, String.toList_append, List.all_append,
    isoText_solid, clockText_solid, hoffset, Bool.and_true, Bool.true_and]
  decide

theorem stampText_ne_nil (s : Stamp) : s.isoText.toList ≠ [] := by
  simp [Stamp.isoText, Stamp.textWith, Moment.textWith, Date.isoText, String.toList_append]

/-! ## Binary numbers -/

theorem trimZeros_solid {ds : List Char} (h : ds.all isSolid = true) :
    (trimZeros ds).all isSolid = true := by
  rw [List.all_eq_true] at h ⊢
  intro c hc
  have hc' : c ∈ ds.reverse.dropWhile (· == '0') := by simpa [trimZeros] using hc
  exact h c (List.mem_reverse.mp ((List.dropWhile_sublist _).subset hc'))

/-- Trimming zeros leaves a digit of a number that is not zero. -/
theorem trimZeros_ne_nil {n : Nat} (h : n ≠ 0) : trimZeros (Nat.toDigits 10 n) ≠ [] := by
  intro hnil
  have hzero : ∀ c ∈ Nat.toDigits 10 n, c = '0' := by
    simpa [trimZeros, List.dropWhile_eq_nil_iff] using hnil
  have hvalue := Nat.ofDigitChars_ten_toDigits (n := n)
  rw [List.eq_replicate_iff.mpr ⟨rfl, hzero⟩, Nat.ofDigitChars_replicate_zero] at hvalue
  omega

/-- Zero lies below the numbers that round to a positive one. -/
theorem interval_holds_pos {i : Interval} {num den : Nat} (hlow : 0 < i.low) (hden : 0 < den)
    (h : i.holds num den = true) : num ≠ 0 := by
  rintro rfl
  have := Nat.mul_pos hlow hden
  unfold Interval.holds at h
  split at h
  · simp only [Nat.zero_mul, Bool.and_eq_true, decide_eq_true_eq] at h
    omega
  · simp only [Nat.zero_mul, Bool.and_eq_true, decide_eq_true_eq] at h
    omega

theorem mem_either_order {α : Type} {b : Bool} {x y z : α}
    (h : z ∈ if b then [x, y] else [y, x]) : z = x ∨ z = y := by
  cases b with
  | true => simpa using h
  | false => simpa [or_comm] using h

/-- A neighbour is a fraction, and no other than zero has zero as its digits. -/
theorem gridNeighbours_spec {i : Interval} {point : Int} {n : Nat} {cell : Nat × Nat × Nat}
    (h : cell ∈ gridNeighbours i point n) : 0 < cell.2.2 ∧ (cell.1 = 0 → cell.2.1 = 0) := by
  -- both neighbours are made in the same way from their digits
  have hmade : ∃ (k : Nat) (shift : Int), cell =
      if shift ≤ 0 then (k, k, 10 ^ (-shift).toNat) else (k, k * 10 ^ shift.toNat, 1) := by
    rcases mem_either_order h with h | h
    · exact ⟨_, _, h⟩
    · exact ⟨_, _, h⟩
  obtain ⟨k, shift, rfl⟩ := hmade
  split
  · exact ⟨Nat.pow_pos (by decide), fun h => h⟩
  · exact ⟨Nat.one_pos, fun h => by simp only at h; simp [h]⟩

theorem shortestFrom_ne_zero {i : Interval} {point : Int} (hlow : 0 < i.low) :
    ∀ {fuel n : Nat} {p : Nat × Nat}, shortestFrom i point fuel n = some p → p.1 ≠ 0
  | 0, _, _, h => by cases h
  | fuel + 1, n, p, h => by
    rw [shortestFrom] at h
    split at h
    · rename_i cell hfind
      cases h
      obtain ⟨hden, hzero⟩ := gridNeighbours_spec (List.mem_of_find?_eq_some hfind)
      have hholds : i.holds cell.2.1 cell.2.2 = true := by
        simpa using List.find?_some hfind
      exact fun hc => interval_holds_pos hlow hden hholds (hzero hc)
    · exact shortestFrom_ne_zero hlow h

theorem ofDouble_low_pos {m : Nat} (hm : m ≠ 0) (e : Int) : 0 < (Interval.ofDouble m e).low := by
  have hup : 0 < 2 ^ e.toNat := Nat.pow_pos (by decide)
  unfold Interval.ofDouble
  apply Nat.mul_pos _ hup
  split <;> omega

theorem shortest_ne_nil {m : Nat} (hm : m ≠ 0) (e : Int) : (shortest m e).1 ≠ [] := by
  unfold shortest
  dsimp only
  split
  · rename_i k n hk
    exact trimZeros_ne_nil (shortestFrom_ne_zero (ofDouble_low_pos hm e) hk)
  · exact Nat.toDigits_ne_nil

theorem shortest_solid (m : Nat) (e : Int) : (shortest m e).1.all isSolid = true := by
  unfold shortest
  dsimp only
  split
  · exact trimZeros_solid (digits_solid _)
  · exact digits_solid _

theorem exponentText_solid (x : Int) : (exponentText x).all isSolid = true := by
  unfold exponentText
  have hdigits := digits_solid x.natAbs
  dsimp only
  split <;> split <;> simp only [List.all_cons, hdigits] <;> decide

theorem positional_solid {ds : List Char} (h : ds.all isSolid = true) (point : Int) :
    (positional ds point).all isSolid = true := by
  have hdot : isSolid '.' = true := by decide
  have hzero : isSolid '0' = true := by decide
  unfold positional
  split
  · simp only [List.all_cons, List.all_append, hzero, hdot, zeros_solid, h, Bool.and_self]
  · dsimp only
    split
    · simp only [List.all_append, List.all_cons, List.all_nil, hzero, hdot, zeros_solid, h,
        Bool.and_self]
    · rw [List.all_append, List.all_cons, hdot]
      have := h
      rw [← List.take_append_drop point.toNat ds, List.all_append] at this
      simpa using this

theorem positional_ne_nil (ds : List Char) (point : Int) : positional ds point ≠ [] := by
  unfold positional
  split
  · simp
  · dsimp only
    split <;> simp

theorem scientific_solid {ds : List Char} (h : ds.all isSolid = true) (point : Int) :
    (scientific ds point).all isSolid = true := by
  have hdot : isSolid '.' = true := by decide
  have he : isSolid 'e' = true := by decide
  unfold scientific
  split
  · rfl
  · simp only [List.all_cons, List.all_nil, Bool.and_true] at h
    simp only [List.all_cons, h, he, exponentText_solid, Bool.and_self]
  · simp only [List.all_cons, Bool.and_eq_true] at h
    simp only [List.all_cons, List.all_append, h.1, h.2, hdot, he, exponentText_solid,
      Bool.and_self]

theorem scientific_ne_nil {ds : List Char} (h : ds ≠ []) (point : Int) :
    scientific ds point ≠ [] := by
  unfold scientific
  split <;> simp_all

theorem doubleText_solid (x : Double) : x.text.toList.all isSolid = true := by
  cases x with
  | nan => decide
  | infinite negative => cases negative <;> decide
  | finite negative m e =>
    have hdigits : (if m = 0 then "0.0".toList else
        if -4 < (shortest m e).2 && (shortest m e).2 ≤ 16 then
          positional (shortest m e).1 (shortest m e).2
        else scientific (shortest m e).1 (shortest m e).2).all isSolid = true := by
      split
      · decide
      · split
        · exact positional_solid (shortest_solid m e) _
        · exact scientific_solid (shortest_solid m e) _
    simp only [Double.text, String.toList_ofList]
    cases negative with
    | false => exact hdigits
    | true =>
      rw [if_pos rfl, List.all_cons]
      exact Bool.and_eq_true_iff.mpr ⟨by decide, hdigits⟩

theorem doubleText_ne_nil (x : Double) : x.text.toList ≠ [] := by
  cases x with
  | nan => decide
  | infinite negative => cases negative <;> decide
  | finite negative m e =>
    simp only [Double.text, String.toList_ofList]
    cases negative with
    | true => simp
    | false =>
      simp only [Bool.false_eq_true, if_false]
      split
      · decide
      · rename_i hm
        split
        · exact positional_ne_nil _ _
        · exact scientific_ne_nil (shortest_ne_nil hm e) _

/-! ## All kinds -/

/-- A text is written as it is, if it may be; other kinds of values are written solidly. -/
theorem argumentForm?_cases {v : Value} {t : List Char} (h : v.argumentForm? = some t) :
    (v = .text (String.ofList t) ∧ isPlainArgument t = true) ∨
      ((∀ s, v ≠ .text s) ∧ t ≠ [] ∧ t.all isSolid = true) := by
  cases v with
  | bool b =>
    simp only [Value.argumentForm?, Option.some.injEq] at h
    subst h
    refine Or.inr ⟨nofun, ?_⟩
    cases b <;> decide
  | int n =>
    simp only [Value.argumentForm?, Option.some.injEq] at h
    subst h
    exact Or.inr ⟨nofun, integerText_ne_nil n, integerText_solid n⟩
  | float x =>
    simp only [Value.argumentForm?, Option.some.injEq] at h
    subst h
    exact Or.inr ⟨nofun, doubleText_ne_nil x, doubleText_solid x⟩
  | stamp m =>
    simp only [Value.argumentForm?, Option.some.injEq] at h
    subst h
    exact Or.inr ⟨nofun, stampText_ne_nil m, stampText_solid m⟩
  | date d =>
    simp only [Value.argumentForm?, Option.some.injEq] at h
    subst h
    exact Or.inr ⟨nofun, isoText_ne_nil d, isoText_solid d⟩
  | text s =>
    simp only [Value.argumentForm?] at h
    split at h
    · rename_i hs
      cases h
      exact Or.inl ⟨by rw [String.ofList_toList], hs⟩
    · cases h
  | _ => simp [Value.argumentForm?] at h

/-- A value that has a written form is written as an argument may be. -/
theorem isPlainArgument_of_form {v : Value} {t : List Char} (h : v.argumentForm? = some t) :
    isPlainArgument t = true := by
  rcases argumentForm?_cases h with ⟨-, ht⟩ | ⟨-, hne, hsolid⟩
  · exact ht
  · exact isPlainArgument_of_solid hne hsolid

end FieldCheck
