import FieldCheck.Text.Blank
import FieldCheck.Text.Pieces
import Mathlib.Data.List.Basic
import Mathlib.Data.List.DropRight
import Mathlib.Data.List.Induction

/-!
# Laws of trimming and of cutting at a separator

* `trim_eq_self_iff` — trimming keeps a text exactly if neither end of it is blank.
* `trim_cons` — a text that starts with a character that is not blank is trimmed at its end only.
* `trim_append_of_blank`, `trim_append_blank`, `trim_trim` — blanks at the ends come and go.
* `Trimmed` — texts with no blank at either end; such texts stay so when they are joined.
* `pieces_append`, `pieces_intercalate` — cutting where a separator was put.
* `map_trim_pieces_trim` — trimming before cutting changes no more than the blanks of the pieces.
-/

set_option autoImplicit false

namespace FieldCheck.Text

/-! ## Trimming -/

section Trim

variable {c : Char} {s : List Char}

theorem trimLeft_cons (h : isBlank c = false) (s : List Char) : trimLeft (c :: s) = c :: s := by
  simp [trimLeft, h]

theorem trimRight_cons (h : isBlank c = false) (s : List Char) :
    trimRight (c :: s) = c :: trimRight s := by
  unfold trimRight
  rw [List.reverse_cons, List.dropWhile_append]
  split
  · rename_i hnil
    rw [List.isEmpty_iff.mp hnil]
    simp [h]
  · simp

/-- Only the end of such a text is trimmed. -/
theorem trim_cons (h : isBlank c = false) (s : List Char) : trim (c :: s) = c :: trimRight s := by
  rw [trim, trimLeft_cons h, trimRight_cons h]

theorem trimLeft_around (h : isBlank c = false) (a b : List Char) :
    trimLeft (a ++ c :: b) = trimLeft a ++ c :: b := by
  unfold trimLeft
  rw [List.dropWhile_append]
  split
  · rename_i hnil
    rw [List.isEmpty_iff.mp hnil, List.nil_append, List.dropWhile_cons_of_neg (by simp [h])]
  · rfl

theorem trimRight_around (h : isBlank c = false) (a b : List Char) :
    trimRight (a ++ c :: b) = a ++ c :: trimRight b := by
  have hleft := trimLeft_around h b.reverse a.reverse
  unfold trimLeft at hleft
  rw [trimRight, List.reverse_append, List.reverse_cons, List.append_assoc, List.singleton_append, hleft]
  simp [trimRight]

theorem trimRight_trimRight (s : List Char) : trimRight (trimRight s) = trimRight s := by
  simp [trimRight, List.dropWhile_idempotent]

/-- What is not blank keeps what stands between it and the ends from being trimmed on its side. -/
theorem trim_around (h : isBlank c = false) (a b : List Char) :
    trim (a ++ c :: b) = trimLeft a ++ c :: trimRight b := by
  rw [trim, trimLeft_around h, trimRight_around h]

theorem trimLeft_length_le (s : List Char) : (trimLeft s).length ≤ s.length :=
  (List.dropWhile_suffix _).length_le

theorem trimRight_length_le (s : List Char) : (trimRight s).length ≤ s.length := by
  unfold trimRight
  have := (List.dropWhile_suffix isBlank (l := s.reverse)).length_le
  rwa [List.length_reverse] at this ⊢

theorem trim_length_le (s : List Char) : (trim s).length ≤ s.length :=
  Nat.le_trans (trimRight_length_le _) (trimLeft_length_le _)

theorem trimRight_concat (s : List Char) (h : isBlank c = false) :
    trimRight (s ++ [c]) = s ++ [c] := by
  simp [trimRight, h]

theorem trimRight_eq_self (h : ∀ c ∈ s.getLast?, isBlank c = false) : trimRight s = s := by
  rcases List.eq_nil_or_concat s with rfl | ⟨t, d, rfl⟩
  · rfl
  · rw [List.concat_eq_append] at h ⊢
    exact trimRight_concat t (h d (by simp))

/-- Trimming keeps a text exactly if neither end of it is blank. -/
theorem trim_eq_self_iff : trim s = s ↔
    (∀ c ∈ s.head?, isBlank c = false) ∧ ∀ c ∈ s.getLast?, isBlank c = false := by
  constructor
  · intro h
    -- a blank at either end would make the trimmed text shorter
    have hlen : s.length ≤ (trimLeft s).length := by
      have := trimRight_length_le (trimLeft s)
      rw [show trimRight (trimLeft s) = s from h] at this
      exact this
    refine ⟨?_, ?_⟩
    · intro c hc
      obtain ⟨t, rfl⟩ := List.head?_eq_some_iff.mp hc
      cases hb : isBlank c with
      | false => rfl
      | true =>
        have : (trimLeft (c :: t)).length ≤ t.length := by
          rw [trimLeft, List.dropWhile_cons_of_pos hb]
          exact trimLeft_length_le t
        simp only [List.length_cons] at hlen
        omega
    · intro c hc
      obtain ⟨t, rfl⟩ := List.getLast?_eq_some_iff.mp hc
      cases hb : isBlank c with
      | false => rfl
      | true =>
        have hleft : trimLeft (t ++ [c]) = t ++ [c] :=
          (List.dropWhile_suffix _).eq_of_length_le hlen
        rw [trim, hleft] at h
        have hlen' : (trimRight (t ++ [c])).length ≤ t.length := by
          have := trimRight_length_le t
          simpa [trimRight, hb] using this
        rw [h, List.length_append] at hlen'
        simp only [List.length_singleton] at hlen'
        omega
  · rintro ⟨hhead, hlast⟩
    cases s with
    | nil => rfl
    | cons c t =>
      have := trimRight_eq_self hlast
      rw [trim, trimLeft_cons (hhead c rfl), this]

theorem trimLeft_cons_blank (h : isBlank c = true) (s : List Char) :
    trimLeft (c :: s) = trimLeft s := List.dropWhile_cons_of_pos h

theorem trimRight_concat_blank (h : isBlank c = true) (s : List Char) :
    trimRight (s ++ [c]) = trimRight s := by
  simp [trimRight, h]

theorem trim_cons_blank (h : isBlank c = true) (s : List Char) : trim (c :: s) = trim s := by
  rw [trim, trimLeft_cons_blank h, trim]

theorem trim_concat_blank (h : isBlank c = true) (s : List Char) : trim (s ++ [c]) = trim s := by
  induction s with
  | nil => exact trim_cons_blank h []
  | cons d s ih =>
    cases hd : isBlank d with
    | true => rw [List.cons_append, trim_cons_blank hd, trim_cons_blank hd, ih]
    | false => rw [List.cons_append, trim_cons hd, trim_cons hd, trimRight_concat_blank h]

theorem trim_trimLeft (s : List Char) : trim (trimLeft s) = trim s := by
  induction s with
  | nil => rfl
  | cons c s ih =>
    cases hc : isBlank c with
    | false => rw [trimLeft_cons hc]
    | true => rw [trimLeft_cons_blank hc, trim_cons_blank hc, ih]

theorem trim_trimRight (s : List Char) : trim (trimRight s) = trim s := by
  induction s using List.reverseRecOn with
  | nil => rfl
  | append_singleton s c ih =>
    cases hc : isBlank c with
    | false => rw [trimRight_concat s hc]
    | true => rw [trimRight_concat_blank hc, trim_concat_blank hc, ih]

theorem trim_trim (s : List Char) : trim (trim s) = trim s :=
  (trim_trimRight (trimLeft s)).trans (trim_trimLeft s)

theorem trim_append_of_blank {a : List Char} (h : ∀ c ∈ a, isBlank c = true) (s : List Char) :
    trim (a ++ s) = trim s := by
  induction a with
  | nil => rfl
  | cons c a ih =>
    obtain ⟨hc, ha⟩ := List.forall_mem_cons.mp h
    rw [List.cons_append, trim_cons_blank hc, ih ha]

theorem trim_append_blank {b : List Char} (h : ∀ c ∈ b, isBlank c = true) (s : List Char) :
    trim (s ++ b) = trim s := by
  induction b generalizing s with
  | nil => rw [List.append_nil]
  | cons c b ih =>
    obtain ⟨hc, hb⟩ := List.forall_mem_cons.mp h
    rw [List.append_cons, ih hb, trim_concat_blank hc]

/-- A text that trimming keeps and that is not empty: neither of its ends is blank. -/
structure Trimmed (s : List Char) : Prop where
  ne_nil : s ≠ []
  trim_eq : trim s = s

namespace Trimmed

variable {a b : List Char}

theorem cons (hc : isBlank c = false) (hs : Trimmed s) : Trimmed (c :: s) := by
  refine ⟨List.cons_ne_nil _ _, trim_eq_self_iff.mpr ⟨fun d hd => by cases hd; exact hc, ?_⟩⟩
  rw [List.getLast?_cons_of_ne_nil hs.ne_nil]
  exact (trim_eq_self_iff.mp hs.trim_eq).2

/-- Whatever stands between two such texts is not trimmed. -/
theorem between (ha : Trimmed a) (m : List Char) (hb : Trimmed b) : Trimmed (a ++ m ++ b) := by
  refine ⟨by simp [ha.ne_nil], trim_eq_self_iff.mpr ⟨?_, ?_⟩⟩
  · rw [List.append_assoc, List.head?_append_of_ne_nil _ ha.ne_nil]
    exact (trim_eq_self_iff.mp ha.trim_eq).1
  · rw [List.getLast?_append_of_ne_nil _ hb.ne_nil]
    exact (trim_eq_self_iff.mp hb.trim_eq).2

theorem intercalate {separator : List Char} {ts : List (List Char)} (hne : ts ≠ [])
    (h : ∀ t ∈ ts, Trimmed t) : Trimmed (separator.intercalate ts) := by
  induction ts with
  | nil => exact absurd rfl hne
  | cons t ts ih =>
    have ht := h t List.mem_cons_self
    cases ts with
    | nil => simpa using ht
    | cons u us =>
      rw [List.intercalate_cons_cons]
      exact ht.between _ (ih (List.cons_ne_nil _ _) fun v hv => h v (List.mem_cons_of_mem _ hv))

end Trimmed

end Trim

/-! ## Cutting -/

section Pieces

variable {separator : Char} {s : List Char}

/-- Cutting at a separator is the library's. -/
theorem pieces_eq_splitOn (separator : Char) (s : List Char) :
    pieces separator s = s.splitOn separator := by
  induction s with
  | nil => rfl
  | cons c rest ih =>
    rw [pieces, List.splitOn_cons_eq_if_modifyHead, ih]
    by_cases h : c = separator
    · simp [h]
    · have hne := List.splitOn_ne_nil separator rest
      simp only [h, if_false, beq_iff_eq]
      cases hp : rest.splitOn separator with
      | nil => exact absurd hp hne
      | cons p ps => rfl

theorem pieces_of_not_mem (h : separator ∉ s) : pieces separator s = [s] := by
  rw [pieces_eq_splitOn, List.splitOn_eq_singleton h]

theorem pieces_append (a b : List Char) :
    pieces separator (a ++ separator :: b) = pieces separator a ++ pieces separator b := by
  simp only [pieces_eq_splitOn, List.splitOn_append_cons_self]

/-- Cutting texts that were joined cuts each of them. -/
theorem pieces_intercalate {ts : List (List Char)} (hne : ts ≠ []) :
    pieces separator ([separator].intercalate ts) = ts.flatMap (pieces separator) := by
  induction ts with
  | nil => exact absurd rfl hne
  | cons t ts ih =>
    cases ts with
    | nil => simp
    | cons u us =>
      rw [List.intercalate_cons_cons, List.append_assoc, List.singleton_append, pieces_append,
        ih (by simp)]
      rfl

/-- Texts without the separator come back as they were. -/
theorem pieces_intercalate_of_not_mem {ts : List (List Char)} (hne : ts ≠ [])
    (h : ∀ t ∈ ts, separator ∉ t) : pieces separator ([separator].intercalate ts) = ts := by
  rw [pieces_eq_splitOn, List.splitOn_intercalate separator h hne]

theorem pieces_cons_separator (s : List Char) :
    pieces separator (separator :: s) = [] :: pieces separator s := by
  rw [pieces, if_pos rfl]

/-- A character in front belongs to the first piece. -/
theorem pieces_cons_of_ne {c : Char} (h : c ≠ separator) (s : List Char) :
    pieces separator (c :: s) = (pieces separator s).modifyHead (c :: ·) := by
  rw [pieces, if_neg h]
  cases hs : pieces separator s with
  | nil => exact absurd hs (pieces_ne_nil separator s)
  | cons first more => rfl

/-- A character at the end belongs to the last piece. -/
theorem pieces_concat_of_ne {c : Char} (h : c ≠ separator) (s : List Char) :
    ∃ front last, pieces separator s = front ++ [last] ∧
      pieces separator (s ++ [c]) = front ++ [last ++ [c]] := by
  induction s with
  | nil => exact ⟨[], [], rfl, by rw [List.nil_append, pieces_cons_of_ne h]; rfl⟩
  | cons d s ih =>
    obtain ⟨front, last, hs, hsc⟩ := ih
    by_cases hd : d = separator
    · subst hd
      refine ⟨[] :: front, last, ?_, ?_⟩
      · rw [pieces_cons_separator, hs, List.cons_append]
      · rw [List.cons_append, pieces_cons_separator, hsc, List.cons_append]
    · rw [List.cons_append, pieces_cons_of_ne hd, pieces_cons_of_ne hd, hs, hsc]
      cases front with
      | nil => exact ⟨[], d :: last, rfl, rfl⟩
      | cons first more => exact ⟨(d :: first) :: more, last, rfl, rfl⟩

/-- **Trimming a text before it is cut changes no more than the blanks of its pieces.**  The separator
must not be blank itself. -/
theorem map_trim_pieces_trim (hseparator : isBlank separator = false) (s : List Char) :
    (pieces separator (trim s)).map trim = (pieces separator s).map trim := by
  have hne {c : Char} (hc : isBlank c = true) : c ≠ separator := by
    rintro rfl
    rw [hseparator] at hc
    cases hc
  have hleft (s : List Char) :
      (pieces separator (trimLeft s)).map trim = (pieces separator s).map trim := by
    induction s with
    | nil => rfl
    | cons c s ih =>
      cases hc : isBlank c with
      | false => rw [trimLeft_cons hc]
      | true =>
        rw [trimLeft_cons_blank hc, pieces_cons_of_ne (hne hc), ih]
        cases pieces separator s with
        | nil => rfl
        | cons first more => simp [trim_cons_blank hc]
  have hright (s : List Char) :
      (pieces separator (trimRight s)).map trim = (pieces separator s).map trim := by
    induction s using List.reverseRecOn with
    | nil => rfl
    | append_singleton s c ih =>
      cases hc : isBlank c with
      | false => rw [trimRight_concat s hc]
      | true =>
        obtain ⟨front, last, hs, hsc⟩ := pieces_concat_of_ne (hne hc) s
        rw [trimRight_concat_blank hc, ih, hs, hsc]
        simp [trim_concat_blank hc]
  rw [trim, hright, hleft]

end Pieces

end FieldCheck.Text
