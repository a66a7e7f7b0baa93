import FieldCheck.Proofs.Segment
import FieldCheck.Text.Case

/-!
# Lower case does not see the case of ASCII letters

* `apply_toLower` — what does not tell small letters of ASCII from capitals does not see their case.
* `lower_map_toLower`, `trim_map_toLower` — lower case and trimming, also where a capital sigma takes its
  shape from the letters around it.
* `CaseAlike` — texts that differ in nothing but the case of ASCII letters; `lower_eq_of_caseAlike`.
* `Respaced` — texts that differ in outer blanks as well; `lower_trim_eq_of_respaced`.
-/

set_option autoImplicit false

namespace FieldCheck.Text

variable {c : Char} {s t : List Char}

theorem toLower_of_not_ascii (h : ¬c.toNat < 128) : c.toLower = c := by
  unfold Char.toLower
  rw [dif_neg]
  rintro ⟨-, hlast⟩
  have hle : c.toNat ≤ 90 := UInt32.le_iff_toNat_le.mp hlast
  omega

/-- What does not tell small letters of ASCII from capitals does not see the case of any letter. -/
theorem apply_toLower {α : Type} (f : Char → α)
    (hascii : ∀ n < 128, f (Char.ofNat n).toLower = f (Char.ofNat n)) (c : Char) :
    f c.toLower = f c := by
  by_cases hc : c.toNat < 128
  · exact forall_char_below (fun c => f c.toLower = f c) hascii hc
  · rw [toLower_of_not_ascii hc]

theorem isBlank_toLower (c : Char) : isBlank c.toLower = isBlank c :=
  apply_toLower isBlank (by decide) c

theorem cased_toLower (c : Char) :
    casedRanges.holds c.toLower.toNat = casedRanges.holds c.toNat :=
  apply_toLower (fun c => casedRanges.holds c.toNat) (by decide) c

theorem ignorable_toLower (c : Char) :
    ignorableRanges.holds c.toLower.toNat = ignorableRanges.holds c.toNat :=
  apply_toLower (fun c => ignorableRanges.holds c.toNat) (by decide) c

theorem meetsCased_map_toLower (s : List Char) : meetsCased (s.map Char.toLower) = meetsCased s := by
  induction s with
  | nil => rfl
  | cons c rest ih => rw [List.map_cons, meetsCased, meetsCased, cased_toLower, ignorable_toLower, ih]

/-- Lower case is that of each character, but for the shape of a sigma, which only sees whether there are
cased characters around it. -/
theorem lowerFrom_map_toLower (before s : List Char) :
    lowerFrom (before.map Char.toLower) (s.map Char.toLower) = lowerFrom before s := by
  induction s generalizing before with
  | nil => rfl
  | cons c rest ih =>
    rw [List.map_cons, lowerFrom, lowerFrom, ← List.map_cons, ih]
    by_cases hc : c.toNat < 128
    · have hlower : c.toLower.toNat < 128 ∧ c.toLower.toLower = c.toLower :=
        forall_char_below (fun c => c.toLower.toNat < 128 ∧ c.toLower.toLower = c.toLower)
          (by decide) hc
      rw [if_pos hc, if_pos hlower.1, hlower.2]
    · rw [toLower_of_not_ascii hc, meetsCased_map_toLower, meetsCased_map_toLower, if_neg hc,
        if_neg hc]

theorem lower_map_toLower (s : List Char) : lower (s.map Char.toLower) = lower s :=
  lowerFrom_map_toLower [] s

theorem trim_map_toLower (s : List Char) : trim (s.map Char.toLower) = (trim s).map Char.toLower := by
  have hdrop (s : List Char) :
      (s.map Char.toLower).dropWhile isBlank = (s.dropWhile isBlank).map Char.toLower := by
    rw [List.dropWhile_map]
    exact congrArg (fun test => (s.dropWhile test).map Char.toLower) (funext isBlank_toLower)
  simp only [trim, trimLeft, trimRight, hdrop, ← List.map_reverse]

/-! ## Texts of one meaning -/

/-- Texts that differ in nothing but the case of ASCII letters. -/
def CaseAlike (s t : List Char) : Prop := s.map Char.toLower = t.map Char.toLower

theorem lower_eq_of_caseAlike (h : CaseAlike s t) : lower s = lower t := by
  rw [← lower_map_toLower s, ← lower_map_toLower t, h]

/-- Texts that differ in nothing but the case of ASCII letters and the blanks around them. -/
def Respaced (s t : List Char) : Prop :=
  ∃ a core b a' core' b', s = a ++ core ++ b ∧ t = a' ++ core' ++ b' ∧ CaseAlike core core' ∧
    ∀ c ∈ a ++ b ++ a' ++ b', isBlank c = true

theorem lower_trim_eq_of_respaced (h : Respaced s t) : lower (trim s) = lower (trim t) := by
  obtain ⟨a, core, b, a', core', b', rfl, rfl, halike, hblank⟩ := h
  simp only [List.forall_mem_append] at hblank
  obtain ⟨⟨⟨ha, hb⟩, ha'⟩, hb'⟩ := hblank
  rw [trim_append_blank hb, trim_append_of_blank ha, trim_append_blank hb', trim_append_of_blank ha',
    ← lower_map_toLower (trim core), ← lower_map_toLower (trim core'), ← trim_map_toLower,
    ← trim_map_toLower, halike]

end FieldCheck.Text
