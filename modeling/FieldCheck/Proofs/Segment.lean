import FieldCheck.Proofs.Arguments
import FieldCheck.Spec.Basic

/-!
# One rule, written and read

* `isName_char`, `trimmed_of_isName` — names hold no character that the notation uses.
* `trimmed_ruleForm`, `takeBail_ruleForm`, `splitColon_append` — the parts of a written rule.
* `Rule.read_ruleForm` — reading a written rule comes down to splitting its arguments.
-/

set_option autoImplicit false

namespace FieldCheck

open Text

/-! ## Names -/

section Names

variable {c : Char} {name : List Char}

/-- What is checked code point by code point below a bound holds of the characters below it. -/
theorem forall_char_below (P : Char → Prop) {bound : Nat} (hall : ∀ n < bound, P (Char.ofNat n))
    (hc : c.toNat < bound) : P c := by
  have hkept := hall c.toNat hc
  rwa [Char.ofNat_toNat] at hkept

theorem toNat_of_isLower (h : c.isLower = true) : 97 ≤ c.toNat ∧ c.toNat ≤ 122 := by
  obtain ⟨hfirst, hlast⟩ := Bool.and_eq_true_iff.mp h
  exact ⟨UInt32.le_iff_toNat_le.mp (of_decide_eq_true hfirst),
    UInt32.le_iff_toNat_le.mp (of_decide_eq_true hlast)⟩

theorem toNat_of_isAlpha (h : c.isAlpha = true) : 65 ≤ c.toNat ∧ c.toNat ≤ 122 := by
  rcases Bool.or_eq_true_iff.mp h with hupper | hlower
  · obtain ⟨hfirst, hlast⟩ := of_decide_eq_true hupper
    have hfirst : 65 ≤ c.toNat := UInt32.le_iff_toNat_le.mp hfirst
    have hlast : c.toNat ≤ 90 := UInt32.le_iff_toNat_le.mp hlast
    omega
  · have := toNat_of_isLower hlower
    omega

theorem toNat_of_continuesName (h : continuesName c = true) : c.toNat < 123 := by
  simp only [continuesName, startsName, Bool.or_eq_true, decide_eq_true_eq] at h
  rcases h with (halpha | rfl) | hdigit
  · exact Nat.lt_succ_of_le (toNat_of_isAlpha halpha).2
  · decide
  · exact Nat.lt_of_le_of_lt (Char.isDigit_iff_toNat.mp hdigit).2 (by decide)

/-- A character of a name is neither blank nor one that the notation uses. -/
theorem continuesName_char (h : continuesName c = true) :
    isBlank c = false ∧ c ≠ '^' ∧ c ≠ ':' ∧ c ≠ '|' := by
  have hall : ∀ n < 123, continuesName (Char.ofNat n) = true →
      isBlank (Char.ofNat n) = false ∧ Char.ofNat n ≠ '^' ∧ Char.ofNat n ≠ ':' ∧
        Char.ofNat n ≠ '|' := by
    decide
  have := hall c.toNat (toNat_of_continuesName h)
  rw [Char.ofNat_toNat] at this
  exact this h

theorem isName_char (h : isName name = true) (hc : c ∈ name) :
    isBlank c = false ∧ c ≠ '^' ∧ c ≠ ':' ∧ c ≠ '|' := by
  cases name with
  | nil => cases hc
  | cons d rest =>
    simp only [isName, Bool.and_eq_true, List.all_eq_true] at h
    rcases List.mem_cons.mp hc with rfl | hc
    · exact continuesName_char (by simp [continuesName, h.1])
    · exact continuesName_char (h.2 c hc)

theorem trimmed_of_isName (h : isName name = true) : Trimmed name := by
  refine ⟨?_, trim_eq_self_iff.mpr ⟨fun c hc => ?_, fun c hc => ?_⟩⟩
  · rintro rfl
    cases h
  · exact (isName_char h (List.mem_of_mem_head? hc)).1
  · exact (isName_char h (List.mem_of_mem_getLast? hc)).1

theorem requireName_ok_iff : requireName name = .ok () ↔ isName name = true := by
  unfold requireName
  constructor
  · intro h
    split at h
    · cases h
    · split at h
      · rename_i hname
        exact hname
      · cases h
  · intro h
    rw [if_neg (by simpa using (trimmed_of_isName h).ne_nil), if_pos h]

end Names

/-! ## One rule -/

section Segment

variable {name : String} {bail : Bool} {ts : List (List Char)}

theorem ruleForm_bail (name : String) (ts : List (List Char)) :
    ruleForm name true ts = '^' :: ruleForm name false ts := by
  simp only [ruleForm, if_true, Bool.false_eq_true, if_false]
  split <;> rfl

theorem trimmed_ruleForm (hname : isName name.toList = true)
    (hts : ∀ t ∈ ts, isPlainArgument t = true) : Trimmed (ruleForm name bail ts) := by
  have hplain : Trimmed (ruleForm name false ts) := by
    cases ts with
    | nil => exact trimmed_of_isName hname
    | cons t ts =>
      have hjoined : Trimmed ([','].intercalate (t :: ts)) :=
        Trimmed.intercalate (List.cons_ne_nil _ _) fun u hu => trimmed_of_isPlainArgument (hts u hu)
      have := (trimmed_of_isName hname).between [':'] hjoined
      rwa [List.append_assoc] at this
  cases bail with
  | false => exact hplain
  | true =>
    rw [ruleForm_bail]
    exact hplain.cons (by decide)

theorem mem_intercalate {separator : List Char} {c : Char}
    (hc : c ∈ separator.intercalate ts) : c ∈ separator ∨ ∃ t ∈ ts, c ∈ t := by
  induction ts with
  | nil => cases hc
  | cons t ts ih =>
    cases ts with
    | nil => exact Or.inr ⟨t, List.mem_cons_self, by simpa using hc⟩
    | cons u us =>
      rw [List.intercalate_cons_cons, List.mem_append, List.mem_append] at hc
      rcases hc with (hc | hc) | hc
      · exact Or.inr ⟨t, List.mem_cons_self, hc⟩
      · exact Or.inl hc
      · rcases ih hc with h | ⟨w, hw, hcw⟩
        · exact Or.inl h
        · exact Or.inr ⟨w, List.mem_cons_of_mem _ hw, hcw⟩

/-- No bar stands in a written rule, so that rules can be told apart. -/
theorem bar_not_mem_ruleForm (hname : isName name.toList = true)
    (hts : ∀ t ∈ ts, isPlainArgument t = true) : '|' ∉ ruleForm name bail ts := by
  have hplain : '|' ∉ ruleForm name false ts := by
    have hn : '|' ∉ name.toList := fun hc => (isName_char hname hc).2.2.2 rfl
    cases ts with
    | nil => exact hn
    | cons t ts =>
      intro hc
      rcases List.mem_append.mp hc with hc | hc
      · exact hn hc
      · rcases List.mem_cons.mp hc with hc | hc
        · cases hc
        · rcases mem_intercalate hc with hc | ⟨u, hu, hcu⟩
          · simp at hc
          · exact bar_not_mem_written (hts u hu) hcu
  cases bail with
  | false => exact hplain
  | true =>
    rw [ruleForm_bail, List.mem_cons, not_or]
    exact ⟨by decide, hplain⟩

theorem takeBail_ruleForm (hname : isName name.toList = true)
    (hts : ∀ t ∈ ts, isPlainArgument t = true) :
    takeBail (ruleForm name bail ts) = (bail, ruleForm name false ts) := by
  cases bail with
  | true => rw [ruleForm_bail, takeBail, (trimmed_ruleForm hname hts).trim_eq]
  | false =>
    -- the name in front does not begin with the flag
    cases hn : name.toList with
    | nil => exact absurd hn (trimmed_of_isName hname).ne_nil
    | cons c rest =>
      have hc : c ≠ '^' := (isName_char hname (by rw [hn]; exact List.mem_cons_self)).2.1
      have hform : ∃ more, ruleForm name false ts = c :: more := by
        cases ts with
        | nil => exact ⟨rest, hn⟩
        | cons t ts => exact ⟨rest ++ ':' :: [','].intercalate (t :: ts), by simp [ruleForm, hn]⟩
      obtain ⟨more, hmore⟩ := hform
      rw [hmore, takeBail]
      rintro rest' heq
      exact hc (List.cons.inj heq).1

theorem splitColon_append {a : List Char} (h : ':' ∉ a) (b : List Char) :
    splitColon (a ++ ':' :: b) = (a, some b) := by
  induction a with
  | nil => rfl
  | cons c a ih =>
    simp only [List.mem_cons, not_or] at h
    rw [List.cons_append, splitColon, if_neg (Ne.symm h.1), ih h.2]

theorem splitColon_of_not_mem {a : List Char} (h : ':' ∉ a) : splitColon a = (a, none) := by
  induction a with
  | nil => rfl
  | cons c a ih =>
    simp only [List.mem_cons, not_or] at h
    rw [splitColon, if_neg (Ne.symm h.1), ih h.2]

/-- **Reading one written rule comes down to splitting its arguments.** -/
theorem Rule.read_ruleForm (hname : isName name.toList = true)
    (hts : ∀ t ∈ ts, isPlainArgument t = true) :
    Rule.read (ruleForm name bail ts) =
      (splitArguments ([','].intercalate ts)).elim (.error .unbalanced) fun args =>
        .ok
          { name
            args := args.map fun a => .text (String.ofList a)
            isRegex := args.any isSlashed
            bail } := by
  have hcolon : ':' ∉ name.toList := fun hc => (isName_char hname hc).2.2.1 rfl
  have hsplit : splitColon (ruleForm name false ts) =
      (name.toList, if ts = [] then none else some ([','].intercalate ts)) := by
    cases ts with
    | nil => exact splitColon_of_not_mem hcolon
    | cons t ts => exact splitColon_append hcolon _
  have harguments : (if ts = [] then none else some ([','].intercalate ts)).elim (some [])
      splitArguments = splitArguments ([','].intercalate ts) := by
    cases ts with
    | nil => rfl
    | cons t ts => rfl
  rw [Rule.read, (trimmed_ruleForm hname hts).trim_eq, takeBail_ruleForm hname hts]
  simp only [hsplit, harguments, (trimmed_of_isName hname).trim_eq, requireName_ok_iff.mpr hname,
    String.ofList_toList]
  cases splitArguments ([','].intercalate ts) with
  | none => rfl
  | some args => rfl

end Segment

end FieldCheck
