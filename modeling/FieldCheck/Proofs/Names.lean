import FieldCheck.Proofs.Segment
import FieldCheck.Registry.Standard
import Mathlib.Data.List.Nodup

/-!
# Names of the standard rules

Whatever means a standard rule is a name, also where it is found in snake case only.

* `isPlainLetter` — the characters of the names of the standard rules.
* `lowerFrom_plain` — no character beyond ASCII has a lower case that leaves only such characters.
* `Registry.find?_standard` — the entries of the standard registry.
* `isName_of_lookup` — a name that means a standard rule.
-/

set_option autoImplicit false

namespace FieldCheck

open Text

/-- The small letters of ASCII but `k`, which is also the lower case of the sign for kelvin, and the
low line. -/
def isPlainLetter (c : Char) : Bool := c = '_' || (c.isLower && c ≠ 'k')

theorem isPlainLetter_ascii {c : Char} (h : isPlainLetter c = true) :
    c.toNat < 128 ∧ c.toNat ≠ 0 ∧ c ≠ 'k' := by
  simp only [isPlainLetter, Bool.or_eq_true, Bool.and_eq_true, decide_eq_true_eq] at h
  rcases h with rfl | ⟨hlower, hk⟩
  · decide
  · obtain ⟨hfirst, hlast⟩ := toNat_of_isLower hlower
    exact ⟨by omega, by omega, hk⟩

theorem startsName_of_toLower {c : Char} (hascii : c.toNat < 128)
    (h : isPlainLetter c.toLower = true) : startsName c = true := by
  have hall : ∀ n < 128, isPlainLetter (Char.ofNat n).toLower = true →
      startsName (Char.ofNat n) = true := by decide
  have := hall c.toNat hascii
  rw [Char.ofNat_toNat] at this
  exact this h

/-! ## Lower case -/

/-- A code point stays, or moves with the row that holds it. -/
theorem moveCase_cases (rows : List CaseRow) (n : Nat) :
    moveCase rows n = n ∨
      ∃ row ∈ rows, row.1 ≤ n ∧ n ≤ row.2.1 ∧ moveCase rows n = ((n : Int) + row.2.2.2).toNat := by
  induction rows with
  | nil => exact Or.inl rfl
  | cons row rest ih =>
    obtain ⟨first, last, stride, shift⟩ := row
    rw [moveCase]
    split
    · exact Or.inl rfl
    · split
      · rename_i hfirst hrow
        simp only [Bool.and_eq_true, decide_eq_true_eq] at hrow
        exact Or.inr ⟨_, List.mem_cons_self, Nat.le_of_not_lt hfirst, hrow.1, rfl⟩
      · rcases ih with ih | ⟨row, hrow, hmove⟩
        · exact Or.inl ih
        · exact Or.inr ⟨row, List.mem_cons_of_mem _ hrow, hmove⟩

/-- Rows lead to ASCII only from the dotted capital I and from the sign for kelvin. -/
theorem lowerRows_ascii : ∀ row ∈ lowerRows, 128 ≤ (row.1 : Int) + row.2.2.2 ∨
    (row.1 = 304 ∧ row.2.1 = 304) ∨ (row.1 = 8490 ∧ row.2.1 = 8490 ∧ row.2.2.2 = -8383) := by
  decide +kernel

theorem toNat_charOfNat (n : Nat) : (Char.ofNat n).toNat = n ∨ (Char.ofNat n).toNat = 0 := by
  by_cases hvalid : n.isValidChar
  · exact Or.inl (by rw [Char.ofNat, dif_pos hvalid]; rfl)
  · exact Or.inr (by rw [Char.ofNat, dif_neg hvalid]; rfl)

/-- The dotted capital I and the sign for kelvin are the only characters beyond ASCII that move into
it. -/
theorem moveCase_beyond {n : Nat} (h : ¬n < 128) :
    128 ≤ moveCase lowerRows n ∨ n = 304 ∨ moveCase lowerRows n = 107 := by
  rcases moveCase_cases lowerRows n with hsame | ⟨row, hrow, hfirst, hlast, hmove⟩
  · omega
  · rcases lowerRows_ascii row hrow with hhigh | ⟨h1, h2⟩ | ⟨h1, h2, h3⟩
    · omega
    · omega
    · rw [hmove, h3]
      omega

theorem lowerChar_not_plain {c : Char} (hbeyond : ¬c.toNat < 128) (hdotted : c.toNat ≠ 304) :
    isPlainLetter (lowerChar c) = false := by
  cases hplain : isPlainLetter (lowerChar c) with
  | false => rfl
  | true =>
    exfalso
    obtain ⟨hascii, hzero, hk⟩ := isPlainLetter_ascii hplain
    rw [lowerChar, if_neg hbeyond] at hascii hzero hk
    rcases moveCase_beyond hbeyond with hmove | hmove | hmove
    · rcases toNat_charOfNat (moveCase lowerRows c.toNat) with hvalue | hvalue
      · omega
      · exact hzero hvalue
    · exact hdotted hmove
    · rw [hmove] at hk
      exact hk rfl

/-- Every character leaves one in lower case that is no plain letter unless it could start a name. -/
theorem lowerFrom_plain {c : Char} {s : List Char} (before : List Char) (hc : c ∈ s) :
    ∃ d ∈ lowerFrom before s, isPlainLetter d = true → startsName c = true := by
  induction s generalizing before with
  | nil => cases hc
  | cons first rest ih =>
    rcases List.mem_cons.mp hc with rfl | hc
    · rw [lowerFrom]
      split
      · rename_i hascii
        exact ⟨_, List.mem_append_left _ List.mem_cons_self, startsName_of_toLower hascii⟩
      · rename_i hbeyond
        split
        · refine ⟨_, List.mem_append_left _ List.mem_cons_self, fun hplain => ?_⟩
          split at hplain
          · exact absurd hplain (by decide)
          · exact absurd hplain (by decide)
        · split
          · -- the dot that the dotted capital I leaves
            refine ⟨Char.ofNat 0x307, List.mem_append_left _ (by simp), fun hplain => ?_⟩
            exact absurd hplain (by decide)
          · rename_i hdotted
            refine ⟨_, List.mem_append_left _ List.mem_cons_self, fun hplain => ?_⟩
            rw [lowerChar_not_plain hbeyond (by simpa using hdotted)] at hplain
            cases hplain
    · obtain ⟨d, hd, hplain⟩ := ih (first :: before) hc
      exact ⟨d, List.mem_append_right _ hd, hplain⟩

theorem mem_separateWords {c : Char} {s : List Char} (inWord : Bool) (hc : c ∈ s) :
    c ∈ separateWords inWord s := by
  induction s generalizing inWord with
  | nil => cases hc
  | cons first rest ih =>
    rw [separateWords, List.mem_append]
    rcases List.mem_cons.mp hc with rfl | hc
    · refine Or.inl ?_
      split <;> simp
    · exact Or.inr (ih _ hc)

/-! ## Names -/

theorem isName_of_startsName {s : List Char} (hne : s ≠ []) (h : ∀ c ∈ s, startsName c = true) :
    isName s = true := by
  cases s with
  | nil => exact absurd rfl hne
  | cons c rest =>
    obtain ⟨hc, hrest⟩ := List.forall_mem_cons.mp h
    rw [isName, hc, Bool.true_and, List.all_eq_true]
    intro d hd
    rw [continuesName, hrest d hd, Bool.true_or]

theorem isName_of_snakeCase {s : List Char} (hne : snakeCase s ≠ [])
    (h : (snakeCase s).all isPlainLetter = true) : isName s = true := by
  refine isName_of_startsName ?_ fun c hc => ?_
  · rintro rfl
    exact hne rfl
  · obtain ⟨d, hd, hplain⟩ := lowerFrom_plain [] (mem_separateWords false hc)
    exact hplain (List.all_eq_true.mp h d hd)

/-- A standard rule as a registry has it. -/
def StandardRule.entry (b : StandardRule) : Entry :=
  { name := b.name, predicate := b.check.predicate, defaults := b.defaults, policy := b.policy }

@[simp] theorem StandardRule.entry_name (b : StandardRule) : b.entry.name = b.name := rfl

/-- These are the entries that the standard registry has. -/
theorem Registry.standard_entries : Registry.standard.entries = standardRules.map StandardRule.entry :=
  rfl

theorem standardRules_plain : ∀ b ∈ standardRules,
    b.name.toList ≠ [] ∧ b.name.toList.all isPlainLetter = true ∧ isName b.name.toList = true := by
  decide

theorem Registry.name_of_find? {r : Registry} {name : String} {e : Entry}
    (h : r.find? name = some e) : e.name = name := by
  have hname := List.find?_some h
  simpa using hname

/-- The name of a standard rule has the entry of that rule. -/
theorem Registry.find?_standard {b : StandardRule} (hb : b ∈ standardRules) :
    Registry.standard.find? b.name = some b.entry := by
  have hdistinct : (standardRules.map StandardRule.name).Nodup := by decide
  have hsome : (Registry.standard.find? b.name).isSome = true := by
    rw [Registry.find?, List.find?_isSome]
    exact ⟨b.entry, List.mem_map_of_mem hb, beq_self_eq_true b.name⟩
  obtain ⟨e, he⟩ := Option.isSome_iff_exists.mp hsome
  have hname : e.name = b.name := Registry.name_of_find? he
  rw [he]
  rw [Registry.find?, Registry.standard_entries] at he
  obtain ⟨other, hother, rfl⟩ := List.mem_map.mp (List.mem_of_find?_eq_some he)
  have hsame : other.name = b.name := hname
  rw [List.inj_on_of_nodup_map hdistinct hother hb hsame]

/-- What means a standard rule, as it is or in snake case, is a name. -/
theorem isName_of_lookup {r : Registry} {b : StandardRule} (hb : b ∈ standardRules) {name : String}
    (h : r.lookup name = some b.entry) : isName name.toList = true := by
  obtain ⟨hne, hplain, hname⟩ := standardRules_plain b hb
  rcases Option.or_eq_some_iff.mp h with hfind | ⟨-, hfind⟩
  · have hsame : b.name = name := Registry.name_of_find? hfind
    rwa [← hsame]
  · have hsame : b.name = snakeString name := Registry.name_of_find? hfind
    rw [hsame, snakeString, String.toList_ofList] at hne hplain
    exact isName_of_snakeCase hne hplain

end FieldCheck
