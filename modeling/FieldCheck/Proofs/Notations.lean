import FieldCheck.Evaluation.Fault
import FieldCheck.Proofs.Reread

/-!
# Two notations

A specification may be one text with bars between its rules, or a list of texts, one for each rule.
Both are read alike.

* `Rule.read_trim`, `readings_trim`, `readings_joined` — blanks around a rule do not count, so a text that
  was joined from rules gives the same readings as these rules one by one.
* `FirstRefused` — the place of the first text that is no rule, and what is wrong with it.
* `readSegments_of_refused`, `readElements_of_refused` — both readers stop at that place.
* `Malformed` — what others see of the fault.

Principal result: `text_and_list_agree`.
-/

set_option autoImplicit false

namespace FieldCheck

open Text

/-! ## Readings -/

theorem Rule.read_trim (s : List Char) : Rule.read (trim s) = Rule.read s := by
  rw [Rule.read, trim_trim, Rule.read]

/-- Trimming a text first changes nothing in what is read from it piece by piece. -/
theorem readings_trim (s : List Char) :
    (pieces '|' (trim s)).map Rule.read = (pieces '|' s).map Rule.read := by
  have hread (texts : List (List Char)) : texts.map Rule.read = (texts.map trim).map Rule.read := by
    rw [List.map_map]
    exact List.map_congr_left fun s _ => (Rule.read_trim s).symm
  rw [hread, map_trim_pieces_trim (by decide), ← hread]

/-- What is read from a joined text piece by piece is what is read from its parts. -/
theorem readings_joined {items : List String} (hne : items ≠ [])
    (hbar : ∀ s ∈ items, '|' ∉ s.toList) :
    (pieces '|' (trim ("|".intercalate items).toList)).map Rule.read =
      items.map fun s => Rule.read s.toList := by
  have hpieces : pieces '|' ("|".intercalate items).toList = items.map String.toList := by
    rw [String.toList_intercalate]
    exact pieces_intercalate_of_not_mem (by simpa using hne) (by simpa using hbar)
  rw [readings_trim, hpieces, List.map_map]
  rfl

/-- Of some readings, the first one that failed has this number and this fault. -/
def FirstRefused (readings : List (Except RuleFault (Rule Value))) (index : Nat)
    (fault : RuleFault) : Prop :=
  ∃ (rules : List (Rule Value)) (behind : _),
    readings = rules.map Except.ok ++ .error fault :: behind ∧ rules.length = index

/-- Readings have all gone well, or one of them is the first that failed. -/
theorem all_read_or_refused (readings : List (Except RuleFault (Rule Value))) :
    (∃ rules : List (Rule Value), readings = rules.map Except.ok) ∨
      ∃ index fault, FirstRefused readings index fault := by
  induction readings with
  | nil => exact Or.inl ⟨[], rfl⟩
  | cons reading readings ih =>
    cases reading with
    | error fault => exact Or.inr ⟨0, fault, [], readings, rfl, rfl⟩
    | ok r =>
      rcases ih with ⟨rules, rfl⟩ | ⟨index, fault, rules, behind, rfl, rfl⟩
      · exact Or.inl ⟨r :: rules, rfl⟩
      · exact Or.inr ⟨_, fault, r :: rules, behind, rfl, rfl⟩

/-! ## Segments of a text -/

section Segments

variable {segments : List (List Char)} {rules : List (Rule Value)} {index : Nat} {fault : RuleFault}

theorem readSegments_of_read (source : String) (start : Nat)
    (h : segments.map Rule.read = rules.map Except.ok) :
    readSegments source start segments = .ok rules := by
  rw [readSegments_ok_iff]
  induction rules generalizing segments with
  | nil =>
    obtain rfl : segments = [] := by simpa using h
    exact .nil
  | cons r rules ih =>
    obtain ⟨segment, rest, rfl, hsegment, hrest⟩ := List.map_eq_cons_iff.mp h
    exact .cons hsegment (ih hrest)

/-- Segments are read up to the first that is refused; the fault gives its number. -/
theorem readSegments_of_refused (source : String) (start : Nat)
    (h : FirstRefused (segments.map Rule.read) index fault) :
    readSegments source start segments = .error (.rule fault (.segment source (start + index))) := by
  obtain ⟨rules, behind, hreadings, rfl⟩ := h
  induction rules generalizing segments start with
  | nil =>
    obtain ⟨segment, rest, rfl, hsegment, -⟩ := List.map_eq_cons_iff.mp hreadings
    rw [readSegments, hsegment]
    rfl
  | cons r rules ih =>
    obtain ⟨segment, rest, rfl, hsegment, hrest⟩ := List.map_eq_cons_iff.mp hreadings
    simp only [readSegments, hsegment, ih (start + 1) hrest, List.length_cons]
    rw [Nat.add_right_comm, Nat.add_assoc]

end Segments

/-! ## Texts in a list -/

section Items

variable {items : List String} {rules : List (Rule Value)} {index : Nat} {fault : RuleFault}

theorem ofElement_text {s : String} (hbar : '|' ∉ s.toList) (index : Nat) :
    Rule.ofElement index (.text s) =
      match Rule.read s.toList with
      | .error e => .error (.rule e (.segment s index))
      | .ok r => .ok r := by
  have hplain : ¬s.toList.contains '|' = true := by simpa using hbar
  cases hread : Rule.read s.toList with
  | error e => simp only [Rule.ofElement, if_neg hplain, hread]
  | ok r => simp only [Rule.ofElement, if_neg hplain, hread]

theorem readElements_of_read (start : Nat) (hbar : ∀ s ∈ items, '|' ∉ s.toList)
    (h : items.map (fun s => Rule.read s.toList) = rules.map Except.ok) :
    readElements start (items.map Value.text) = .ok rules := by
  induction items generalizing rules start with
  | nil =>
    obtain rfl : rules = [] := by simpa using h.symm
    rfl
  | cons s items ih =>
    obtain ⟨hs, hbar⟩ := List.forall_mem_cons.mp hbar
    obtain ⟨r, rules, rfl, hr, hrules⟩ := List.map_eq_cons_iff.mp h.symm
    simp only [List.map_cons, readElements, ofElement_text hs, ← hr, ih (start + 1) hbar hrules.symm]

/-- Texts in a list are read up to the first that is refused; the fault gives its number. -/
theorem readElements_of_refused (start : Nat) (hbar : ∀ s ∈ items, '|' ∉ s.toList)
    (h : FirstRefused (items.map fun s => Rule.read s.toList) index fault) :
    ∃ s, readElements start (items.map Value.text) =
      .error (.rule fault (.segment s (start + index))) := by
  obtain ⟨rules, behind, hreadings, rfl⟩ := h
  induction rules generalizing items start with
  | nil =>
    obtain ⟨s, rest, rfl, hs, -⟩ := List.map_eq_cons_iff.mp hreadings
    refine ⟨s, ?_⟩
    rw [List.map_cons, readElements, ofElement_text (hbar s List.mem_cons_self), hs]
    rfl
  | cons r rules ih =>
    obtain ⟨s, rest, rfl, hs, hrest⟩ := List.map_eq_cons_iff.mp hreadings
    obtain ⟨hfirst, hbar⟩ := List.forall_mem_cons.mp hbar
    obtain ⟨t, ht⟩ := ih (start + 1) hbar hrest
    refine ⟨t, ?_⟩
    simp only [List.map_cons, readElements, ofElement_text hfirst, hs, ht, List.length_cons]
    rw [Nat.add_right_comm, Nat.add_assoc]

end Items

/-! ## Both notations -/

/-- What others see of the fault of a specification: its family, its wording and the number of the
rule that it is about. -/
structure Malformed (fault : SpecFault) (message : String) (index : Nat) : Prop where
  kind : (Fault.spec fault).record.kind = .parse
  message : (Fault.spec fault).record.message = message
  index : fault.details.find? "index" = some (.int index)

theorem malformed_segment (fault : RuleFault) (s : String) (index : Nat) :
    Malformed (.rule fault (.segment s index)) fault.message index where
  kind := rfl
  message := rfl
  index := rfl

/-- **A text and the list of its rules are read alike.**  Both give the same rules, those that are
read from the members of the list one by one; or both are refused with the same message, for the
first member that is no rule. -/
theorem text_and_list_agree {items : List String} (hne : items ≠ [])
    (hbar : ∀ s ∈ items, '|' ∉ s.toList) (hblank : trim ("|".intercalate items).toList ≠ []) :
    (∃ rules : List (Rule Value),
      items.map (fun s => Rule.read s.toList) = rules.map Except.ok ∧
      Spec.ofValue (.text ("|".intercalate items)) =
        .ok { rules, source := some ("|".intercalate items) } ∧
      Spec.ofValue (.list (items.map Value.text)) = .ok { rules }) ∨
    ∃ index fault textFault listFault,
      FirstRefused (items.map fun s => Rule.read s.toList) index fault ∧
      Spec.ofValue (.text ("|".intercalate items)) = .error textFault ∧
      Spec.ofValue (.list (items.map Value.text)) = .error listFault ∧
      Malformed textFault fault.message index ∧ Malformed listFault fault.message index := by
  have hreadings := readings_joined hne hbar
  have htext : Spec.ofValue (.text ("|".intercalate items)) =
      (readSegments ("|".intercalate items) 0 (pieces '|' (trim ("|".intercalate items).toList))).map
        fun rules => { rules, source := some ("|".intercalate items) } := by
    rw [Spec.ofValue, Spec.ofText]
    exact if_neg (by simpa using hblank)
  have hlist : Spec.ofValue (.list (items.map Value.text)) =
      (readElements 0 (items.map Value.text)).map fun rules => { rules } := rfl
  rcases all_read_or_refused (items.map fun s => Rule.read s.toList) with
    ⟨rules, hrules⟩ | ⟨index, fault, hrefused⟩
  · left
    refine ⟨rules, hrules, ?_, ?_⟩
    · rw [htext, readSegments_of_read _ 0 (hreadings.trans hrules)]
      rfl
    · rw [hlist, readElements_of_read 0 hbar hrules]
      rfl
  · right
    obtain ⟨s, hs⟩ := readElements_of_refused 0 hbar hrefused
    refine ⟨index, fault, _, _, hrefused, ?_, ?_,
      malformed_segment fault ("|".intercalate items) index, malformed_segment fault s index⟩
    · rw [htext, readSegments_of_refused _ 0 (hreadings.symm ▸ hrefused), Nat.zero_add]
      rfl
    · rw [hlist, hs, Nat.zero_add]
      rfl

/-- A rule between blanks, a blank text, and a text that is no name. -/
def gappedItems : List String := [" ^ required ", " ", "9lives"]

theorem text_and_list_agree_gapped :
    gappedItems ≠ [] ∧ (∀ s ∈ gappedItems, '|' ∉ s.toList) ∧
      trim ("|".intercalate gappedItems).toList ≠ [] ∧
      ∃ textFault listFault,
        Spec.ofValue (.text ("|".intercalate gappedItems)) = .error textFault ∧
        Spec.ofValue (.list (gappedItems.map Value.text)) = .error listFault ∧
        Malformed textFault "Empty rule name" 1 ∧ Malformed listFault "Empty rule name" 1 := by
  have hne : gappedItems ≠ [] := by simp [gappedItems]
  have hbar : ∀ s ∈ gappedItems, '|' ∉ s.toList := by decide
  have hblank : trim ("|".intercalate gappedItems).toList ≠ [] := by decide
  have hreadings : gappedItems.map (fun s => Rule.read s.toList) =
      [.ok { name := "required", bail := true }, .error .emptyName,
        .error (.invalidName "9lives")] := rfl
  refine ⟨hne, hbar, hblank, ?_⟩
  rcases text_and_list_agree hne hbar hblank with
    ⟨rules, hrules, -⟩ | ⟨index, fault, textFault, listFault, hfirst, htext, hlist, hsee, hsee'⟩
  · rw [hreadings] at hrules
    rcases rules with _ | ⟨_, _ | ⟨_, _⟩⟩ <;> simp at hrules
  · obtain ⟨rules, behind, hrules, rfl⟩ := hfirst
    rw [hreadings] at hrules
    rcases rules with _ | ⟨_, _ | ⟨_, _⟩⟩
    · simp at hrules
    · obtain rfl : fault = .emptyName := by simp_all
      exact ⟨textFault, listFault, htext, hlist, hsee, hsee'⟩
    · simp at hrules

end FieldCheck
