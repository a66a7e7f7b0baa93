import FieldCheck.Proofs.NormalForm
import FieldCheck.Proofs.Notations
import FieldCheck.Rule.Choice

/-!
# Rules as the reader leaves them

A specification is one text, or a row of texts and of rules with arguments of any kind.  Every part of
it becomes one rule.

* `isRegex_iff` — the reader marks just what the rule `matches` takes for a regular expression.
* `Rule.Sound` — what holds of every rule that is read; `Rule.GivenByText`, `Rule.GivenByRow` — and what
  more there is, by what it was read from.
* `reads_of_ofText` — the rules of a text are the readings of what stands between its bars.
* `Value.isSource`, `Value.members` — what may be a specification, and its parts.

Principal result: `members_become_rules`.
-/

set_option autoImplicit false

namespace FieldCheck

open Text

/-! ## Regular expressions among arguments -/

/-- An argument that the rule `matches` takes for a regular expression: it reads one, or crashes over
it. -/
def Value.IsExpression (arg : Value) : Prop :=
  (∃ program, Rules.patternOf arg = .ok (some program)) ∨ ∃ crash, Rules.patternOf arg = .error crash

section Expressions

variable {arg : Value} {p : Regex.Pattern}

theorem slashedPattern?_isSome (arg : Value) :
    (Rules.slashedPattern? arg).isSome = arg.isRegex := by
  cases arg with
  | text s =>
    rw [Rules.slashedPattern?, Value.isRegex]
    cases isSlashed s.toList <;> rfl
  | _ => rfl

theorem isExpression_of_pattern (h : Rules.slashedPattern? arg = some p) : arg.IsExpression := by
  have hread : Rules.patternOf arg = (Rules.readPattern p).map some := by
    simp only [Rules.patternOf, h]
  rw [Value.IsExpression, hread]
  cases Rules.readPattern p with
  | ok program => exact Or.inl ⟨program, rfl⟩
  | error crash => exact Or.inr ⟨crash, rfl⟩

/-- The reader and the rule `matches` agree on what is a regular expression. -/
theorem isRegex_iff : arg.isRegex = true ↔ arg.IsExpression := by
  rw [← slashedPattern?_isSome]
  cases h : Rules.slashedPattern? arg with
  | some p => exact ⟨fun _ => isExpression_of_pattern h, fun _ => rfl⟩
  | none =>
    have hnone : Rules.patternOf arg = .ok none := by simp only [Rules.patternOf, h]
    refine ⟨nofun, ?_⟩
    rintro (⟨program, hprogram⟩ | ⟨crash, hcrash⟩)
    · rw [hnone] at hprogram
      cases hprogram
    · rw [hnone] at hcrash
      cases hcrash

end Expressions

/-! ## What is known of a rule that was read -/

/-- A rule in a row of rules: a text, or a name and arguments in a row. -/
def Value.isMember : Value → Bool
  | .text _ => true
  | v => v.isRow

/-- What holds of every rule that is read. -/
structure Rule.Sound (r : Rule Value) : Prop where
  /-- The name is a name as a whole. -/
  name : isName r.name.toList = true
  /-- A rule is marked exactly if `matches` would take one of its arguments for a regular expression. -/
  isRegex : r.isRegex = true ↔ ∃ arg ∈ r.args, arg.IsExpression

/-- What a text gives as a rule. -/
structure Rule.GivenByText (s : String) (r : Rule Value) : Prop extends r.Sound where
  read : Rule.read s.toList = .ok r
  /-- The arguments are texts without blanks around them, and no bar stands in them. -/
  args : ∀ arg ∈ r.args, ∃ t : String, arg = .text t ∧ trim t.toList = t.toList ∧ '|' ∉ t.toList

/-- What a name with arguments in a row gives as a rule. -/
structure Rule.GivenByRow (parts : List Value) (r : Rule Value) : Prop extends r.Sound where
  /-- The name is that in front, and the arguments are those behind it, as they are. -/
  parts : ∃ s : String, parts = .text s :: r.args ∧ takeBail (trim s.toList) = (r.bail, r.name.toList)

/-- What a member of a specification gives as a rule. -/
inductive Rule.GivenBy : Value → Rule Value → Prop
  | text {s : String} {r : Rule Value} : GivenByText s r → GivenBy (.text s) r
  | list {parts : List Value} {r : Rule Value} : GivenByRow parts r → GivenBy (.list parts) r
  | tuple {parts : List Value} {r : Rule Value} : GivenByRow parts r → GivenBy (.tuple parts) r

section Reading

variable {s : String} {r : Rule Value} {parts : List Value} {index : Nat} {element : Value}

theorem Rule.Parsed.sound (h : r.Parsed) : r.Sound where
  name := h.name
  isRegex := by
    rw [h.isRegex, List.any_eq_true]
    simp only [isRegex_iff]

theorem givenByText_of_read (hbar : '|' ∉ s.toList) (h : Rule.read s.toList = .ok r) :
    Rule.GivenByText s r := by
  have hread := Rule.readFromText_of_read hbar h
  refine ⟨hread.parsed.sound, h, fun arg harg => ?_⟩
  obtain ⟨t, rfl, ht⟩ := hread.args arg harg
  exact ⟨t, rfl, ht.trim_eq, ht.bar⟩

theorem givenByRow_of_ofParts (h : Rule.ofParts index element parts = .ok r) :
    Rule.GivenByRow parts r := by
  have hsound := (ofParts_parsed h).sound
  refine ⟨hsound, ?_⟩
  unfold Rule.ofParts at h
  split at h
  · cases h
  · rename_i s args
    dsimp only at h
    split at h
    · cases h
    · cases h
      refine ⟨s, rfl, ?_⟩
      rw [String.toList_ofList]
  · cases h

theorem givenBy_of_ofElement (hmember : element.isMember = true)
    (h : Rule.ofElement index element = .ok r) : Rule.GivenBy element r := by
  cases element with
  | text s =>
    rw [Rule.ofElement] at h
    split at h
    · cases h
    · rename_i hbar
      split at h
      · cases h
      · rename_i hread
        cases h
        exact .text (givenByText_of_read (by simpa using hbar) hread)
  | list parts => exact .list (givenByRow_of_ofParts h)
  | tuple parts => exact .tuple (givenByRow_of_ofParts h)
  | _ => cases hmember

/-- Every element of a list becomes one rule. -/
theorem givenBy_of_ofElements {items : List Value} {spec : Spec}
    (hitems : ∀ v ∈ items, v.isMember = true) (h : Spec.ofElements items = .ok spec) :
    List.Forall₂ Rule.GivenBy items spec.rules := by
  have hread : ∀ index rules, readElements index items = .ok rules →
      List.Forall₂ Rule.GivenBy items rules := by
    clear h
    induction items with
    | nil =>
      intro index rules h
      cases h
      exact .nil
    | cons v items ih =>
      obtain ⟨hv, hitems⟩ := List.forall_mem_cons.mp hitems
      intro index rules h
      rw [readElements] at h
      split at h
      · cases h
      · rename_i r hr
        split at h
        · cases h
        · rename_i more hmore
          cases h
          exact .cons (givenBy_of_ofElement hv hr) (ih hitems _ _ hmore)
  obtain ⟨rules, hrules, rfl⟩ := map_ok_iff.mp h
  exact hread 0 rules hrules

/-- Texts are read one by one exactly if the list of their readings is a list of rules. -/
theorem forall₂_read_iff {segments : List (List Char)} {rules : List (Rule Value)} :
    List.Forall₂ (fun segment r => Rule.read segment = .ok r) segments rules ↔
      segments.map Rule.read = rules.map Except.ok := by
  rw [← List.forall₂_eq_eq_eq, List.forall₂_map_left_iff, List.forall₂_map_right_iff]

/-- Every part of a text between its bars becomes one rule; a blank text has no part. -/
theorem reads_of_ofText {spec : Spec} (h : Spec.ofText s = .ok spec) :
    List.Forall₂ (fun segment r => Rule.read segment = .ok r)
      (if (trim s.toList).isEmpty then [] else pieces '|' s.toList) spec.rules := by
  unfold Spec.ofText at h
  dsimp only at h
  split at h
  · rename_i hblank
    cases h
    rw [if_pos hblank]
    exact .nil
  · rename_i hblank
    obtain ⟨rules, hrules, rfl⟩ := map_ok_iff.mp h
    rw [if_neg hblank, forall₂_read_iff, ← readings_trim, ← forall₂_read_iff]
    exact (readSegments_ok_iff s 0).mp hrules

end Reading

/-! ## Specifications -/

/-- What is read part by part: a text, or a row of rules. -/
def Value.isSource : Value → Bool
  | .text _ => true
  | .list items | .tuple items => items.all Value.isMember
  | _ => false

/-- The parts of a specification.  Those of a text stand between its bars; a blank text has none. -/
def Value.members : Value → List Value
  | .text s =>
    if (trim s.toList).isEmpty then []
    else (pieces '|' s.toList).map fun segment => .text (String.ofList segment)
  | .list items | .tuple items => items
  | _ => []

theorem givenBy_of_ofText {s : String} {spec : Spec} (h : Spec.ofText s = .ok spec) :
    List.Forall₂ Rule.GivenBy (Value.text s).members spec.rules := by
  have hreads := reads_of_ofText h
  rw [Value.members]
  split
  · rename_i hblank
    rw [if_pos hblank] at hreads
    rw [List.forall₂_nil_left_iff.mp hreads]
    exact .nil
  · rename_i hblank
    rw [if_neg hblank] at hreads
    have hbar : ∀ segment ∈ pieces '|' s.toList, '|' ∉ segment := fun _ => not_mem_of_mem_pieces
    rw [List.forall₂_map_left_iff]
    refine ((List.forall₂_and_left _ _).mpr ⟨hbar, hreads⟩).imp fun segment r hr => ?_
    refine .text (givenByText_of_read ?_ ?_)
    · simpa using hr.1
    · simpa using hr.2

/-- **Every part of a specification becomes one rule, in order.**  Its name is a name as a whole; its
arguments are trimmed texts without bars if it was a text, and stay as they are if it was a row; and it
is marked exactly if `matches` would take one of them for a regular expression. -/
theorem members_become_rules {source : Value} {spec : Spec} (hsource : source.isSource = true)
    (h : Spec.ofValue source = .ok spec) : List.Forall₂ Rule.GivenBy source.members spec.rules := by
  cases source with
  | text s => exact givenBy_of_ofText h
  | list items => exact givenBy_of_ofElements (List.all_eq_true.mp hsource) h
  | tuple items => exact givenBy_of_ofElements (List.all_eq_true.mp hsource) h
  | _ => cases hsource

/-- A text, a row with a number and a pattern, and a row with a text that no text could hold. -/
def mixedRows : Value :=
  .list
    [.text " ^ required ", .tuple [.text " ^matches", .int 3, .pattern { source := "a|b" }],
      .list [.text "in\n", .text " | "]]

def rowedSpec : Spec where
  rules :=
    [{ name := "required", bail := true },
      { name := "matches", args := [.int 3, .pattern { source := "a|b" }], isRegex := true, bail := true },
      { name := "in", args := [.text " | "] }]

theorem members_become_rules_mixed :
    mixedRows.isSource = true ∧ Spec.ofValue mixedRows = .ok rowedSpec ∧
      (Value.text gappedText).isSource = true ∧
      Spec.ofValue (.text gappedText) = .ok gappedSpec ∧
      List.Forall₂ Rule.GivenBy mixedRows.members rowedSpec.rules ∧
      List.Forall₂ Rule.GivenBy (Value.text gappedText).members gappedSpec.rules := by
  have hrows : Spec.ofValue mixedRows = .ok rowedSpec := rfl
  have htext : Spec.ofValue (.text gappedText) = .ok gappedSpec := ofText_gappedText
  exact ⟨rfl, hrows, rfl, htext, members_become_rules rfl hrows, members_become_rules rfl htext⟩

end FieldCheck
