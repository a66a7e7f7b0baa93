import FieldCheck.Regex.Program

/-!
# Whether two regular expressions have the same parts

* `Node.same`, `sameSequence`, `sameChoices` — the comparison, part by part.
* Equality of parts and of whole patterns is decided by it.
-/

set_option autoImplicit false

namespace FieldCheck.Regex

mutual

/-- Whether two parts are the same. -/
def Node.same : Node → Node → Bool
  | .char c negated, .char c' negated' => c = c' && negated = negated'
  | .any, .any => true
  | .set items negated, .set items' negated' => items = items' && negated = negated'
  | .anchor place, .anchor place' => place = place'
  | .branch choices, .branch choices' => sameChoices choices choices'
  | .group index switches body, .group index' switches' body' =>
    index = index' && switches = switches' && sameSequence body body'
  | .atomic body, .atomic body' => sameSequence body body'
  | .repetition least most greed body, .repetition least' most' greed' body' =>
    least = least' && most = most' && greed = greed' && sameSequence body body'
  | .look behind negated width body, .look behind' negated' width' body' =>
    behind = behind' && negated = negated' && width = width' && sameSequence body body'
  | .reference g, .reference g' => g = g'
  | .condition g yes no, .condition g' yes' no' =>
    g = g' && sameSequence yes yes' && sameSequence no no'
  | _, _ => false

/-- Whether two sequences are the same. -/
def sameSequence : List Node → List Node → Bool
  | [], [] => true
  | n :: rest, n' :: rest' => n.same n' && sameSequence rest rest'
  | _, _ => false

/-- Whether two choices are the same. -/
def sameChoices : List (List Node) → List (List Node) → Bool
  | [], [] => true
  | choice :: rest, choice' :: rest' => sameSequence choice choice' && sameChoices rest rest'
  | _, _ => false

end

mutual

theorem same_iff : ∀ m n : Node, m.same n = true ↔ m = n
  | .char .., n => by cases n <;> simp [Node.same]
  | .any, n => by cases n <;> simp [Node.same]
  | .set .., n => by cases n <;> simp [Node.same]
  | .anchor _, n => by cases n <;> simp [Node.same]
  | .branch choices, n => by cases n <;> simp [Node.same, sameChoices_iff choices]
  | .group _ _ body, n => by cases n <;> simp [Node.same, sameSequence_iff body, and_assoc]
  | .atomic body, n => by cases n <;> simp [Node.same, sameSequence_iff body]
  | .repetition _ _ _ body, n => by cases n <;> simp [Node.same, sameSequence_iff body, and_assoc]
  | .look _ _ _ body, n => by cases n <;> simp [Node.same, sameSequence_iff body, and_assoc]
  | .reference _, n => by cases n <;> simp [Node.same]
  | .condition _ yes no, n => by
    cases n <;> simp [Node.same, sameSequence_iff yes, sameSequence_iff no, and_assoc]

theorem sameSequence_iff : ∀ a b : List Node, sameSequence a b = true ↔ a = b
  | [], b => by cases b <;> simp [sameSequence]
  | n :: rest, b => by cases b <;> simp [sameSequence, same_iff n, sameSequence_iff rest]

theorem sameChoices_iff : ∀ a b : List (List Node), sameChoices a b = true ↔ a = b
  | [], b => by cases b <;> simp [sameChoices]
  | choice :: rest, b => by
    cases b <;> simp [sameChoices, sameSequence_iff choice, sameChoices_iff rest]

end

instance : DecidableEq Node := fun m n => decidable_of_iff _ (same_iff m n)

deriving instance DecidableEq for Program

end FieldCheck.Regex
