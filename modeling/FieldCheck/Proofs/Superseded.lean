import FieldCheck.Proofs.Rounds

/-!
# Superseded rounds

A round is superseded when a newer round of its field begins before its rules have finished.

* `Superseded` — a token of the field that was given out before the round ended is newer.
* `InTurn.newer_begins` — then a round of the field began after it.
* `superseded_discarded_iff` — what a superseded round ends with.
* `superseded_crash_kept` — a superseded round that is not discarded.
-/

set_option autoImplicit false

namespace FieldCheck

/-- Whether a newer round of the field has begun, by what was noted before. -/
def Superseded (field : String) (token : Nat) (before : List Deed) : Prop :=
  ∃ newer ∈ begunTokens field before, token < newer

section Newer

variable {form : Form} {start : Tokens} {log a b before after : List Deed} {i token : Nat}
  {field : String}

theorem InTurn.tokens_increase (h : InTurn form start log) (field : String) :
    (begunTokens field log).Pairwise (· < ·) := by
  rw [h.tokens field]
  exact List.pairwise_lt_range'

/-- The round with the newer token began behind the superseded one. -/
theorem InTurn.newer_begins (h : InTurn form start log) (hlog : log = before ++ after)
    (hbefore : before = a ++ .began i field token :: b) (hnewer : Superseded field token before) :
    b.any (Deed.begins field) = true := by
  obtain ⟨newer, hmem, hlt⟩ := hnewer
  have hsplit : begunTokens field log =
      begunTokens field a ++ token :: (begunTokens field b ++ begunTokens field after) := by
    rw [hlog, hbefore, begunTokens_append, begunTokens_append]
    simp [begunTokens]
  have hincrease := h.tokens_increase field
  rw [hsplit, List.pairwise_append] at hincrease
  -- a token in front of the superseded one is older
  have hbehind : newer ∈ begunTokens field b := by
    rw [hbefore, begunTokens_append] at hmem
    have hcases : newer ∈ begunTokens field a ∨ newer = token ∨ newer ∈ begunTokens field b := by
      simpa [begunTokens] using hmem
    rcases hcases with ha | heq | hb
    · have := hincrease.2.2 newer ha token List.mem_cons_self
      omega
    · omega
    · exact hb
  cases hany : b.any (Deed.begins field) with
  | true => rfl
  | false =>
    rw [begunTokens_eq_nil_iff.mpr hany] at hbehind
    cases hbehind

end Newer

/-- **A superseded round is discarded exactly if its rules have finished without a fault.**  It never
hands over a result; a fault of its rules comes out as it is. -/
theorem superseded_discarded_iff (form : Form) (start : Tokens) (moves : List Move)
    {before after : List Deed} {i : Nat} {field : String} {values : Values} {token : Nat}
    {outcome : Except FormFault (Option Result)}
    (hlog : (Rounds.run form { tokens := start } moves).log =
      before ++ .ended i field values token outcome :: after)
    (hnewer : Superseded field token before) :
    (outcome = .ok none ↔ ∃ result, (form.evaluation field values).result = .ok result) ∧
      ∀ fault, outcome = .error fault ↔ (form.evaluation field values).result = .error fault := by
  have hinTurn : InTurn form start (Rounds.run form { tokens := start } moves).log :=
    ((Sound.initial form start).run moves).inTurn
  obtain ⟨a, b, hbefore, houtcome⟩ := hinTurn.settled hlog
  have hany : b.any (Deed.begins field) = true := hinTurn.newer_begins hlog hbefore hnewer
  simp only [hany, if_true] at houtcome
  rw [houtcome]
  cases (form.evaluation field values).result with
  | ok result => simp [Except.map]
  | error fault => simp [Except.map]

/-- A form with one field that has one rule. -/
def loneForm (name : String) (rule : Rule Value) : Form where
  fields := [{ rules := { name }, spec := { rules := [rule] } }]

/-- A round that is superseded before its rules have finished. -/
def lateMoves (name : String) (value : Value) : List Move :=
  [.begin name, .begin name, .call 0 [(name, value)], .advance 0]

/-- The late round of a field whose rule fails leaves nothing. -/
theorem superseded_discarded_blank :
    (Rounds.run (loneForm "name" { name := "required" }) { tokens := [] }
        (lateMoves "name" (.text ""))).log =
      [.began 0 "name" 1, .began 1 "name" 2] ++
        .ended 0 "name" [("name", .text "")] 1 (.ok none) :: [] ∧
    Superseded "name" 1 [.began 0 "name" 1, .began 1 "name" 2] ∧
    ∃ result, ((loneForm "name" { name := "required" }).evaluation "name"
      [("name", .text "")]).result = .ok result := by
  have hlog : (Rounds.run (loneForm "name" { name := "required" }) { tokens := [] }
      (lateMoves "name" (.text ""))).log =
        [.began 0 "name" 1, .began 1 "name" 2] ++
          .ended 0 "name" [("name", .text "")] 1 (.ok none) :: [] := rfl
  have hnewer : Superseded "name" 1 [.began 0 "name" 1, .began 1 "name" 2] := ⟨2, by decide, by decide⟩
  exact ⟨hlog, hnewer, (superseded_discarded_iff _ _ _ hlog hnewer).1.mp rfl⟩

/-- The late round of a field whose rule is set up wrongly is not discarded: its fault comes out,
although a newer round has begun. -/
theorem superseded_crash_kept :
    (Rounds.run (loneForm "age" { name := "between", args := [.text "1"] }) { tokens := [] }
        (lateMoves "age" (.text "5"))).log =
      [.began 0 "age" 1, .began 1 "age" 2] ++
        .ended 0 "age" [("age", .text "5")] 1
          (.error (.evaluation
            (.execution "between" "between" ["'1'"] (some "age") .missingBounds))) :: [] ∧
    Superseded "age" 1 [.began 0 "age" 1, .began 1 "age" 2] ∧
    ¬∀ (form : Form) (start : Tokens) (moves : List Move) (before after : List Deed) (i : Nat)
        (field : String) (values : Values) (token : Nat)
        (outcome : Except FormFault (Option Result)),
      (Rounds.run form { tokens := start } moves).log =
          before ++ .ended i field values token outcome :: after →
        Superseded field token before → outcome = .ok none := by
  have hnewer : Superseded "age" 1 [.began 0 "age" 1, .began 1 "age" 2] := ⟨2, by decide, by decide⟩
  refine ⟨rfl, hnewer, ?_⟩
  intro hall
  have hdiscarded := hall (loneForm "age" { name := "between", args := [.text "1"] }) []
    (lateMoves "age" (.text "5")) _ _ _ _ _ _ _ rfl hnewer
  cases hdiscarded

end FieldCheck
