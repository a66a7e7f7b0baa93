import FieldCheck.Proofs.Run

/-!
# The two modes of evaluation

Both modes run the same steps and differ in where they stop: `evaluate` at the first failure,
`collect` only at a failure of a step that stops.  A `Ledger` is what a run leaves behind, also when
a fault ends it.

* `stepLedger`, `Registry.ledger` — the ledger of a run; `runSteps_ledger` and `evaluateWith_ledger`
  say that reports and faults are read off it.
* `stepLedger_cut` — whatever the other mode stops at, stopping at the first failure is its ledger
  cut behind the first failure.

Principal result: `evaluate_is_collect_cut`.
-/

set_option autoImplicit false

namespace FieldCheck

/-! ## Ledgers -/

/-- What a run leaves behind: its outcomes, and the fault that ended it, if one did. -/
structure Ledger where
  outcomes : List Outcome := []
  fault : Option Fault := none

namespace Ledger

/-- One more outcome in front. -/
def add (o : Outcome) (l : Ledger) : Ledger := { l with outcomes := o :: l.outcomes }

/-- What the caller of the run gets to see. -/
def report (l : Ledger) : Except Fault Report :=
  match l.fault with
  | some fault => .error fault
  | none => .ok { outcomes := l.outcomes }

/-- The ledger cut behind the first failure; a fault that came later is gone. -/
def cut (l : Ledger) : Ledger :=
  { outcomes := upTo (fun o => !o.passed) l.outcomes
    fault := if l.outcomes.all Outcome.passed then l.fault else none }

theorem cut_add_passed {o : Outcome} (h : o.passed = true) (l : Ledger) :
    (l.add o).cut = l.cut.add o := by
  simp [cut, add, upTo_cons, h]

theorem cut_add_failed {o : Outcome} (h : o.passed = false) (l : Ledger) :
    (l.add o).cut = { outcomes := [o] } := by
  simp [cut, add, upTo_cons, h]

end Ledger

variable {halts : Step → Bool} {v : Value} {c : Context} {r : Registry} {spec : Spec}

/-- The ledger of a run over steps. -/
def stepLedger (halts : Step → Bool) (v : Value) (c : Context) : List Step → Ledger
  | [] => {}
  | s :: rest =>
    match s.verdict v c with
    | .error fault => { fault := some fault }
    | .ok o =>
      if !o.passed && halts s then { outcomes := [o] }
      else (stepLedger halts v c rest).add o

/-- The ledger of an evaluation; a setup that fails leaves no outcome. -/
def Registry.ledger (halts : Step → Bool) (r : Registry) (spec : Spec) (v : Value) (c : Context) :
    Ledger :=
  if spec.rules.isEmpty then {}
  else
    match r.plan spec v with
    | .error fault => { fault := some fault }
    | .ok steps => stepLedger halts v (c.about v) steps

/-- A run gives the outcomes of its ledger, or the fault. -/
theorem runSteps_ledger (steps : List Step) :
    (runSteps halts v c steps).result =
      (stepLedger halts v c steps).report.map Report.outcomes := by
  induction steps with
  | nil => rfl
  | cons s rest ih =>
    rw [runSteps_result_cons, stepLedger]
    cases s.verdict v c with
    | error fault => rfl
    | ok o =>
      by_cases hh : (!o.passed && halts s) = true
      · simp only [hh, if_true]
        rfl
      · simp only [hh, Bool.false_eq_true, if_false, ih]
        unfold Ledger.report Ledger.add
        cases (stepLedger halts v c rest).fault <;> rfl

/-- An evaluation gives the report of its ledger. -/
theorem evaluateWith_ledger : (evaluateWith halts r spec v c).result =
    (r.ledger halts spec v c).report := by
  unfold Registry.ledger
  by_cases hn : spec.rules = []
  · rw [evaluateWith_of_nil hn]
    simp only [hn, List.isEmpty_nil, if_true]
    rfl
  · simp only [hn, List.isEmpty_iff, if_false]
    cases hp : r.plan spec v with
    | error fault =>
      rw [evaluateWith_of_error hn hp]
      rfl
    | ok steps =>
      rw [evaluateWith_result hn hp, runSteps_ledger]
      simp only [Ledger.report]
      cases (stepLedger halts v (c.about v) steps).fault <;> rfl

/-! ## Cutting the ledger -/

/-- **Stopping at the first failure cuts the ledger of any other way to stop.** -/
theorem stepLedger_cut (steps : List Step) :
    stepLedger (fun _ => true) v c steps = (stepLedger halts v c steps).cut := by
  induction steps with
  | nil => rfl
  | cons s rest ih =>
    simp only [stepLedger]
    cases s.verdict v c with
    | error fault => rfl
    | ok o =>
      cases ho : o.passed with
      | true => simp [ho, Ledger.cut_add_passed ho, ih]
      | false =>
        -- the other mode may stop here as well, or it goes on: the cut forgets which
        have hone : ({ outcomes := [o] } : Ledger).cut = { outcomes := [o] } := by
          simp [Ledger.cut, upTo_cons, ho]
        by_cases hh : halts s = true
        · simp [ho, hh, hone]
        · simp [ho, hh, Ledger.cut_add_failed ho]

theorem Registry.ledger_cut :
    r.ledger (fun _ => true) spec v c = (r.ledger halts spec v c).cut := by
  unfold Registry.ledger
  split
  · rfl
  · split
    · rfl
    · exact stepLedger_cut _

/-! ## Reports and results -/

namespace Ledger

variable {l : Ledger}

theorem report_eq_ok_iff {report : Report} :
    l.report = .ok report ↔ l.fault = none ∧ report = { outcomes := l.outcomes } := by
  unfold Ledger.report
  cases l.fault with
  | none => simp [eq_comm]
  | some fault => simp

theorem report_eq_error_iff {fault : Fault} : l.report = .error fault ↔ l.fault = some fault := by
  unfold Ledger.report
  cases l.fault <;> simp

/-- The cut keeps the first failure. -/
theorem cut_firstFailure :
    ({ outcomes := l.cut.outcomes } : Report).firstFailure =
      ({ outcomes := l.outcomes } : Report).firstFailure := by
  simp only [Report.firstFailure, cut, find?_upTo]

/-- A cut in which nothing failed cuts nothing off. -/
theorem all_passed_of_cut
    (h : ({ outcomes := l.cut.outcomes } : Report).firstFailure.passed = true) :
    ∀ o ∈ l.outcomes, o.passed = true := by
  rw [cut_firstFailure] at h
  simpa [Result.passed, Report.firstFailure, List.find?_eq_none] using h

end Ledger

/-- A fault may wait behind a failure: then collecting reports the fault and not the failure. -/
theorem collect_fault_behind_failure :
    ∃ (r : Registry) (spec : Spec) (v : Value) (c : Context) (fault : Fault) (o : Outcome),
      (collect r spec v c).result = .error fault ∧
        (evaluate r spec v c).result = .ok { failure := some o } := by
  let no : Entry := { name := "no", predicate := fun _ _ _ => .done (.ok (.bool false)) }
  let broken : Entry := { name := "broken", predicate := fun _ _ _ => .done (.error .missingBounds) }
  exact ⟨{ entries := [no, broken] }, { rules := [{ name := "no" }, { name := "broken" }] },
    .bool true, {}, _, _, rfl, rfl⟩

end FieldCheck
