import FieldCheck.Proofs.Setup
import Mathlib.Data.Nat.Find

/-!
# Where a run that collects outcomes ends

A run that collects goes on behind a failure, unless the rule is flagged or stands behind a bail rule.

* `declines` — whether a rule answers and says no.
* `EndsRun`, `RunLength` — the places at which a run may end, and the number of rules that it calls,
  both read off the rules and not off the run.
* `getElem?_markStops` — what the plan knows of the rule at a place.
* `runSteps_answered` — a run whose calls are answered, for any way to stop.
* `Collects` — all that is to be known of such a run.

Principal result: `collect_ends_at_stop`.
-/

set_option autoImplicit false

namespace FieldCheck

variable {halts : Step → Bool} {r : Registry} {spec : Spec} {v : Value} {c : Context}
  {resolved : List (Rule Value × Entry)} {i m : Nat}

/-! ## Places at which a run ends -/

/-- Whether a rule answers and says no. -/
def declines (v : Value) (c : Context) (p : Rule Value × Entry) : Bool :=
  match (ruleCall v c p).result with
  | .ok answer => !answer.truthy
  | .error _ => false

theorem isYes_of_declines {p : Rule Value × Entry} (h : declines v c p = true) :
    isYes (ruleCall v c p).result = false := by
  unfold declines at h
  split at h
  · rename_i answer hanswer
    rw [hanswer, isYes]
    simpa using h
  · cases h

/-- Whether some rule in front of a place means the rule that is registered as bail rule. -/
def BailBefore (resolved : List (Rule Value × Entry)) (i : Nat) : Prop :=
  ∃ q ∈ resolved.take i, q.2.name = bailName

/-- Whether a run ends at a place: its rule says no, and is flagged or stands behind a bail rule. -/
def EndsRun (v : Value) (c : Context) (resolved : List (Rule Value × Entry)) (i : Nat) : Prop :=
  ∃ p, resolved[i]? = some p ∧ declines v c p = true ∧ (p.1.bail = true ∨ BailBefore resolved i)

instance : Decidable (BailBefore resolved i) :=
  inferInstanceAs (Decidable (∃ q ∈ resolved.take i, q.2.name = bailName))

instance : Decidable (EndsRun v c resolved i) :=
  match h : resolved[i]? with
  | none => isFalse fun ⟨_, hp, _⟩ => nomatch h.symm.trans hp
  | some p =>
    decidable_of_iff (declines v c p = true ∧ (p.1.bail = true ∨ BailBefore resolved i)) <| by
      simp only [EndsRun, h, Option.some.injEq, exists_eq_left']

/-- How many rules a run calls: those up to the first place at which it ends, or all. -/
def RunLength (v : Value) (c : Context) (resolved : List (Rule Value × Entry)) (m : Nat) : Prop :=
  (∃ i, m = i + 1 ∧ EndsRun v c resolved i ∧ ∀ j < i, ¬EndsRun v c resolved j) ∨
    (m = resolved.length ∧ ∀ i, ¬EndsRun v c resolved i)

theorem exists_runLength (v : Value) (c : Context) (resolved : List (Rule Value × Entry)) :
    ∃ m, RunLength v c resolved m := by
  classical
  by_cases h : ∃ i, EndsRun v c resolved i
  · exact ⟨_, Or.inl ⟨Nat.find h, rfl, Nat.find_spec h, fun j hj => Nat.find_min h hj⟩⟩
  · exact ⟨_, Or.inr ⟨rfl, not_exists.mp h⟩⟩

/-- Behind a place at which the run does not end, it goes on. -/
theorem RunLength.lt_of_not_endsRun (hm : RunLength v c resolved m) (hi : i < m)
    (hgo : ¬EndsRun v c resolved i) (hlast : i + 1 < resolved.length) : i + 1 < m := by
  rcases hm with ⟨j, rfl, hj, -⟩ | ⟨rfl, -⟩
  · have hne : i ≠ j := by
      rintro rfl
      exact hgo hj
    omega
  · exact hlast

/-! ## The plan and its run -/

/-- What the plan knows of the rule at a place: a failure of it stops the run if the rule is flagged
or a bail rule stands in front. -/
theorem getElem?_markStops (bailing : Bool) (i : Nat) :
    (markStops bailing resolved)[i]? = resolved[i]?.map fun p =>
      { written := p.1.name
        entry := p.2
        args := p.1.args
        stops := (bailing || (resolved.take i).any fun q => q.2.name == bailName) || p.1.bail } := by
  induction resolved generalizing bailing i with
  | nil => rfl
  | cons p rest ih =>
    rw [markStops]
    cases i with
    | zero => simp
    | succ i => simp [ih, Bool.or_assoc]

/-- What a step is known by when its rule has answered. -/
def Step.outcome (s : Step) (v : Value) (c : Context) : Outcome :=
  { rule := s.entry.name, args := s.entry.fillArgs s.args, passed := isYes (s.call v c).result }

/-- Whether a step is the last of a run: it says no where that stops the run. -/
def Step.isLast (halts : Step → Bool) (v : Value) (c : Context) (s : Step) : Bool :=
  match s.verdict v c with
  | .ok o => !o.passed && halts s
  | .error _ => false

theorem Step.verdict_of_answer {s : Step} {answer : Value} (h : (s.call v c).result = .ok answer) :
    s.verdict v c = .ok (s.outcome v c) := by
  rw [Step.verdict, h, Step.outcome, h]
  rfl

/-- **A run whose calls are answered** has the outcomes of the steps up to the first that ends it, in
order, and makes the calls of these steps and no others. -/
theorem runSteps_answered {steps : List Step}
    (h : ∀ s ∈ upTo (Step.isLast halts v c) steps, ∃ answer, (s.call v c).result = .ok answer) :
    (runSteps halts v c steps).result =
        .ok ((upTo (Step.isLast halts v c) steps).map fun s => s.outcome v c) ∧
      (runSteps halts v c steps).events =
        (upTo (Step.isLast halts v c) steps).flatMap fun s => (s.call v c).events := by
  induction steps with
  | nil => exact ⟨rfl, rfl⟩
  | cons s rest ih =>
    rw [upTo_cons] at h ⊢
    obtain ⟨⟨answer, hanswer⟩, hrest⟩ := List.forall_mem_cons.mp h
    have hverdict := Step.verdict_of_answer hanswer
    have hends : s.isLast halts v c = (!(s.outcome v c).passed && halts s) := by
      rw [Step.isLast, hverdict]
    rw [runSteps_result_cons, runSteps_events_cons, hverdict, hends]
    rw [hends] at hrest
    cases hstop : !(s.outcome v c).passed && halts s with
    | true => simp only [hstop, if_true, List.map_cons, List.map_nil, List.flatMap_singleton,
        List.append_nil, and_self]
    | false =>
      simp only [hstop, Bool.false_eq_true, if_false] at hrest ⊢
      obtain ⟨hresult, hevents⟩ := ih hrest
      rw [hresult, hevents, List.flatMap_cons]
      exact ⟨rfl, rfl⟩

/-- Of the plan, the steps that end a run that collects are the places at which a run ends. -/
theorem endsRun_iff : EndsRun v c resolved i ↔
    ∃ s, (markStops false resolved)[i]? = some s ∧ s.isLast Step.stops v (c.about v) = true := by
  have hends (p : Rule Value × Entry) (stops : Bool) :
      Step.isLast Step.stops v (c.about v) { written := p.1.name, entry := p.2, args := p.1.args, stops } =
        (declines v c p && stops) := by
    rw [Step.isLast, verdict_of_ruleCall, declines]
    cases (ruleCall v c p).result <;> rfl
  simp only [getElem?_markStops, Option.map_eq_some_iff]
  constructor
  · rintro ⟨p, hp, hno, hstop⟩
    refine ⟨_, ⟨p, hp, rfl⟩, ?_⟩
    rw [hends, hno]
    rcases hstop with hflag | ⟨q, hq, hbail⟩
    · simp [hflag]
    · have hany : ((resolved.take i).any fun q => q.2.name == bailName) = true :=
        List.any_eq_true.mpr ⟨q, hq, beq_iff_eq.mpr hbail⟩
      simp [hany]
  · rintro ⟨_, ⟨p, hp, rfl⟩, hstop⟩
    rw [hends, Bool.and_eq_true, Bool.false_or, Bool.or_eq_true] at hstop
    obtain ⟨hno, hany | hflag⟩ := hstop
    · obtain ⟨q, hq, hbail⟩ := List.any_eq_true.mp hany
      exact ⟨p, hp, hno, Or.inr ⟨q, hq, beq_iff_eq.mp hbail⟩⟩
    · exact ⟨p, hp, hno, Or.inl hflag⟩

theorem length_markStops (bailing : Bool) :
    (markStops bailing resolved).length = resolved.length := by
  induction resolved generalizing bailing with
  | nil => rfl
  | cons p rest ih => rw [markStops, List.length_cons, ih, List.length_cons]

/-- The steps up to the first that ends the run are as many as the run calls rules. -/
theorem upTo_markStops (hm : RunLength v c resolved m) :
    upTo (Step.isLast Step.stops v (c.about v)) (markStops false resolved) =
      (markStops false resolved).take m := by
  have hnot {j : Nat} (hj : j < (markStops false resolved).length) (hgo : ¬EndsRun v c resolved j) :
      ¬(markStops false resolved)[j].isLast Step.stops v (c.about v) = true := fun hends =>
    hgo (endsRun_iff.mpr ⟨_, List.getElem?_eq_getElem hj, hends⟩)
  rcases hm with ⟨i, rfl, hi, hfirst⟩ | ⟨rfl, hnone⟩
  · obtain ⟨s, hs, hends⟩ := endsRun_iff.mp hi
    obtain ⟨hlt, rfl⟩ := List.getElem?_eq_some_iff.mp hs
    rw [upTo, (List.findIdx_eq hlt).mpr ⟨hends, fun j hj => ?_⟩]
    exact Bool.eq_false_iff.mpr (hnot (by omega) (hfirst j hj))
  · rw [upTo, List.findIdx_eq_length.mpr, ← length_markStops false, List.take_length]
    · exact List.take_of_length_le (Nat.le_succ _)
    · intro s hs
      obtain ⟨j, hj, rfl⟩ := List.mem_iff_getElem.mp hs
      exact Bool.eq_false_iff.mpr (hnot hj (hnone j))

/-! ## Runs that collect -/

/-- The outcome of a rule that has answered. -/
def outcomeOf (v : Value) (c : Context) (p : Rule Value × Entry) : Outcome :=
  { rule := p.2.name, args := (callOf v c p).args, passed := isYes (ruleCall v c p).result }

theorem map_markStops {β : Type} {f : Step → β} {g : Rule Value × Entry → β} {bailing : Bool}
    (h : ∀ p stops, f { written := p.1.name, entry := p.2, args := p.1.args, stops } = g p) :
    (markStops bailing resolved).map f = resolved.map g := by
  induction resolved generalizing bailing with
  | nil => rfl
  | cons p rest ih => rw [markStops, List.map_cons, h, ih, List.map_cons]

/-- A run that collects, when its calls are answered: its outcomes and its events. -/
theorem collect_of_runLength (hres : r.resolve spec.rules = .ok resolved)
    (hmix : (hasPolicy .bypass resolved && hasPolicy .run resolved) = false)
    (hgo : ¬(Vacant v ∧ hasPolicy .run resolved = false)) (hm : RunLength v c resolved m)
    (hanswers : ∀ p ∈ resolved.take m, ∃ answer, (ruleCall v c p).result = .ok answer) :
    (collect r spec v c).result = .ok { outcomes := (resolved.take m).map (outcomeOf v c) } ∧
      ∃ traces, OnlyTraces traces ∧ (collect r spec v c).events =
        ((resolved.take m).flatMap fun p => (ruleCall v c p).events) ++ traces := by
  by_cases hn : spec.rules = []
  · obtain rfl : resolved = [] := by simpa [hn] using (resolve_eq_ok_iff.mp hres).1
    rw [collect, evaluateWith_of_nil hn]
    exact ⟨by simp, [], fun e he => (by cases he), by simp⟩
  · have hplan := plan_of_not_skipped hres hmix hgo
    have hresults : ((markStops false resolved).take m).map (fun s => (s.call v (c.about v)).result) =
        (resolved.take m).map fun p => (ruleCall v c p).result := by
      rw [List.map_take, map_markStops (g := fun p => (ruleCall v c p).result) fun p stops => rfl,
        ← List.map_take]
    have hcalls : ∀ s ∈ upTo (Step.isLast Step.stops v (c.about v)) (markStops false resolved),
        ∃ answer, (s.call v (c.about v)).result = .ok answer := by
      intro s hs
      rw [upTo_markStops hm] at hs
      obtain ⟨p, hp, hsame⟩ := List.mem_map.mp (hresults ▸ List.mem_map_of_mem hs)
      exact hsame ▸ hanswers p hp
    obtain ⟨hresult, hevents⟩ := runSteps_answered hcalls
    rw [upTo_markStops hm, List.map_take,
      map_markStops (g := outcomeOf v c) fun p stops => rfl, ← List.map_take] at hresult
    rw [upTo_markStops hm, List.flatMap_def, List.map_take,
      map_markStops (g := fun p => (ruleCall v c p).events) fun p stops => rfl, ← List.map_take,
      ← List.flatMap_def] at hevents
    obtain ⟨traces, htraces, hall⟩ := evaluateWith_events Step.stops c hn hplan
    rw [collect, evaluateWith_result hn hplan, hresult]
    exact ⟨rfl, traces, htraces, by rw [hall, hevents]⟩

/-! ### Watched -/

section Watched

variable {begins ends : Call → Event}

@[simp] theorem declines_watchedRule (p : Rule Value × Entry) :
    declines v c (watchedRule begins ends p) = declines v c p := by
  simp [declines, ruleCall, watchedRule, Entry.watched]

theorem endsRun_watchedRule :
    EndsRun v c (resolved.map (watchedRule begins ends)) i ↔ EndsRun v c resolved i := by
  have hbail : BailBefore (resolved.map (watchedRule begins ends)) i ↔ BailBefore resolved i := by
    rw [BailBefore, ← List.map_take]
    constructor
    · rintro ⟨_, hmem, hname⟩
      obtain ⟨q, hq, rfl⟩ := List.mem_map.mp hmem
      exact ⟨q, hq, hname⟩
    · rintro ⟨q, hq, hname⟩
      exact ⟨_, List.mem_map_of_mem hq, hname⟩
  simp only [EndsRun, List.getElem?_map, Option.map_eq_some_iff, hbail]
  constructor
  · rintro ⟨_, ⟨p, hp, rfl⟩, hno, hstop⟩
    exact ⟨p, hp, by simpa using hno, hstop⟩
  · rintro ⟨p, hp, hno, hstop⟩
    exact ⟨_, ⟨p, hp, rfl⟩, by simpa using hno, hstop⟩

theorem RunLength.watched (hm : RunLength v c resolved m) :
    RunLength v c (resolved.map (watchedRule begins ends)) m := by
  simpa only [RunLength, endsRun_watchedRule, List.length_map] using hm

end Watched

/-- What `collect` does when the rules that it calls answer: `resolved` are the rules in parse order,
each with the entry that its name means, and `m` of them are called. -/
structure Collects (r : Registry) (spec : Spec) (v : Value) (c : Context)
    (resolved : List (Rule Value × Entry)) (m : Nat) : Prop where
  /-- The outcomes are those of the first `m` rules, in parse order. -/
  outcomes : (collect r spec v c).result = .ok { outcomes := (resolved.take m).map (outcomeOf v c) }
  /-- These rules are called, one after the other, and no others. -/
  calls : ∀ begins ends, ∃ traces, OnlyTraces traces ∧
    (collect (r.watched begins ends) spec v c).events =
      ((resolved.take m).flatMap fun p =>
        begins (callOf v c p) :: ((ruleCall v c p).events ++ [ends (callOf v c p)])) ++ traces
  /-- A rule that is called and is neither flagged nor behind a bail rule does not end the run, be it
  a bail rule itself, whatever it answers. -/
  unmarked : ∀ i p, i < m → resolved[i]? = some p → p.1.bail = false → ¬BailBefore resolved i →
    i + 1 < resolved.length → i + 1 < m
  /-- Nor does a rule that says yes. -/
  passed : ∀ i p, i < m → resolved[i]? = some p → isYes (ruleCall v c p).result = true →
    i + 1 < resolved.length → i + 1 < m

/-- A rule that says yes, one that says no, a bail rule that says no, and one that crashes. -/
def bailingRegistry : Registry where
  entries :=
    [{ name := "fine", predicate := fun _ _ _ => .done (.ok (.bool true)) },
      { name := "odd", predicate := fun _ _ _ => .done (.ok (.bool false)) },
      { name := "bail", predicate := fun _ _ _ => .done (.ok (.bool false)) },
      { name := "broken", predicate := fun _ _ _ => .done (.error .missingBounds) }]

/-- A flag that passes, a failure in front of the bail rule, which is written with a capital, and one
behind it. -/
def bailingSpec : Spec where
  rules := [{ name := "fine", bail := true }, { name := "odd" }, { name := "Bail" }, { name := "odd" },
    { name := "broken" }]

def bailingResolved : List (Rule Value × Entry) :=
  bailingSpec.rules.zip ([0, 1, 2, 1, 3].filterMap fun i => bailingRegistry.entries[i]?)

end FieldCheck
