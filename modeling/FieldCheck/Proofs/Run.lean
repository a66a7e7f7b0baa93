import FieldCheck.Evaluation.Run
import FieldCheck.Proofs.Limits
import FieldCheck.Proofs.Routine

/-!
# One step of an evaluation, and the whole

Everything that is proved about evaluations goes through the equations of this module.

* `upTo` — a list cut behind its first member of a kind.
* `Step.crashFault_cases` — the fault that a crash is turned into.
* `Step.call`, `Step.verdict` — the call that a step makes, and what comes of it: an outcome, or that
  fault.
* `runSteps_result_cons`, `runSteps_events_cons` — what one step adds to a run.
* `evaluateWith_result`, `evaluateWith_events` — the whole: set up, then run.
* `resolve_eq_ok_iff`, `plan_of_resolve`, `plan_eq_ok` — the setup: each name looked up, then the policies.
-/

set_option autoImplicit false

namespace FieldCheck

/-! ## Cutting behind the first -/

section UpTo

variable {α : Type} {stop : α → Bool}

/-- A list up to its first member that stops, that one included. -/
def upTo (stop : α → Bool) (xs : List α) : List α := xs.take (xs.findIdx stop + 1)

@[simp] theorem upTo_nil : upTo stop [] = [] := rfl

theorem upTo_cons (a : α) (xs : List α) :
    upTo stop (a :: xs) = a :: if stop a then [] else upTo stop xs := by
  unfold upTo
  rw [List.findIdx_cons]
  cases stop a <;> simp

/-- The first member that stops is still there behind the cut. -/
theorem find?_upTo (xs : List α) : (upTo stop xs).find? stop = xs.find? stop := by
  induction xs with
  | nil => rfl
  | cons a xs ih =>
    rw [upTo_cons, List.find?_cons, List.find?_cons]
    cases h : stop a with
    | true => rfl
    | false => simpa using ih

end UpTo

variable {halts : Step → Bool} {v : Value} {c : Context} {r : Registry} {spec : Spec}

/-- A crash is reported with the literals of the arguments. -/
theorem Step.crashFault_of_writable {s : Step} (h : ∀ a ∈ s.entry.fillArgs s.args, a.Writable c.room)
    (crash : Crash) :
    s.crashFault c crash = .execution s.entry.name s.written
      ((s.entry.fillArgs s.args).map Value.literalText) c.fieldName crash := by
  rw [Step.crashFault, literalsWithin_eq_ok_iff.mpr ⟨h, rfl⟩]

/-- If one of them cannot be written, that is all that is reported. -/
theorem Step.crashFault_of_obstacle {s : Step} {obstacle : Obstacle}
    (h : literalsWithin c.room (s.entry.fillArgs s.args) = .error obstacle) (crash : Crash) :
    s.crashFault c crash = .unwritten s.entry.name s.written crash obstacle := by
  rw [Step.crashFault, h]

theorem Step.crashFault_cases (s : Step) (c : Context) (crash : Crash) :
    s.crashFault c crash = .execution s.entry.name s.written
        ((s.entry.fillArgs s.args).map Value.literalText) c.fieldName crash ∨
    ∃ obstacle, s.crashFault c crash = .unwritten s.entry.name s.written crash obstacle := by
  cases h : literalsWithin c.room (s.entry.fillArgs s.args) with
  | ok texts => exact .inl (s.crashFault_of_writable (literalsWithin_eq_ok_iff.mp h).1 crash)
  | error obstacle => exact .inr ⟨obstacle, s.crashFault_of_obstacle h crash⟩

/-- The call that a step makes. -/
def Step.call (s : Step) (v : Value) (c : Context) : Routine (Except Crash Value) :=
  s.entry.predicate v (s.entry.fillArgs s.args) c

/-- What an answer means. -/
def Step.judge (s : Step) (c : Context) : Except Crash Value → Except Fault Outcome
  | .error crash => .error (s.crashFault c crash)
  | .ok answer =>
    .ok { rule := s.entry.name, args := s.entry.fillArgs s.args, passed := answer.truthy }

/-- What comes of a step. -/
def Step.verdict (s : Step) (v : Value) (c : Context) : Except Fault Outcome :=
  s.judge c (s.call v c).result

/-- An outcome is told from the answer of the call. -/
theorem verdict_eq_ok {s : Step} {o : Outcome} (h : s.verdict v c = .ok o) :
    ∃ answer, (s.call v c).result = .ok answer ∧
      o = { rule := s.entry.name, args := s.entry.fillArgs s.args, passed := answer.truthy } := by
  unfold Step.verdict Step.judge at h
  split at h
  · cases h
  · rename_i answer hanswer
    exact ⟨answer, hanswer, (Except.ok.inj h).symm⟩

/-! ## Running steps -/

theorem runSteps_cons (s : Step) (rest : List Step) :
    runSteps halts v c (s :: rest) = (s.call v c).bind fun answer =>
      match s.judge c answer with
      | .error fault => .done (.error fault)
      | .ok o =>
        if !o.passed && halts s then .done (.ok [o])
        else (runSteps halts v c rest).map fun more => more.map (o :: ·) := by
  simp only [runSteps, Step.call]
  congr 1
  funext answer
  cases answer <;> rfl

@[simp] theorem runSteps_nil : runSteps halts v c [] = .done (.ok []) := rfl

/-- What one step adds to the result of a run. -/
theorem runSteps_result_cons (s : Step) (rest : List Step) :
    (runSteps halts v c (s :: rest)).result =
      match s.verdict v c with
      | .error fault => .error fault
      | .ok o =>
        if !o.passed && halts s then .ok [o]
        else (runSteps halts v c rest).result.map (o :: ·) := by
  rw [runSteps_cons, Routine.result_bind, Step.verdict]
  cases s.judge c (s.call v c).result with
  | error fault => rfl
  | ok o =>
    by_cases h : (!o.passed && halts s) = true
    · simp only [h, if_true, Routine.result_done]
    · simp only [h, Bool.false_eq_true, if_false, Routine.result_map]

/-- What one step adds to the events of a run: those of its own call come first. -/
theorem runSteps_events_cons (s : Step) (rest : List Step) :
    (runSteps halts v c (s :: rest)).events =
      (s.call v c).events ++
        match s.verdict v c with
        | .error _ => []
        | .ok o => if !o.passed && halts s then [] else (runSteps halts v c rest).events := by
  rw [runSteps_cons, Routine.events_bind, Step.verdict]
  cases s.judge c (s.call v c).result with
  | error fault => rfl
  | ok o =>
    by_cases h : (!o.passed && halts s) = true
    · simp only [h, if_true, Routine.events_done]
    · simp only [h, Bool.false_eq_true, if_false, Routine.events_map]

/-! ## The whole evaluation -/

@[simp] theorem showReport_result (report : Report) : (showReport c report).result = .ok report := by
  unfold showReport
  split <;> rfl

/-- Showing a report emits nothing but a trace. -/
theorem showReport_events (report : Report) :
    ∀ e ∈ (showReport c report).events, ∃ text, e = .traced text := by
  unfold showReport
  split
  · intro e he
    simp only [Routine.events_emit, Routine.events_done, List.mem_singleton] at he
    exact ⟨_, he⟩
  · intro e he
    cases he

/-- A specification without rules asks for nothing. -/
theorem evaluateWith_of_nil (h : spec.rules = []) :
    evaluateWith halts r spec v c = .done (.ok {}) := by
  simp [evaluateWith, h]

/-- A setup that fails is all that there is. -/
theorem evaluateWith_of_error (h : spec.rules ≠ []) {fault : Fault}
    (hp : r.plan spec v = .error fault) :
    evaluateWith halts r spec v c = .done (.error fault) := by
  simp [evaluateWith, h, hp]

/-- Behind a setup that succeeds the steps are run. -/
theorem evaluateWith_result (h : spec.rules ≠ []) {steps : List Step}
    (hp : r.plan spec v = .ok steps) :
    (evaluateWith halts r spec v c).result =
      (runSteps halts v (c.about v) steps).result.map fun outcomes => { outcomes } := by
  simp only [evaluateWith, h, hp, List.isEmpty_iff, if_false, Routine.result_bind]
  cases (runSteps halts v (c.about v) steps).result with
  | error fault => rfl
  | ok outcomes => exact showReport_result _

/-- The events of an evaluation are those of its steps, and traces behind them. -/
theorem evaluateWith_events (halts : Step → Bool) (c : Context) (h : spec.rules ≠ [])
    {steps : List Step} (hp : r.plan spec v = .ok steps) :
    ∃ traces, (∀ e ∈ traces, ∃ text, e = Event.traced text) ∧
      (evaluateWith halts r spec v c).events =
        (runSteps halts v (c.about v) steps).events ++ traces := by
  simp only [evaluateWith, h, hp, List.isEmpty_iff, if_false, Routine.events_bind]
  cases (runSteps halts v (c.about v) steps).result with
  | error fault => exact ⟨[], fun e he => (by cases he), rfl⟩
  | ok outcomes => exact ⟨_, showReport_events _, rfl⟩

/-! ## The setup -/

/-- Resolving succeeds with the rules in order, each beside the entry that its name means. -/
theorem resolve_eq_ok_iff {rules : List (Rule Value)} {resolved : List (Rule Value × Entry)} :
    r.resolve rules = .ok resolved ↔
      resolved.map Prod.fst = rules ∧ ∀ p ∈ resolved, r.lookup p.1.name = some p.2 := by
  induction rules generalizing resolved with
  | nil =>
    simp only [Registry.resolve, Except.ok.injEq, List.map_eq_nil_iff]
    constructor
    · rintro rfl
      exact ⟨rfl, fun p hp => by cases hp⟩
    · exact fun h => h.1.symm
  | cons rule rest ih =>
    simp only [Registry.resolve]
    constructor
    · intro h
      split at h
      · cases h
      · rename_i e he
        split at h
        · cases h
        · rename_i more hmore
          cases h
          obtain ⟨hmap, hall⟩ := ih.mp hmore
          refine ⟨by simp [hmap], fun p hp => ?_⟩
          rcases List.mem_cons.mp hp with rfl | hp
          · exact he
          · exact hall p hp
    · rintro ⟨hmap, hall⟩
      obtain ⟨p, more, rfl, rfl, hmore⟩ := List.map_eq_cons_iff.mp hmap
      have he := hall p List.mem_cons_self
      have hrest := ih.mpr ⟨hmore, fun q hq => hall q (List.mem_cons_of_mem _ hq)⟩
      simp only [he, hrest]

/-- The steps of a specification whose names are known and whose policies agree. -/
theorem plan_of_resolve {resolved : List (Rule Value × Entry)}
    (hres : r.resolve spec.rules = .ok resolved)
    (hmix : (hasPolicy .bypass resolved && hasPolicy .run resolved) = false) :
    r.plan spec v =
      .ok (if v.isEmpty && !hasPolicy .run resolved then [] else markStops false resolved) := by
  simp only [Registry.plan, hres, hmix, Bool.false_eq_true, if_false]
  split <;> rfl

/-- A plan runs rules that have been looked up: all of them, or none. -/
theorem plan_eq_ok {steps : List Step} (h : r.plan spec v = .ok steps) :
    ∃ ps, steps = markStops false ps ∧ ps.map Prod.fst <+: spec.rules ∧
      ∀ p ∈ ps, r.lookup p.1.name = some p.2 := by
  unfold Registry.plan at h
  split at h
  · cases h
  · rename_i ps hps
    obtain ⟨hrules, hmeant⟩ := resolve_eq_ok_iff.mp hps
    split at h
    · cases h
    · split at h
      · cases h
        exact ⟨[], rfl, List.nil_prefix, nofun⟩
      · cases h
        exact ⟨ps, rfl, hrules ▸ List.prefix_rfl, hmeant⟩

end FieldCheck
