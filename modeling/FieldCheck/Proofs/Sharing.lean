import FieldCheck.Proofs.Registries
import FieldCheck.Proofs.Setup
import Mathlib.Logic.Function.Iterate

/-!
# A registry that changes while it is in use

A registry is shared: rules may be registered, overridden and removed while evaluations are under way,
by others while a rule pauses, or by the rule itself.

* `Shared` — a computation that sees the shared registry as it is at the time of each look.
* `evaluateShared` — evaluating a specification, with every lookup as such a look;
  `on_evaluateShared` — on a registry that nobody changes it is `evaluateWith`.
* `settle`, `Deaf` — going on to where others may come in between; nothing is left to look at.
* `settle_resolveShared`, `deaf_runPlanned` — all names are looked up before others may come in between,
  and nothing is looked up after that.
* `World`, `Move` — a registry that is shared by evaluations: it is operated on, evaluations are started,
  and they go on one by one.
* `running_run` — an evaluation that is deaf goes on in the same way whatever else happens.
* `Request.alone`, `Concludes` — an evaluation on a registry that nobody changes, and how it ends.

Principal result: `evaluation_keeps_registry`.
-/

set_option autoImplicit false

namespace FieldCheck

/-! ## Computations that look at a shared registry -/

/-- What happens in an evaluation. -/
inductive Happening where
  | called (call : Call)
  | shown (event : Event)
  /-- A call is over; `stops` holds if the evaluation ends with it, whatever rules are left. -/
  | judged (call : Call) (verdict : Except Fault Outcome) (stops : Bool)

/-- A computation that looks at a registry which others may change. -/
inductive Shared (α : Type) where
  | done (result : α)
  | look (next : Registry → Shared α)
  | pause (next : Shared α)
  | note (happening : Happening) (next : Shared α)

namespace Shared

variable {α β : Type}

/-- Goes on with a computation that the result selects. -/
def bind : Shared α → (α → Shared β) → Shared β
  | .done a, f => f a
  | .look next, f => .look fun r => (next r).bind f
  | .pause next, f => .pause (next.bind f)
  | .note h next, f => .note h (next.bind f)

/-- A routine, which looks at nothing. -/
def ofRoutine : Routine α → Shared α
  | .done a => .done a
  | .pause next => .pause (ofRoutine next)
  | .emit e next => .note (.shown e) (ofRoutine next)

/-- The routine that it is on a registry that nobody changes; `tell` says what is shown of each
happening. -/
def on (r : Registry) (tell : Happening → List Event) : Shared α → Routine α
  | .done a => .done a
  | .look next => (next r).on r tell
  | .pause next => .pause (next.on r tell)
  | .note h next => (next.on r tell).behind (tell h)

/-- Looks at the registry as long as there is something to look at. -/
def settle (r : Registry) : Shared α → Shared α
  | .look next => (next r).settle r
  | p => p

/-- Nothing is left to look at. -/
inductive Deaf : Shared α → Prop where
  | done (a : α) : Deaf (.done a)
  | pause {next : Shared α} : next.Deaf → Deaf (.pause next)
  | note (h : Happening) {next : Shared α} : next.Deaf → Deaf (.note h next)

end Shared

/-! ## Evaluating on a shared registry -/

/-- The two ways of evaluating. -/
inductive Mode where
  /-- Up to the first failure. -/
  | first
  /-- Every outcome, up to a failure that stops. -/
  | every

/-- The failures at which an evaluation ends. -/
def Mode.halts : Mode → Step → Bool
  | .first => fun _ => true
  | .every => Step.stops

/-- What is to be evaluated. -/
structure Request where
  mode : Mode
  spec : Spec
  value : Value
  context : Context

/-- The call that a step makes, as an observer sees it. -/
def Step.asCall (s : Step) (v : Value) (c : Context) : Call :=
  { rule := s.entry.name, value := v, args := s.entry.fillArgs s.args, context := c }

/-- Whether an evaluation ends with what came of a step. -/
def Step.ends (s : Step) (mode : Mode) : Except Fault Outcome → Bool
  | .error _ => true
  | .ok o => !o.passed && mode.halts s

/-- Looks up the rules of a specification from left to right. -/
def resolveShared : List (Rule Value) → Shared (Except Fault (List (Rule Value × Entry)))
  | [] => .done (.ok [])
  | rule :: rest => .look fun r =>
    match r.lookup rule.name with
    | none => .done (.error (.unknownRule rule.name r.names))
    | some e => (resolveShared rest).bind fun more => .done (more.map ((rule, e) :: ·))

/-- The steps for a value, of rules that have been looked up. -/
def planResolved (spec : Spec) (v : Value) (resolved : List (Rule Value × Entry)) :
    Except Fault (List Step) :=
  if hasPolicy .bypass resolved && hasPolicy .run resolved then
    .error (.optionalRequired spec.names)
  else if v.isEmpty && !hasPolicy .run resolved then .ok []
  else .ok (markStops false resolved)

/-- Runs steps in order. -/
def callSteps (mode : Mode) (v : Value) (c : Context) :
    List Step → Shared (Except Fault (List Outcome))
  | [] => .done (.ok [])
  | s :: rest =>
    .note (.called (s.asCall v c)) <| (Shared.ofRoutine (s.call v c)).bind fun answer =>
      let verdict := s.judge c answer
      .note (.judged (s.asCall v c) verdict (s.ends mode verdict)) <|
        match verdict with
        | .error fault => .done (.error fault)
        | .ok o =>
          if s.ends mode verdict then .done (.ok [o])
          else (callSteps mode v c rest).bind fun more => .done (more.map (o :: ·))

/-- What follows on the plan. -/
def Request.runPlanned (q : Request) : Except Fault (List Step) → Shared (Except Fault Report)
  | .error fault => .done (.error fault)
  | .ok steps =>
    let c := q.context.about q.value
    (callSteps q.mode q.value c steps).bind fun outcomes =>
      match outcomes with
      | .error fault => .done (.error fault)
      | .ok outcomes => Shared.ofRoutine (showReport c { outcomes })

/-- Evaluates on a shared registry. -/
def evaluateShared (q : Request) : Shared (Except Fault Report) :=
  if q.spec.rules.isEmpty then .done (.ok {})
  else (resolveShared q.spec.rules).bind fun resolved =>
    q.runPlanned (resolved.bind (planResolved q.spec q.value))

/-- The evaluation of a request on a registry that nobody changes. -/
def Request.evaluation (q : Request) (r : Registry) : Routine (Except Fault Report) :=
  evaluateWith q.mode.halts r q.spec q.value q.context

/-! ## On a registry that nobody changes -/

namespace Shared

variable {α β : Type} {r : Registry} {tell : Happening → List Event} {p : Shared α}

theorem on_bind (p : Shared α) (f : α → Shared β) :
    (p.bind f).on r tell = (p.on r tell).bind fun a => (f a).on r tell := by
  induction p with
  | done a => rfl
  | look next ih => exact ih r
  | pause next ih => simp only [bind, on, Routine.bind, ih]
  | note h next ih => simp only [bind, on, ih, Routine.behind_bind]

theorem on_ofRoutine (hshown : ∀ e, tell (.shown e) = [e]) (p : Routine α) :
    (ofRoutine p).on r tell = p := by
  induction p with
  | done a => rfl
  | pause next ih => simp only [ofRoutine, on, ih]
  | emit e next ih => simp only [ofRoutine, on, ih, hshown, Routine.behind_cons, Routine.behind_nil]

end Shared

section On

variable {r r' : Registry} {mode : Mode} {v : Value} {c : Context} {tell : Happening → List Event}
  {spec : Spec} {change : Step → Step} {steps : List Step}

@[simp] theorem on_resolveShared (rules : List (Rule Value)) :
    (resolveShared rules).on r tell = .done (r.resolve rules) := by
  induction rules with
  | nil => rfl
  | cons rule rest ih =>
    simp only [resolveShared, Shared.on, Registry.resolve]
    cases r.lookup rule.name with
    | none => rfl
    | some e =>
      simp only [Shared.on_bind, ih, Routine.bind_done, Shared.on]
      cases r.resolve rest <;> rfl

theorem plan_eq_bind (r : Registry) (spec : Spec) (v : Value) :
    r.plan spec v = (r.resolve spec.rules).bind (planResolved spec v) := by
  unfold Registry.plan
  cases r.resolve spec.rules <;> rfl

/-- What is told of a call is what the changed step shows beside the events of the call. -/
structure Tells (mode : Mode) (v : Value) (c : Context) (tell : Happening → List Event)
    (change : Step → Step) : Prop where
  shown (e : Event) : tell (.shown e) = [e]
  call (s : Step) : (change s).call v c =
    ((s.call v c).bind fun answer => (Routine.done answer).behind
      (tell (.judged (s.asCall v c) (s.judge c answer) (s.ends mode (s.judge c answer))))).behind
        (tell (.called (s.asCall v c)))
  judge (s : Step) : (change s).judge c = s.judge c
  halts (s : Step) : mode.halts (change s) = mode.halts s

theorem on_callSteps (h : Tells mode v c tell change) (steps : List Step) :
    (callSteps mode v c steps).on r tell = runSteps mode.halts v c (steps.map change) := by
  induction steps with
  | nil => rfl
  | cons s rest ih =>
    rw [List.map_cons, runSteps_cons, h.call, Routine.behind_bind, Routine.bind_assoc]
    simp only [callSteps, Shared.on, Shared.on_bind, Shared.on_ofRoutine h.shown]
    congr 2
    funext answer
    rw [Routine.behind_bind, Routine.bind_done, h.judge, h.halts]
    cases s.judge c answer with
    | error fault => rfl
    | ok o =>
      by_cases hstop : (!o.passed && mode.halts s) = true
      · simp only [Step.ends, hstop, if_true, Shared.on]
      · simp only [Step.ends, hstop, Bool.false_eq_true, if_false, Shared.on_bind, ih]
        rfl

theorem on_evaluateShared_of_tells {q : Request} {change : Step → Step}
    (h : Tells q.mode q.value (q.context.about q.value) tell change)
    (hplan : r'.plan q.spec q.value = (r.plan q.spec q.value).map (List.map change)) :
    (evaluateShared q).on r tell = q.evaluation r' := by
  unfold evaluateShared Request.evaluation evaluateWith
  split
  · rfl
  · rw [Shared.on_bind, on_resolveShared, Routine.bind_done, ← plan_eq_bind, hplan]
    cases r.plan q.spec q.value with
    | error fault => rfl
    | ok steps =>
      simp only [Request.runPlanned, Shared.on_bind, on_callSteps h, Except.map]
      congr 1
      funext outcomes
      cases outcomes with
      | error fault => rfl
      | ok outcomes => exact Shared.on_ofRoutine h.shown _

/-- Only the events of the rules and of the report are shown. -/
def eventsOnly : Happening → List Event
  | .shown e => [e]
  | _ => []

/-- **On a registry that nobody changes, evaluating is what it is without others.** -/
theorem on_evaluateShared (r : Registry) (q : Request) :
    (evaluateShared q).on r eventsOnly = q.evaluation r := by
  have htells : Tells q.mode q.value (q.context.about q.value) eventsOnly id :=
    ⟨fun _ => rfl, fun _ => (Routine.bind_done_right _).symm, fun _ => rfl, fun _ => rfl⟩
  refine on_evaluateShared_of_tells htells ?_
  cases r.plan q.spec q.value <;> simp [Except.map]

section Announced

variable {begins ends : Call → Event}

/-- Calls are announced when they begin and when they are over. -/
def announce (begins ends : Call → Event) : Happening → List Event
  | .called call => [begins call]
  | .shown e => [e]
  | .judged call _ _ => [ends call]

/-- The step of a rule that announces its calls. -/
def Step.watched (begins ends : Call → Event) (s : Step) : Step :=
  { s with entry := s.entry.watched begins ends }

theorem tells_watched : Tells mode v c (announce begins ends) (Step.watched begins ends) where
  shown _ := rfl
  call _ := rfl
  judge _ := by
    funext answer
    cases answer <;> rfl
  halts _ := by cases mode <;> rfl

theorem names_watched : (r.watched begins ends).names = r.names := by
  simp only [Registry.names, Registry.watched, List.map_map]
  rfl

theorem resolve_watched_eq (rules : List (Rule Value)) : (r.watched begins ends).resolve rules =
    (r.resolve rules).map (List.map (watchedRule begins ends)) := by
  cases hresolved : r.resolve rules with
  | ok resolved => exact resolve_watched hresolved
  | error fault =>
    obtain ⟨name, hname, rfl⟩ := resolve_eq_error_iff.mp hresolved
    rw [resolve_of_unknown hname.watched, names_watched]
    rfl

theorem markStops_watched (bailing : Bool) (resolved : List (Rule Value × Entry)) :
    markStops bailing (resolved.map (watchedRule begins ends)) =
      (markStops bailing resolved).map (Step.watched begins ends) := by
  induction resolved generalizing bailing with
  | nil => rfl
  | cons p rest ih => exact congrArg _ (ih _)

/-- Watching changes no plan but that the rules announce their calls. -/
theorem plan_watched : (r.watched begins ends).plan spec v =
    (r.plan spec v).map (List.map (Step.watched begins ends)) := by
  rw [plan_eq_bind, plan_eq_bind, resolve_watched_eq]
  cases r.resolve spec.rules with
  | error fault => rfl
  | ok resolved =>
    show planResolved spec v _ = (planResolved spec v resolved).map _
    simp only [planResolved, hasPolicy_watchedRule, markStops_watched]
    split
    · rfl
    · split <;> rfl

theorem on_evaluateShared_announced (r : Registry) (q : Request) :
    (evaluateShared q).on r (announce begins ends) = q.evaluation (r.watched begins ends) :=
  on_evaluateShared_of_tells tells_watched plan_watched

end Announced

end On

/-! ## Deaf computations -/

namespace Shared

variable {α β : Type} {r : Registry} {p : Shared α}

theorem settle_bind (p : Shared α) (f : α → Shared β) :
    (p.bind f).settle r = ((p.settle r).bind f).settle r := by
  induction p with
  | done a => rfl
  | look next ih => exact ih r
  | pause next => rfl
  | note h next => rfl

theorem Deaf.settle (h : p.Deaf) : p.settle r = p := by
  cases h <;> rfl

theorem Deaf.bind {f : α → Shared β} (h : p.Deaf) (hf : ∀ a, (f a).Deaf) : (p.bind f).Deaf := by
  induction h with
  | done a => exact hf a
  | pause _ ih => exact .pause ih
  | note happening _ ih => exact .note happening ih

theorem deaf_ofRoutine (p : Routine α) : (ofRoutine p).Deaf := by
  induction p with
  | done a => exact .done a
  | pause next ih => exact .pause ih
  | emit e next ih => exact .note _ ih

end Shared

theorem settle_resolveShared {r : Registry} (rules : List (Rule Value)) :
    (resolveShared rules).settle r = .done (r.resolve rules) := by
  induction rules with
  | nil => rfl
  | cons rule rest ih =>
    simp only [resolveShared, Shared.settle, Registry.resolve]
    cases r.lookup rule.name with
    | none => rfl
    | some e =>
      rw [Shared.settle_bind, ih]
      cases r.resolve rest <;> rfl

theorem deaf_callSteps (mode : Mode) (v : Value) (c : Context) (steps : List Step) :
    (callSteps mode v c steps).Deaf := by
  induction steps with
  | nil => exact .done _
  | cons s rest ih =>
    refine .note _ ((Shared.deaf_ofRoutine _).bind fun answer => .note _ ?_)
    cases s.judge c answer with
    | error fault => exact .done _
    | ok o =>
      dsimp only
      split
      · exact .done _
      · exact ih.bind fun _ => .done _

/-- Behind the plan nothing is looked up. -/
theorem deaf_runPlanned (q : Request) (plan : Except Fault (List Step)) :
    (q.runPlanned plan).Deaf := by
  cases plan with
  | error fault => exact .done _
  | ok steps =>
    refine (deaf_callSteps _ _ _ _).bind fun outcomes => ?_
    cases outcomes with
    | error fault => exact .done _
    | ok outcomes => exact Shared.deaf_ofRoutine _

/-- All names are looked up before others may come in between. -/
theorem deaf_settle_evaluateShared (r : Registry) (q : Request) :
    ((evaluateShared q).settle r).Deaf := by
  unfold evaluateShared
  split
  · exact .done _
  · rw [Shared.settle_bind, settle_resolveShared]
    show Shared.Deaf (Shared.settle r (q.runPlanned _))
    rw [(deaf_runPlanned q _).settle]
    exact deaf_runPlanned q _

/-! ## Evaluations that share a registry -/

/-- An evaluation under way. -/
structure Running where
  log : List Happening := []
  rest : Shared (Except Fault Report)

namespace Running

/-- An evaluation that has begun. -/
def start (r : Registry) (q : Request) : Running := { rest := (evaluateShared q).settle r }

/-- Goes on past the next pause, or past the next thing that happens; whatever is looked at behind it
is looked at now. -/
def advance (r : Registry) (e : Running) : Running :=
  match e.rest with
  | .pause next => { e with rest := next.settle r }
  | .note h next => { log := e.log ++ [h], rest := next.settle r }
  | _ => e

end Running

/-- A registry, and the evaluations that were started on it. -/
structure World where
  registry : Registry := {}
  running : List Running := []

namespace World

/-- What may come next: an operation on the registry, whoever asks for it, a new evaluation, or an
evaluation going on. -/
inductive Move where
  | operate (o : Registry.Operation)
  | start (q : Request)
  | advance (i : Nat)

/-- Makes one move. -/
def take (w : World) : Move → World
  | .operate o => { w with registry := (w.registry.perform o).1 }
  | .start q => { w with running := w.running ++ [.start w.registry q] }
  | .advance i => { w with running := w.running.modify i (Running.advance w.registry) }

/-- Makes moves in order. -/
def run (w : World) (moves : List Move) : World := moves.foldl take w

/-- The operation of a move on the registry. -/
def Move.operation? : Move → Option Registry.Operation
  | .operate o => some o
  | _ => none

/-- Whether an evaluation goes on. -/
def Move.advances (i : Nat) : Move → Bool
  | .advance j => j == i
  | _ => false

theorem run_append (w : World) (a b : List Move) : w.run (a ++ b) = (w.run a).run b :=
  List.foldl_append

/-- The registry is what the operations make of it. -/
theorem registry_run (w : World) (moves : List Move) : (w.run moves).registry =
    (moves.filterMap Move.operation?).foldl (fun r o => (r.perform o).1) w.registry := by
  induction moves generalizing w with
  | nil => rfl
  | cons m rest ih => cases m <;> exact ih _

end World

namespace Running

variable {r : Registry} {log : List Happening} {next : Shared (Except Fault Report)}

theorem advance_pause (h : next.Deaf) :
    advance r { log, rest := .pause next } = { log, rest := next } := by
  simp only [advance, h.settle]

theorem advance_note (h : next.Deaf) (happening : Happening) :
    advance r { log, rest := .note happening next } =
      { log := log ++ [happening], rest := next } := by
  simp only [advance, h.settle]

/-- It makes no difference on which registry a deaf evaluation goes on. -/
theorem advance_of_deaf {e : Running} (h : e.rest.Deaf) (r r' : Registry) :
    e.advance r = e.advance r' ∧ (e.advance r).rest.Deaf := by
  obtain ⟨log, rest⟩ := e
  cases h with
  | done a => exact ⟨rfl, .done a⟩
  | pause hnext =>
    rw [advance_pause hnext, advance_pause hnext]
    exact ⟨rfl, hnext⟩
  | note happening hnext =>
    rw [advance_note hnext, advance_note hnext]
    exact ⟨rfl, hnext⟩

end Running

/-- An evaluation that is deaf goes on in the same way whatever else happens. -/
theorem World.running_run {w : World} {i : Nat} {e : Running} (h : w.running[i]? = some e)
    (hdeaf : e.rest.Deaf) (r : Registry) (moves : List World.Move) :
    (w.run moves).running[i]? =
      some ((Running.advance r)^[moves.countP (Move.advances i)] e) := by
  induction moves generalizing w e with
  | nil => exact h
  | cons m rest ih =>
    cases m with
    | operate o => exact ih h hdeaf
    | start q =>
      have hthere : (w.take (.start q)).running[i]? = some e := by
        rw [take, List.getElem?_append_left (List.getElem?_eq_some_iff.mp h).1, h]
      exact ih hthere hdeaf
    | advance j =>
      have hmodify : (w.take (.advance j)).running[i]? =
          some (if j = i then e.advance w.registry else e) := by
        simp [take, List.getElem?_modify, h]
      by_cases hj : j = i
      · obtain ⟨hsame, hstill⟩ := Running.advance_of_deaf hdeaf r w.registry
        rw [if_pos hj, ← hsame] at hmodify
        have hcount : (Move.advance j :: rest).countP (Move.advances i) =
            rest.countP (Move.advances i) + 1 := by
          simp [Move.advances, hj]
        rw [hcount, Function.iterate_succ_apply]
        exact ih hmodify hstill
      · rw [if_neg hj] at hmodify
        have hcount : (Move.advance j :: rest).countP (Move.advances i) =
            rest.countP (Move.advances i) := by
          simp [Move.advances, hj]
        rw [hcount]
        exact ih hmodify hdeaf

/-! ## Coming to the end -/

theorem Shared.on_settle {α : Type} {r : Registry} {tell : Happening → List Event} (p : Shared α) :
    (p.settle r).on r tell = p.on r tell := by
  induction p with
  | done a => rfl
  | look next ih => exact ih r
  | pause next => rfl
  | note h next => rfl

/-- A deaf evaluation comes to its end, with everything noted that it is going to show. -/
theorem Shared.Deaf.finishes {p : Shared (Except Fault Report)} (h : p.Deaf) (r : Registry)
    (log : List Happening) : ∃ enough happened report,
      (∀ n ≥ enough, (Running.advance r)^[n] { log, rest := p } =
        { log := log ++ happened, rest := .done report }) ∧
      ∀ tell, (p.on r tell).result = report ∧ (p.on r tell).events = happened.flatMap tell := by
  induction h generalizing log with
  | done report =>
    refine ⟨0, [], report, fun n _ => ?_, fun tell => ⟨rfl, rfl⟩⟩
    rw [List.append_nil]
    exact Function.iterate_fixed rfl n
  | pause hnext ih =>
    obtain ⟨enough, happened, report, hend, htold⟩ := ih log
    refine ⟨enough + 1, happened, report, fun n hn => ?_, htold⟩
    obtain ⟨m, rfl⟩ : ∃ m, n = m + 1 := ⟨n - 1, by omega⟩
    rw [Function.iterate_succ_apply, Running.advance_pause hnext]
    exact hend m (by omega)
  | note happening hnext ih =>
    obtain ⟨enough, happened, report, hend, htold⟩ := ih (log ++ [happening])
    refine ⟨enough + 1, happening :: happened, report, fun n hn => ?_, fun tell => ?_⟩
    · obtain ⟨m, rfl⟩ : ∃ m, n = m + 1 := ⟨n - 1, by omega⟩
      rw [Function.iterate_succ_apply, Running.advance_note hnext]
      simpa using hend m (by omega)
    · obtain ⟨hresult, hevents⟩ := htold tell
      simp [Shared.on, hresult, hevents]

/-- An evaluation that has gone on so often, on a registry that nobody changes. -/
def Request.alone (q : Request) (r : Registry) (n : Nat) : Running :=
  (Running.advance r)^[n] (.start r q)

/-- **How an evaluation ends**: as on a registry that nobody changes, with the same calls. -/
structure Concludes (registry : Registry) (q : Request) (e : Running) : Prop where
  collected : q.mode = .every →
    e.rest = .done (collect registry q.spec q.value q.context).result ∧
      ∀ begins ends, e.log.flatMap (announce begins ends) =
        (collect (registry.watched begins ends) q.spec q.value q.context).events
  evaluated : q.mode = .first → ∃ report, e.rest = .done report ∧
    report.map Report.firstFailure = (evaluate registry q.spec q.value q.context).result ∧
      ∀ begins ends, e.log.flatMap (announce begins ends) =
        (evaluate (registry.watched begins ends) q.spec q.value q.context).events

theorem Request.concludes (q : Request) (r : Registry) : ∃ enough e,
    (∀ n ≥ enough, q.alone r n = e) ∧ Concludes r q e := by
  obtain ⟨enough, happened, report, hend, htold⟩ :=
    (deaf_settle_evaluateShared r q).finishes r []
  simp only [Shared.on_settle] at htold
  have hresult : (q.evaluation r).result = report := by
    rw [← on_evaluateShared, (htold eventsOnly).1]
  have hevents : ∀ begins ends, happened.flatMap (announce begins ends) =
      (q.evaluation (r.watched begins ends)).events := fun begins ends => by
    rw [← on_evaluateShared_announced, (htold _).2]
  refine ⟨enough, _, hend, fun hmode => ?_, fun hmode => ?_⟩
  · rw [evaluation, hmode] at hresult
    simp only [evaluation, hmode] at hevents
    exact ⟨congrArg _ hresult.symm, hevents⟩
  · rw [evaluation, hmode] at hresult
    simp only [evaluation, hmode] at hevents
    refine ⟨report, rfl, ?_, fun begins ends => ?_⟩
    · rw [evaluate, Routine.result_map, ← hresult]
      rfl
    · rw [evaluate, Routine.events_map]
      exact hevents begins ends

/-- **An evaluation works on the registry as it was when it began.**  Operations that come in between,
other evaluations and those that were started before make no difference: after every number of turns
the evaluation stands where it would stand on its own, and it comes to the same end.  The registry on
which it begins is the one that all operations before have left. -/
theorem evaluation_keeps_registry (w : World) (before after : List World.Move) (q : Request) :
    let registry := (before.filterMap World.Move.operation?).foldl (fun r o => (r.perform o).1)
      w.registry
    let i := (w.run before).running.length
    (w.run before).registry = registry ∧
    (w.run (before ++ .start q :: after)).running[i]? =
      some (q.alone registry (after.countP (World.Move.advances i))) ∧
    ∃ enough e, (∀ n ≥ enough, q.alone registry n = e) ∧ Concludes registry q e := by
  intro registry i
  have hregistry : (w.run before).registry = registry := World.registry_run w before
  refine ⟨hregistry, ?_, q.concludes registry⟩
  have hstarted : ((w.run before).take (.start q)).running[i]? = some (.start registry q) := by
    simp [World.take, i, hregistry]
  rw [World.run_append]
  exact World.running_run hstarted (deaf_settle_evaluateShared registry q) registry after

/-- A rule that is removed during its call answers all the same; an evaluation that begins after that
does not find it. -/
example :
    let q : Request :=
      { mode := .every, spec := { rules := [{ name := "slow" }] }, value := .int 1, context := {} }
    let moves := [.start q, .advance 0, .operate (.unregister "slow"), .start q] ++
      List.replicate 3 (.advance 0)
    (({ registry := pausingRegistry } : World).run moves).running.map Running.rest =
      [.done (.ok { outcomes := [{ rule := "slow", args := [.int 1, .int 2], passed := true }] }),
        .done (.error (.unknownRule "slow" ["needed"]))] := rfl

end FieldCheck
