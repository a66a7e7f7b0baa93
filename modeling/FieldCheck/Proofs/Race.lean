import FieldCheck.Proofs.Rounds
import FieldCheck.Proofs.Tasks
import Mathlib.Data.List.Forall2

/-!
# Racing rounds

Rounds that are run in turn are rounds side by side: whatever the group does with its tasks, there
are moves that do the same with the rounds.

* `run_resume` — a round goes on to its next pause, or to its end, by moves.
* `Follows` — how a group, what is known of its rounds, and rounds side by side belong together.
* `Follows.started`, `Follows.restage`, `Follows.finished` — what happens to one task and its round.
* `advance_follows`, `turn_follows`, `turns_follow` — what a group does is followed by moves.
* `race_follows` — a race as a whole.
-/

set_option autoImplicit false

namespace FieldCheck

/-! ## Moves to the next pause -/

namespace Rounds

variable {form : Form} {s : Rounds} {k : Nat} {l : Live} {values : Values}

theorem run_append (s : Rounds) (ms ms' : List Move) :
    s.run form (ms ++ ms') = (s.run form ms).run form ms' := List.foldl_append

/-- A round that has gone on until its evaluation stopped. -/
def stopped (s : Rounds) (k : Nat) (l : Live) (values : Values) :
    Stop (Except FormFault Result) → Rounds
  | .paused next => s.setStage k l (.running values next)
  | .ended r => s.finish k l values r

theorem getElem?_setStage (hl : s.live[k]? = some l) (stage : Stage) :
    (s.setStage k l stage).live[k]? = some { l with stage } := by
  obtain ⟨hk, -⟩ := List.getElem?_eq_some_iff.mp hl
  simp [setStage, hk]

/-- Stages that are passed through leave no trace. -/
theorem stopped_setStage (stage : Stage) (stop : Stop (Except FormFault Result)) :
    (s.setStage k l stage).stopped k { l with stage } values stop = s.stopped k l values stop := by
  cases stop with
  | paused next => simp [stopped, setStage]
  | ended r => simp [stopped, finish, setStage]

/-- A round goes on to its next pause, or to its end, one event after the other. -/
theorem run_resume (form : Form) {work : Routine (Except FormFault Result)}
    (hl : s.live[k]? = some l) (hstage : l.stage = .running values work) :
    ∃ moves, s.run form moves = s.stopped k l values work.resume.1 := by
  induction work generalizing s l with
  | done r =>
    refine ⟨[.advance k], ?_⟩
    simp [run, step, advance, hl, hstage, Routine.resume, stopped]
  | pause next _ =>
    refine ⟨[.advance k], ?_⟩
    simp [run, step, advance, hl, hstage, Routine.resume, stopped]
  | emit e next ih =>
    obtain ⟨moves, hmoves⟩ := ih (getElem?_setStage hl (.running values next)) rfl
    refine ⟨.advance k :: moves, ?_⟩
    have hfirst : s.step form (.advance k) = s.setStage k l (.running values next) := by
      simp [step, advance, hl, hstage]
    rw [stopped_setStage] at hmoves
    rw [run, List.foldl_cons, hfirst]
    exact hmoves

end Rounds

/-! ## Tasks and rounds -/

/-- The outcomes that were handed over, with the numbers of their rounds. -/
def handedOver (log : List Deed) : List (Nat × Option Result) :=
  log.filterMap fun
    | .ended k _ _ _ (.ok outcome) => some (k, outcome)
    | _ => none

/-- **Rounds side by side do what the tasks of a group do.**  The rounds have begun in the order in
which `ids` names their tasks. -/
structure Follows (form : Form) (rounds : List Round) (phases : List (Phase FormFault Result))
    (t : Tally) (s : Rounds) (ids : List Nat) : Prop where
  tokens : t.tokens = s.tokens
  length : ids.length = s.live.length
  /-- A task that has started has the token of its round, and the field. -/
  known {k i : Nat} {l : Live} : ids[k]? = some i → s.live[k]? = some l →
    t.begun.lookup i = some l.token ∧ ∃ values, rounds[i]? = some ⟨l.field, values⟩
  unknown {i : Nat} : i ∉ ids → t.begun.lookup i = none
  /-- Results are handed over in the same order. -/
  results : List.Forall₂ (fun p q => ids[q.1]? = some p.1 ∧ p.2 = q.2) t.results
    (handedOver s.log)
  fresh {i : Nat} {work : Routine (Except FormFault Result)} : phases[i]? = some (.fresh work) →
    i ∉ ids ∧ ∃ r, rounds[i]? = some r ∧ work = form.evaluation r.field r.values
  active {i : Nat} {work : Routine (Except FormFault Result)} {settled : Bool} :
    phases[i]? = some (.active work settled) →
      ∃ (k : Nat) (l : Live) (values : Values), ids[k]? = some i ∧ s.live[k]? = some l ∧
        l.stage = .running values work ∧ rounds[i]? = some ⟨l.field, values⟩

/-- Cancelling starts no task. -/
theorem cancel_eq_fresh {phase : Phase FormFault Result} {work : Routine (Except FormFault Result)}
    (h : Group.Phase.cancel phase = .fresh work) : phase = .fresh work := by
  unfold Group.Phase.cancel at h
  split at h
  · cases h
  · cases h
  · exact h

theorem cancel_eq_active {phase : Phase FormFault Result} {settled : Bool}
    {work : Routine (Except FormFault Result)} (h : Group.Phase.cancel phase = .active work settled) :
    phase = .active work settled := by
  unfold Group.Phase.cancel at h
  split at h
  · cases h
  · cases h
  · exact h

namespace Follows

variable {form : Form} {rounds : List Round} {phases : List (Phase FormFault Result)} {t : Tally}
  {s : Rounds} {ids : List Nat} {k i : Nat} {l : Live} {values : Values}

/-- A task and its round may change together. -/
theorem restage (h : Follows form rounds phases t s ids) (hk : ids[k]? = some i)
    (hl : s.live[k]? = some l) {phase : Phase FormFault Result} {stage : Stage}
    (hfresh : ∀ work, phase ≠ .fresh work)
    (hactive : ∀ work settled, phase = .active work settled →
      ∃ values, stage = .running values work ∧ rounds[i]? = some ⟨l.field, values⟩) :
    Follows form rounds (phases.set i phase) t (s.setStage k l stage) ids where
  tokens := h.tokens
  length := by rw [Rounds.setStage, List.length_set]; exact h.length
  known {k' i' l'} hk' hl' := by
    rcases getElem?_set_cases hl' with ⟨rfl, rfl⟩ | ⟨-, hl'⟩
    · exact (h.known hk' hl :)
    · exact h.known hk' hl'
  unknown := h.unknown
  results := h.results
  fresh {i' work} hp := by
    rcases getElem?_set_cases hp with ⟨-, hphase⟩ | ⟨-, hp⟩
    · exact absurd hphase.symm (hfresh work)
    · exact h.fresh hp
  active {i' work settled} hp := by
    rcases getElem?_set_cases hp with ⟨rfl, hphase⟩ | ⟨hne, hp⟩
    · obtain ⟨values, hstage, hround⟩ := hactive work settled hphase.symm
      exact ⟨k, _, values, hk, Rounds.getElem?_setStage hl _, hstage, hround⟩
    · obtain ⟨k', l', values', hk', hl', hstage, hround'⟩ := h.active hp
      refine ⟨k', l', values', hk', ?_, hstage, hround'⟩
      have hkk : k ≠ k' := by
        rintro rfl
        rw [hk] at hk'
        exact hne (Option.some.inj hk').symm
      rw [Rounds.setStage, List.getElem?_set_ne hkk]
      exact hl'

/-- A task may come to its end without a round. -/
theorem close (h : Follows form rounds phases t s ids) (i : Nat) {phase : Phase FormFault Result}
    (hfresh : ∀ work, phase ≠ .fresh work) (hactive : ∀ work settled, phase ≠ .active work settled) :
    Follows form rounds (phases.set i phase) t s ids where
  tokens := h.tokens
  length := h.length
  known := h.known
  unknown := h.unknown
  results := h.results
  fresh {i' work} hp := by
    rcases getElem?_set_cases hp with ⟨-, hphase⟩ | ⟨-, hp⟩
    · exact absurd hphase.symm (hfresh work)
    · exact h.fresh hp
  active {i' work settled} hp := by
    rcases getElem?_set_cases hp with ⟨-, hphase⟩ | ⟨-, hp⟩
    · exact absurd hphase.symm (hactive work settled)
    · exact h.active hp

/-- The round of a task that has finished hands over what is noted of the task. -/
theorem finished (h : Follows form rounds phases t s ids) (hk : ids[k]? = some i)
    (hl : s.live[k]? = some l) (values : Values) (r : Except FormFault Result) :
    Follows form rounds (phases.set i (.finished r)) (t.take form rounds (.finished i r))
      (s.finish k l values r) ids := by
  have hset : Follows form rounds (phases.set i (.finished r)) t (s.setStage k l .ended) ids :=
    h.restage hk hl nofun nofun
  obtain ⟨hlookup, values', hround⟩ := h.known hk hl
  cases r with
  | error fault =>
    refine { hset with results := ?_ }
    have hlog : handedOver (s.finish k l values (.error fault)).log = handedOver s.log := by
      simp [handedOver, Rounds.finish, settle, Except.map]
    rw [hlog]
    exact h.results
  | ok result =>
    have htake : t.take form rounds (.finished i (.ok result)) =
        { t with
          results := t.results ++ [(i, t.tokens.deliver l.field (some (l.token : Int)) result)] } := by
      simp [Tally.take, hround, hlookup]
    have hlog : handedOver (s.finish k l values (.ok result)).log =
        handedOver s.log ++ [(k, s.tokens.deliver l.field (some (l.token : Int)) result)] := by
      simp [handedOver, Rounds.finish, settle, Except.map]
    rw [htake]
    refine { hset with results := ?_ }
    rw [hlog, h.tokens]
    exact List.rel_append h.results (.cons ⟨hk, rfl⟩ .nil)

/-- The round of a task that starts begins and is called. -/
theorem started (h : Follows form rounds phases t s ids) {r : Round} {token : Nat}
    {tokens : Tokens} (hi : i ∉ ids) (hround : rounds[i]? = some r)
    (hbegin : form.begin t.tokens r.field = .ok (token, tokens)) :
    Follows form rounds (phases.set i (.active (form.evaluation r.field r.values) true))
      (t.take form rounds (.started i))
      ((s.begin form r.field).call form s.live.length r.values) (ids ++ [i]) := by
  have htake : t.take form rounds (.started i) =
      { t with tokens, begun := t.begun ++ [(i, token)] } := by
    simp [Tally.take, hround, hbegin]
  have hmoves : (s.begin form r.field).call form s.live.length r.values =
      { tokens
        live := s.live ++
          [{ field := r.field, token, stage := .running r.values (form.evaluation r.field r.values) }]
        log := s.log ++ [.began s.live.length r.field token] } := by
    rw [h.tokens] at hbegin
    simp [Rounds.begin, hbegin, Rounds.call, Rounds.setStage]
  have hlast : (ids ++ [i])[s.live.length]? = some i := by
    rw [← h.length]
    simp
  rw [htake, hmoves]
  constructor
  case tokens => rfl
  case length => simp [h.length]
  case known =>
    intro k' i' l' hk' hl'
    dsimp only at hl' ⊢
    rw [List.lookup_append]
    rcases getElem?_snoc hl' with hl' | ⟨rfl, rfl⟩
    · obtain ⟨hlt, -⟩ := List.getElem?_eq_some_iff.mp hl'
      rw [List.getElem?_append_left (by rw [h.length]; exact hlt)] at hk'
      obtain ⟨hlookup, hround'⟩ := h.known hk' hl'
      exact ⟨by rw [hlookup]; rfl, hround'⟩
    · rw [hlast] at hk'
      cases hk'
      exact ⟨by rw [h.unknown hi]; simp, r.values, hround⟩
  case unknown =>
    intro j hj
    simp only [List.mem_append, List.mem_singleton, not_or] at hj
    have hji : (j == i) = false := by simpa using hj.2
    rw [List.lookup_append, h.unknown hj.1]
    simp [List.lookup_cons, hji]
  case results =>
    have hlog : handedOver (s.log ++ [.began s.live.length r.field token]) = handedOver s.log := by
      simp [handedOver]
    rw [hlog]
    refine h.results.imp fun p q hpq => ⟨?_, hpq.2⟩
    obtain ⟨hlt, -⟩ := List.getElem?_eq_some_iff.mp hpq.1
    rw [List.getElem?_append_left hlt]
    exact hpq.1
  case fresh =>
    intro j work hp
    rcases getElem?_set_cases hp with ⟨-, hphase⟩ | ⟨hne, hp⟩
    · cases hphase
    · obtain ⟨hj, hwork⟩ := h.fresh hp
      exact ⟨by simp [hj, hne], hwork⟩
  case active =>
    intro j work settled hp
    rcases getElem?_set_cases hp with ⟨rfl, hphase⟩ | ⟨hne, hp⟩
    · cases hphase
      exact ⟨s.live.length, _, r.values, hlast, List.getElem?_concat_length, rfl, hround⟩
    · obtain ⟨k', l', values', hk', hl', hstage, hround'⟩ := h.active hp
      obtain ⟨hlt, -⟩ := List.getElem?_eq_some_iff.mp hl'
      refine ⟨k', l', values', ?_, ?_, hstage, hround'⟩
      · rw [List.getElem?_append_left (by rw [h.length]; exact hlt)]
        exact hk'
      · rw [List.getElem?_append_left hlt]
        exact hl'

/-- A group that cancels leaves its rounds where they are. -/
theorem cancel (h : Follows form rounds phases t s ids) :
    Follows form rounds (phases.map Group.Phase.cancel) t s ids where
  tokens := h.tokens
  length := h.length
  known := h.known
  unknown := h.unknown
  results := h.results
  fresh {i work} hp := by
    rw [List.getElem?_map, Option.map_eq_some_iff] at hp
    obtain ⟨phase, hphase, hcancel⟩ := hp
    rw [cancel_eq_fresh hcancel] at hphase
    exact h.fresh hphase
  active {i work settled} hp := by
    rw [List.getElem?_map, Option.map_eq_some_iff] at hp
    obtain ⟨phase, hphase, hcancel⟩ := hp
    rw [cancel_eq_active hcancel] at hphase
    exact h.active hphase

end Follows

/-! ## Turns -/

section Turns

variable {form : Form} {rounds : List Round} {g : Group FormFault Result} {t : Tally} {s : Rounds}
  {ids : List Nat} {i : Nat}

theorem release_of_free (hfree : g.free = none) : g.release = (g, []) := by
  rw [Group.release, hfree]

theorem begin_of_free (hfree : g.free = none) (work : Routine (Except FormFault Result)) :
    g.begin i work = g.runTask i work := by
  rw [Group.begin, hfree]

theorem evaluation_of_begin_error {tokens : Tokens} {name : String} {fault : FormFault}
    (h : form.begin tokens name = .error fault) (values : Values) :
    form.evaluation name values = .done (.error fault) := by
  unfold Form.begin at h
  split at h
  · rename_i hfield
    cases h
    rw [Form.evaluation, hfield]
  · cases h

theorem takeAll_shown (events : List Event) (t : Tally) :
    t.takeAll form rounds (events.map Note.shown) = t := by
  induction events with
  | nil => rfl
  | cons e events ih => exact ih

theorem takeAll_append (t : Tally) (ns ns' : List (Note FormFault Result)) :
    t.takeAll form rounds (ns ++ ns') = (t.takeAll form rounds ns).takeAll form rounds ns' :=
  List.foldl_append

/-- A task that runs to its next pause, or to its end, is followed by its round. -/
theorem runTask_follows (work : Routine (Except FormFault Result)) {settled : Bool}
    (h : Follows form rounds (g.phases.set i (.active work settled)) t s ids)
    (hi : i < g.phases.length) (hfree : g.free = none) :
    ∃ moves, Follows form rounds (g.runTask i work).group.phases
        (t.takeAll form rounds (g.runTask i work).notes) (s.run form moves) ids ∧
      (g.runTask i work).group.free = none := by
  have hactive : (g.phases.set i (.active work settled))[i]? = some (.active work settled) := by
    simp [hi]
  obtain ⟨k, l, values, hk, hl, hstage, hround⟩ := h.active hactive
  obtain ⟨moves, hmoves⟩ := Rounds.run_resume form hl hstage
  refine ⟨moves, ?_⟩
  rw [hmoves]
  unfold Group.runTask
  split
  · rename_i next events hresume
    have hnext : Follows form rounds ((g.phases.set i (.active work settled)).set i
        (.active next true)) t (s.setStage k l (.running values next)) ids :=
      h.restage hk hl nofun fun _ _ heq => ⟨values, by cases heq; rfl, hround⟩
    rw [List.set_set] at hnext
    rw [hresume, takeAll_shown]
    exact ⟨hnext, hfree⟩
  · rename_i r events hresume
    have hend := h.finished hk hl values r
    rw [List.set_set] at hend
    rw [release_of_free (show (g.put i (.finished r)).free = none from hfree), hresume,
      takeAll_append, takeAll_shown]
    exact ⟨hend, hfree⟩

/-- What a group does with a task is followed by moves. -/
theorem advance_follows (h : Follows form rounds g.phases t s ids) (hfree : g.free = none)
    (i : Nat) :
    ∃ moves ids', Follows form rounds (g.advance i).group.phases
        (t.takeAll form rounds (g.advance i).notes) (s.run form moves) ids' ∧
      (g.advance i).group.free = none := by
  unfold Group.advance
  split
  · rename_i work hp
    obtain ⟨hi, -⟩ := List.getElem?_eq_some_iff.mp hp
    obtain ⟨hids, r, hround, rfl⟩ := h.fresh hp
    rw [begin_of_free hfree]
    cases hbegin : form.begin t.tokens r.field with
    | error fault =>
      -- a round of an unknown field fails when it starts
      have hclosed : Follows form rounds (g.put i (.finished (.error fault))).phases t s ids :=
        h.close i nofun nofun
      have htake : t.takeAll form rounds [.started i, .finished i (.error fault)] = t := by
        simp [Tally.takeAll, Tally.take, hround, hbegin]
      rw [evaluation_of_begin_error hbegin r.values, Group.runTask]
      simp only [Routine.resume,
        release_of_free (show (g.put i (.finished (.error fault))).free = none from hfree),
        List.map_nil, List.nil_append, htake]
      exact ⟨[], ids, hclosed, hfree⟩
    | ok p =>
      obtain ⟨token, tokens⟩ := p
      obtain ⟨moves, hmoves⟩ := runTask_follows _ (h.started hids hround hbegin) hi hfree
      exact ⟨.begin r.field :: .call s.live.length r.values :: moves, ids ++ [i], hmoves⟩
  · rename_i work settled hp
    obtain ⟨hi, hget⟩ := List.getElem?_eq_some_iff.mp hp
    have hsame : g.phases.set i (.active work settled) = g.phases := by
      rw [← hget, List.set_getElem_self]
    rw [← hsame] at h
    obtain ⟨moves, hmoves⟩ := runTask_follows work h hi hfree
    exact ⟨moves, ids, hmoves⟩
  · rename_i placed hp
    have hclosed : Follows form rounds (g.put i .cancelled).phases t s ids := h.close i nofun nofun
    refine ⟨[], ids, ?_⟩
    cases placed with
    | false => exact ⟨hclosed, hfree⟩
    | true =>
      simp only [if_true, release_of_free (show (g.put i .cancelled).free = none from hfree)]
      exact ⟨hclosed, hfree⟩
  · exact ⟨[], ids, h, hfree⟩

/-- Each turn is followed by moves. -/
theorem turn_follows {r : Group.Run FormFault Result}
    (h : Follows form rounds r.group.phases (t.takeAll form rounds r.notes) s ids)
    (hfree : r.group.free = none) :
    ∃ moves ids', Follows form rounds r.step.group.phases (t.takeAll form rounds r.step.notes)
        (s.run form moves) ids' ∧ r.step.group.free = none := by
  have hcancel (turns : List Group.Turn) :
      Follows form rounds (r.cancel turns).group.phases
        (t.takeAll form rounds (r.cancel turns).notes) s ids := h.cancel
  unfold Group.Run.step
  split
  · exact ⟨[], ids, h, hfree⟩
  · rename_i i turns hturns
    obtain ⟨moves, ids', hmoves, hfree'⟩ := advance_follows h hfree i
    rw [← takeAll_append] at hmoves
    exact ⟨moves, ids', hmoves, hfree'⟩
  · rename_i i turns hturns
    refine ⟨[], ids, ?_⟩
    split
    · exact ⟨h, hfree⟩
    · dsimp only
      split
      · exact ⟨h, hfree⟩
      · exact ⟨h.cancel, hfree⟩
  · rename_i turns hturns
    exact ⟨[], ids, hcancel turns, hfree⟩

theorem turns_follow (n : Nat) {r : Group.Run FormFault Result}
    (h : Follows form rounds r.group.phases (t.takeAll form rounds r.notes) s ids)
    (hfree : r.group.free = none) :
    ∃ moves ids', Follows form rounds (Group.Run.steps n r).group.phases
      (t.takeAll form rounds (Group.Run.steps n r).notes) (s.run form moves) ids' := by
  induction n generalizing r s ids with
  | zero => exact ⟨[], ids, h⟩
  | succ n ih =>
    rw [Group.Run.steps]
    split
    · exact ⟨[], ids, h⟩
    · obtain ⟨moves, ids', hstep, hfree'⟩ := turn_follows h hfree
      obtain ⟨more, ids'', hsteps⟩ := ih hstep hfree'
      exact ⟨moves ++ more, ids'', by rw [Rounds.run_append]; exact hsteps⟩

end Turns

/-- Before any task has started, no round has begun. -/
theorem follows_initial (form : Form) (start : Tokens) (rounds : List Round) :
    Follows form rounds ((form.roundTasks rounds).map Phase.fresh) { tokens := start }
      { tokens := start } [] where
  tokens := rfl
  length := rfl
  known hk := by simp at hk
  unknown _ := rfl
  results := .nil
  fresh {i work} hp := by
    rw [List.getElem?_map, Option.map_eq_some_iff] at hp
    obtain ⟨task, htask, hfresh⟩ := hp
    cases hfresh
    rw [Form.roundTasks, List.getElem?_map, Option.map_eq_some_iff] at htask
    obtain ⟨r, hr, rfl⟩ := htask
    exact ⟨List.not_mem_nil, r, hr, rfl⟩
  active {i work settled} hp := by
    rw [List.getElem?_map, Option.map_eq_some_iff] at hp
    obtain ⟨task, -, hactive⟩ := hp
    cases hactive

/-- **Rounds that are run in turn are rounds side by side.**  There are moves that leave the same
tokens, and the same results in the same order, each under the number of its round. -/
theorem race_follows (form : Form) (start : Tokens) (rounds : List Round) :
    ∃ moves ids phases t,
      Follows form rounds phases t (Rounds.run form { tokens := start } moves) ids ∧
      (form.race start rounds).1 = t.tokens ∧
      ∀ results, (form.race start rounds).2.result = .ok results →
        results = (List.range rounds.length).map fun i => (t.results.lookup i).getD none := by
  let g : Group FormFault Result := Group.ofRoutines none (form.roundTasks rounds)
  have hrun : ∃ moves ids, Follows form rounds g.run.group.phases
      (Tally.takeAll form rounds { tokens := start } g.run.notes)
      (Rounds.run form { tokens := start } moves) ids :=
    turns_follow (r := { group := g, turns := (List.range g.phases.length).map Group.Turn.advance }) _
      (follows_initial form start rounds) rfl
  obtain ⟨moves, ids, h⟩ := hrun
  refine ⟨moves, ids, _, _, h, rfl, ?_⟩
  intro results hresults
  simp only [Form.race] at hresults
  split at hresults
  · cases hresults
    rfl
  · cases hresults

end FieldCheck
