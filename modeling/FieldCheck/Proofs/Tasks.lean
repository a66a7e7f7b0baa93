import FieldCheck.Form.Group
import FieldCheck.Proofs.Routine
import Mathlib.Data.List.Nodup

/-!
# Tasks side by side

The tasks of a group go on in any order, one of them at a time.

* `Phase.mayGo`, `Course` — a task that may go on; the tasks of an order have gone on one by one.
* `Phase.left`, `Course.length_add_left_le` — the turns that a task still needs at most, and how many
  turns a course has.
* `completions` — the tasks that have come to their end, with their results, in that order.
* `Tended`, `Course.tended` — the invariant that links the phases, the places, the queue and what was
  noted: whatever goes on, no place is lost and every task ends with its own result.
* `Tended.all_finished` — as long as there is a place for one task, tasks do not wait for ever.
* `run_course`, `run_course_of_errors` — tasks that go on in turn are one such order, and it goes to the
  end, unless there is an error.
-/

set_option autoImplicit false

-- a sum starts at the numeral zero, not at that of a semiring
attribute [local instance (1100)] Zero.ofOfNat0

namespace FieldCheck

/-! ## Going on to the next pause -/

namespace Routine

variable {α : Type}

theorem resume_paused {p next : Routine α} (h : p.resume.1 = .paused next) :
    next.result = p.result ∧ next.pauses + 1 = p.pauses := by
  induction p with
  | done a => cases h
  | pause rest _ =>
    cases h
    exact ⟨rfl, rfl⟩
  | emit e rest ih => exact ih h

theorem resume_ended {p : Routine α} {a : α} (h : p.resume.1 = .ended a) : a = p.result := by
  induction p with
  | done b =>
    cases h
    rfl
  | pause rest _ => cases h
  | emit e rest ih => exact ih h

end Routine

/-! ## Lists that change in one place -/

section Lists

variable {α : Type} {xs : List α} {i j : Nat} {x y : α}

theorem getElem?_set_cases (h : (xs.set i x)[j]? = some y) :
    (j = i ∧ y = x) ∨ (j ≠ i ∧ xs[j]? = some y) := by
  rw [List.getElem?_set] at h
  split at h
  · rename_i hij
    split at h
    · exact Or.inl ⟨hij.symm, (Option.some.inj h).symm⟩
    · cases h
  · rename_i hij
    exact Or.inr ⟨Ne.symm hij, h⟩

/-- A value that is neither put in nor taken out stays where it is. -/
theorem getElem?_set_iff_of_ne {z : α} (h : xs[i]? = some x) (hx : x ≠ z) (hy : y ≠ z) :
    (xs.set i y)[j]? = some z ↔ xs[j]? = some z := by
  constructor
  · intro hz
    rcases getElem?_set_cases hz with ⟨-, rfl⟩ | ⟨-, hz⟩
    · exact absurd rfl hy
    · exact hz
  · intro hz
    have hij : i ≠ j := by
      rintro rfl
      exact hx (Option.some.inj (h.symm.trans hz))
    rwa [List.getElem?_set_ne hij]

/-- What one member adds to a sum is taken away when it is replaced. -/
theorem sum_map_set_add (f : α → Nat) (h : xs[i]? = some x) (y : α) :
    ((xs.set i y).map f).sum + f x = (xs.map f).sum + f y := by
  induction xs generalizing i with
  | nil => cases h
  | cons z rest ih =>
    cases i with
    | zero =>
      cases h
      simp only [List.set_cons_zero, List.map_cons, List.sum_cons]
      omega
    | succ i =>
      have := ih (i := i) (by simpa using h)
      simp only [List.set_cons_succ, List.map_cons, List.sum_cons]
      omega

end Lists

section Phases

variable {ε α : Type}

/-- Whether a task may go on: it is new, has a place, or is to end. -/
def Phase.mayGo : Phase ε α → Bool
  | .fresh _ | .active .. | .ending _ => true
  | _ => false

/-- The turns that a task needs at most. -/
def Phase.left : Phase ε α → Nat
  | .fresh work => work.pauses + 2
  | .waiting work | .active work _ => work.pauses + 1
  | .ending _ => 1
  | .finished _ | .cancelled => 0

/-- The places that a task has. -/
def Phase.seats : Phase ε α → Nat
  | .active .. => 1
  | _ => 0

/-- Whether a phase is one that a task with this work can be in; cancelling is left out. -/
def Phase.Serves (work : Routine (Except ε α)) : Phase ε α → Prop
  | .fresh rest | .waiting rest | .active rest _ => rest.result = work.result
  | .finished result => result = work.result
  | .ending _ | .cancelled => False

end Phases

namespace Group

variable {ε α : Type}

/-! ## Courses -/

/-- Whether the task of a number may go on. -/
def mayGo (g : Group ε α) (i : Nat) : Bool := g.phases[i]?.any Phase.mayGo

/-- The tasks of an order have gone on, one by one and each when it might; with the group that comes
of it, and what was noted on the way. -/
inductive Course (g : Group ε α) : List Nat → Group ε α → List (Note ε α) → Prop where
  | start : Course g [] g []
  | go {order : List Nat} {h : Group ε α} {notes : List (Note ε α)} {i : Nat} :
      Course g order h notes → h.mayGo i = true →
      Course g (order ++ [i]) (h.advance i).group (notes ++ (h.advance i).notes)

variable {g h : Group ε α} {i j : Nat} {work : Routine (Except ε α)} {order : List Nat}
  {notes : List (Note ε α)} {p q : Phase ε α} {n : Nat}

@[simp] theorem put_phases (g : Group ε α) (i : Nat) (p : Phase ε α) :
    (g.put i p).phases = g.phases.set i p := rfl

theorem mayGo_eq_true_iff : g.mayGo i = true ↔ ∃ p, g.phases[i]? = some p ∧ p.mayGo = true := by
  simp [mayGo, Option.any_eq_true]

/-- A task that may not go on leaves everything as it is. -/
theorem advance_of_not_mayGo (hgo : g.mayGo i = false) : g.advance i = { group := g } := by
  unfold advance
  split
  · rename_i hp
    simp [mayGo, hp, Phase.mayGo] at hgo
  · rename_i hp
    simp [mayGo, hp, Phase.mayGo] at hgo
  · rename_i hp
    simp [mayGo, hp, Phase.mayGo] at hgo
  · rfl

/-! ### Who may go on -/

theorem mayGo_put (hgo : (g.put i p).mayGo j = true) :
    (j = i ∧ p.mayGo = true) ∨ (j ≠ i ∧ g.mayGo j = true) := by
  obtain ⟨q, hq, hmay⟩ := mayGo_eq_true_iff.mp hgo
  rcases getElem?_set_cases hq with ⟨hj, rfl⟩ | ⟨hj, hq⟩
  · exact Or.inl ⟨hj, hmay⟩
  · exact Or.inr ⟨hj, mayGo_eq_true_iff.mpr ⟨q, hq, hmay⟩⟩

/-- A place that is given back lets nobody go on but the task that takes it. -/
theorem mayGo_release (hgo : g.release.1.mayGo j = true) :
    j ∈ g.release.2 ∨ g.mayGo j = true := by
  unfold release at hgo ⊢
  split at hgo
  · exact Or.inr hgo
  · exact Or.inr hgo
  · rename_i k rest _ _
    cases hk : g.phases[k]? with
    | none =>
      simp only [hk] at hgo
      exact Or.inr hgo
    | some p =>
      cases p with
      | waiting work =>
        simp only [hk] at hgo ⊢
        rcases mayGo_put (g := g) hgo with ⟨rfl, -⟩ | ⟨-, hgo⟩
        · exact Or.inl List.mem_cons_self
        · exact Or.inr hgo
      | _ =>
        simp only [hk] at hgo
        exact Or.inr hgo

theorem mayGo_runTask (hgo : (g.runTask i work).group.mayGo j = true) :
    j ∈ (g.runTask i work).ready ∨ (j ≠ i ∧ g.mayGo j = true) := by
  unfold runTask at hgo ⊢
  split at hgo
  · rcases mayGo_put hgo with ⟨rfl, -⟩ | hgo
    · exact Or.inl List.mem_cons_self
    · exact Or.inr hgo
  · rcases mayGo_release hgo with hready | hgo
    · exact Or.inl hready
    · rcases mayGo_put hgo with ⟨-, hgo⟩ | hgo
      · cases hgo
      · exact Or.inr hgo

theorem mayGo_begin (hgo : (g.begin i work).group.mayGo j = true) :
    j ∈ (g.begin i work).ready ∨ (j ≠ i ∧ g.mayGo j = true) := by
  unfold begin at hgo ⊢
  split at hgo
  · exact mayGo_runTask hgo
  · rcases mayGo_put (g := g) hgo with ⟨rfl, -⟩ | hgo
    · exact Or.inl List.mem_cons_self
    · exact Or.inr hgo
  · rcases mayGo_put (g := g) hgo with ⟨-, hgo⟩ | hgo
    · cases hgo
    · exact Or.inr hgo

/-- Whoever may go on afterwards is named, or might go on before. -/
theorem mayGo_advance (hgo : (g.advance i).group.mayGo j = true) :
    j ∈ (g.advance i).ready ∨ (j ≠ i ∧ g.mayGo j = true) := by
  unfold advance at hgo ⊢
  split at hgo
  · exact mayGo_begin hgo
  · exact mayGo_runTask hgo
  · rename_i placed _
    cases placed with
    | true =>
      rcases mayGo_release hgo with hready | hgo
      · exact Or.inl hready
      · rcases mayGo_put hgo with ⟨-, hgo⟩ | hgo
        · cases hgo
        · exact Or.inr hgo
    | false =>
      rcases mayGo_put hgo with ⟨-, hgo⟩ | hgo
      · cases hgo
      · exact Or.inr hgo
  · rename_i hfresh hactive hending
    refine Or.inr ⟨?_, hgo⟩
    rintro rfl
    obtain ⟨p, hp, hmay⟩ := mayGo_eq_true_iff.mp hgo
    cases p with
    | fresh work => exact hfresh work hp
    | active work settled => exact hactive work settled hp
    | ending placed => exact hending placed hp
    | _ => cases hmay

/-! ### Turns that are left -/

/-- The turns that all tasks together need at most. -/
def left (g : Group ε α) : Nat := (g.phases.map Phase.left).sum

theorem left_put (hp : g.phases[i]? = some p) (q : Phase ε α) :
    (g.put i q).left + p.left = g.left + q.left := sum_map_set_add Phase.left hp q

theorem left_release (g : Group ε α) : g.release.1.left = g.left := by
  unfold release
  split
  · rfl
  · rfl
  · rename_i k rest _ _
    split
    · rename_i work hk
      have : (g.put k (.active work false)).left + (work.pauses + 1) =
          g.left + (work.pauses + 1) := left_put hk _
      show (g.put k (.active work false)).left = g.left
      omega
    · rfl

theorem ready_release_length (g : Group ε α) : g.release.2.length ≤ 1 := by
  unfold release
  repeat' split
  all_goals simp

theorem left_runTask (hp : g.phases[i]? = some p) (hleft : work.pauses + 1 ≤ p.left) :
    (g.runTask i work).group.left + 1 ≤ g.left := by
  unfold runTask
  split
  · rename_i next events hresume
    have hpauses : next.pauses + 1 = work.pauses := (Routine.resume_paused (by rw [hresume])).2
    have : (g.put i (.active next true)).left + p.left = g.left + (next.pauses + 1) :=
      left_put hp _
    show (g.put i (.active next true)).left + 1 ≤ g.left
    omega
  · rename_i result events _
    have : (g.put i (.finished result)).left + p.left = g.left := left_put hp _
    show (g.put i (.finished result)).release.1.left + 1 ≤ g.left
    rw [left_release]
    omega

theorem ready_runTask_length (g : Group ε α) (i : Nat) (work : Routine (Except ε α)) :
    (g.runTask i work).ready.length ≤ 1 := by
  unfold runTask
  split
  · exact Nat.le_refl 1
  · exact ready_release_length _

theorem left_begin (hp : g.phases[i]? = some (.fresh work)) :
    (g.begin i work).group.left + 1 ≤ g.left := by
  unfold begin
  split
  · exact left_runTask hp (Nat.le_succ _)
  · have : (g.put i (.active work false)).left + (work.pauses + 2) =
        g.left + (work.pauses + 1) := left_put hp _
    show (g.put i (.active work false)).left + 1 ≤ g.left
    omega
  · have : (g.put i (.waiting work)).left + (work.pauses + 2) =
        g.left + (work.pauses + 1) := left_put hp _
    show (g.put i (.waiting work)).left + 1 ≤ g.left
    omega

theorem ready_begin_length (g : Group ε α) (i : Nat) (work : Routine (Except ε α)) :
    (g.begin i work).ready.length ≤ 1 := by
  unfold begin
  split
  · exact ready_runTask_length g i work
  · exact Nat.le_refl 1
  · exact Nat.zero_le 1

/-- A task that goes on needs one turn less. -/
theorem left_advance (hgo : g.mayGo i = true) : (g.advance i).group.left + 1 ≤ g.left := by
  obtain ⟨p, hp, hmay⟩ := mayGo_eq_true_iff.mp hgo
  cases p with
  | fresh work =>
    simp only [advance, hp]
    exact left_begin hp
  | active work settled =>
    simp only [advance, hp]
    exact left_runTask hp (Nat.le_refl _)
  | ending placed =>
    have : (g.put i .cancelled).left + 1 = g.left := left_put hp _
    simp only [advance, hp]
    cases placed with
    | true =>
      show (g.put i .cancelled).release.1.left + 1 ≤ g.left
      rw [left_release]
      omega
    | false =>
      show (g.put i .cancelled).left + 1 ≤ g.left
      omega
  | _ => cases hmay

theorem ready_advance_length (g : Group ε α) (i : Nat) : (g.advance i).ready.length ≤ 1 := by
  unfold advance
  split
  · exact ready_begin_length g i _
  · exact ready_runTask_length g i _
  · rename_i placed _
    cases placed with
    | true => exact ready_release_length _
    | false => exact Nat.zero_le 1
  · exact Nat.zero_le 1

/-- No course has more turns than the tasks need. -/
theorem Course.length_add_left_le (hcourse : Course g order h notes) :
    order.length + h.left ≤ g.left := by
  induction hcourse with
  | start => simp
  | go _ hgo ih =>
    have := left_advance hgo
    simp only [List.length_append, List.length_singleton]
    omega

/-! ## What every course keeps -/

/-- The tasks that have come to their end, with their results, as it was noted. -/
def completions (notes : List (Note ε α)) : List (Nat × Except ε α) :=
  notes.filterMap fun
    | .finished i result => some (i, result)
    | _ => none

theorem completions_append (a b : List (Note ε α)) :
    completions (a ++ b) = completions a ++ completions b := List.filterMap_append

@[simp] theorem completions_shown (events : List Event) :
    completions (events.map (Note.shown : Event → Note ε α)) = [] := by
  induction events with
  | nil => rfl
  | cons e rest ih => exact ih

/-- Only a task that ends is noted to have come to its end. -/
theorem mem_completions_runTask {result : Except ε α}
    (h : (j, result) ∈ completions (g.runTask i work).notes) :
    j = i ∧ (g.runTask i work).ended = true := by
  unfold runTask at h ⊢
  split at h
  · rw [completions_shown] at h
    cases h
  · rw [completions_append, completions_shown] at h
    cases List.mem_singleton.mp h
    exact ⟨rfl, rfl⟩

theorem mem_completions_advance {result : Except ε α}
    (h : (j, result) ∈ completions (g.advance i).notes) :
    j = i ∧ (g.advance i).ended = true := by
  unfold advance at h ⊢
  split at h
  · rename_i work _
    have hbegin : (j, result) ∈ completions (g.begin i work).notes := h
    show j = i ∧ (g.begin i work).ended = true
    unfold begin at hbegin ⊢
    split at hbegin
    · exact mem_completions_runTask hbegin
    · cases hbegin
    · cases hbegin
  · exact mem_completions_runTask h
  · cases h
  · cases h

/-- The places that are taken. -/
def seated (g : Group ε α) : Nat := (g.phases.map Phase.seats).sum

theorem seated_put (hp : g.phases[i]? = some p) (q : Phase ε α) :
    (g.put i q).seated + p.seats = g.seated + q.seats := sum_map_set_add Phase.seats hp q

/-- **What is known of a group of tasks with these places.**  Of the places, `owed` are on their way
back; `ended` are the tasks that have come to their end. -/
structure Tended (works : List (Routine (Except ε α))) (places : Option Nat) (owed : Nat)
    (g : Group ε α) (ended : List (Nat × Except ε α)) : Prop where
  length : g.phases.length = works.length
  serves {i : Nat} {p : Phase ε α} : g.phases[i]? = some p →
    ∃ work, works[i]? = some work ∧ p.Serves work
  /-- Those that wait stand in the queue, each once. -/
  queued {i : Nat} : i ∈ g.queue ↔ ∃ work, g.phases[i]? = some (.waiting work)
  once : g.queue.Nodup
  unlimited : places = none → g.free = none ∧ g.queue = []
  /-- No place is lost, and none is free while a task waits. -/
  limited {k : Nat} : places = some k →
    ∃ n, g.free = some n ∧ n + g.seated + owed = k ∧ (g.queue ≠ [] → n = 0)
  /-- What was noted of a task is what it has come to. -/
  completed {i : Nat} {result : Except ε α} :
    (i, result) ∈ ended ↔ g.phases[i]? = some (.finished result)
  distinct : (ended.map Prod.fst).Nodup

namespace Tended

variable {works : List (Routine (Except ε α))} {places : Option Nat} {owed owed' : Nat}
  {ended : List (Nat × Except ε α)} {result : Except ε α}

theorem initial (works : List (Routine (Except ε α))) (places : Option Nat) :
    Tended works places 0 (ofRoutines places works) [] where
  length := List.length_map _
  serves hp := by
    obtain ⟨work, hwork, rfl⟩ := by simpa [ofRoutines] using hp
    exact ⟨work, hwork, rfl⟩
  queued := by simp [ofRoutines]
  once := List.nodup_nil
  unlimited hplaces := ⟨hplaces, rfl⟩
  limited {k} hplaces := by
    have hseated : (ofRoutines places works).seated = 0 := by
      simp [seated, ofRoutines, Phase.seats, List.sum_eq_zero_iff_forall_eq_nat]
    exact ⟨k, hplaces, by rw [hseated]; omega, fun hq => absurd rfl hq⟩
  completed := by simp [ofRoutines]
  distinct := List.nodup_nil

/-- The work of a task that changes its phase stays the same. -/
theorem serves_put (h : Tended works places owed g ended) (hp : g.phases[i]? = some p)
    (hserves : ∀ work, p.Serves work → q.Serves work) {t : Phase ε α}
    (ht : (g.put i q).phases[j]? = some t) : ∃ work, works[j]? = some work ∧ t.Serves work := by
  rcases getElem?_set_cases ht with ⟨rfl, rfl⟩ | ⟨-, ht⟩
  · obtain ⟨work, hwork, hs⟩ := h.serves hp
    exact ⟨work, hwork, hserves work hs⟩
  · exact h.serves ht

/-- Those that wait are not touched by a task that neither waited nor waits now. -/
theorem queued_put (h : Tended works places owed g ended) (hp : g.phases[i]? = some p)
    (hbefore : ∀ work, p ≠ .waiting work) (hafter : ∀ work, q ≠ .waiting work) :
    j ∈ g.queue ↔ ∃ work, (g.put i q).phases[j]? = some (.waiting work) := by
  rw [h.queued]
  exact exists_congr fun work => (getElem?_set_iff_of_ne hp (hbefore work) (hafter work)).symm

/-- What was noted is not touched by a task that neither was done nor is done now. -/
theorem completed_put (h : Tended works places owed g ended) (hp : g.phases[i]? = some p)
    (hbefore : ∀ r, p ≠ .finished r) (hafter : ∀ r, q ≠ .finished r) :
    (j, result) ∈ ended ↔ (g.put i q).phases[j]? = some (.finished result) :=
  h.completed.trans (getElem?_set_iff_of_ne hp (hbefore result) (hafter result)).symm

/-- Nothing was noted of a task that may still go on. -/
theorem not_mem_ended (h : Tended works places owed g ended) (hp : g.phases[i]? = some p)
    (hmay : p.mayGo = true) : (i, result) ∉ ended := by
  intro hmem
  obtain rfl : p = .finished result := Option.some.inj (hp.symm.trans (h.completed.mp hmem))
  cases hmay

/-- A task that may still go on: neither the queue nor what was noted changes. -/
theorem restage (h : Tended works places owed g ended) (hp : g.phases[i]? = some p)
    (hmay : p.mayGo = true) (hmay' : q.mayGo = true)
    (hserves : ∀ work, p.Serves work → q.Serves work)
    (hseats : ∀ k, places = some k → p.seats + owed = q.seats + owed') :
    Tended works places owed' (g.put i q) ended where
  length := by rw [put_phases, List.length_set, h.length]
  serves := h.serves_put hp hserves
  queued := by
    refine h.queued_put hp (fun work => ?_) (fun work => ?_)
    · rintro rfl
      cases hmay
    · rintro rfl
      cases hmay'
  once := h.once
  unlimited := h.unlimited
  limited hplaces := by
    obtain ⟨n, hfree, hsum, hqueue⟩ := h.limited hplaces
    have := seated_put hp q
    have := hseats _ hplaces
    exact ⟨n, hfree, by omega, hqueue⟩
  completed := by
    refine h.completed_put hp (fun r => ?_) (fun r => ?_)
    · rintro rfl
      cases hmay
    · rintro rfl
      cases hmay'
  distinct := h.distinct

/-- A task comes to its end, and the place that it had is on its way back. -/
theorem complete (h : Tended works places owed g ended) (hp : g.phases[i]? = some p)
    (hmay : p.mayGo = true) (hserves : ∀ work, p.Serves work → result = work.result)
    (hseats : ∀ k, places = some k → p.seats + owed = owed') :
    Tended works places owed' (g.put i (.finished result)) (ended ++ [(i, result)]) where
  length := by rw [put_phases, List.length_set, h.length]
  serves := h.serves_put hp (q := .finished result) hserves
  queued := by
    refine h.queued_put hp (fun work => ?_) nofun
    rintro rfl
    cases hmay
  once := h.once
  unlimited := h.unlimited
  limited hplaces := by
    obtain ⟨n, hfree, hsum, hqueue⟩ := h.limited hplaces
    have hseated : (g.put i (.finished result)).seated + p.seats = g.seated := seated_put hp _
    have := hseats _ hplaces
    exact ⟨n, hfree, by omega, hqueue⟩
  completed {j r} := by
    obtain ⟨hi, -⟩ := List.getElem?_eq_some_iff.mp hp
    by_cases hij : i = j
    · subst hij
      have hnot : (i, r) ∉ ended := h.not_mem_ended hp hmay
      simp [hnot, hi, eq_comm]
    · have hji : j ≠ i := fun h => hij h.symm
      rw [put_phases, List.getElem?_set_ne hij, ← h.completed]
      simp [hji]
  distinct := by
    rw [List.map_append, List.map_singleton, ← List.concat_eq_append]
    refine List.Nodup.concat (fun hi => ?_) h.distinct
    obtain ⟨⟨j, r⟩, hmem, rfl⟩ := List.mem_map.mp hi
    exact h.not_mem_ended hp hmay hmem

/-- A new task waits when no place is free. -/
theorem wait (h : Tended works places owed g ended) (hp : g.phases[i]? = some (.fresh work))
    (hplaces : places ≠ none) (hfull : g.free = some 0 ∨ g.queue ≠ []) :
    Tended works places owed { g.put i (.waiting work) with queue := g.queue ++ [i] } ended where
  length := by rw [← h.length]; exact List.length_set
  serves := h.serves_put hp (q := .waiting work) fun _ hs => hs
  queued {j} := by
    obtain ⟨hi, -⟩ := List.getElem?_eq_some_iff.mp hp
    by_cases hij : i = j
    · subst hij
      simp [hi]
    · have hji : j ≠ i := fun h => hij h.symm
      rw [put_phases, List.getElem?_set_ne hij, ← h.queued]
      simp [hji]
  once := by
    rw [← List.concat_eq_append]
    refine List.Nodup.concat (fun hi => ?_) h.once
    obtain ⟨w, hw⟩ := h.queued.mp hi
    cases hp.symm.trans hw
  unlimited hnone := absurd hnone hplaces
  limited hsome := by
    obtain ⟨n, hfree, hsum, hqueue⟩ := h.limited hsome
    have hseated : (g.put i (.waiting work)).seated = g.seated := seated_put hp _
    have hzero : n = 0 := by
      rcases hfull with hfull | hfull
      · exact Option.some.inj (hfree.symm.trans hfull)
      · exact hqueue hfull
    exact ⟨n, hfree, hseated.symm ▸ hsum, fun _ => hzero⟩
  completed := h.completed_put hp (q := .waiting work) nofun nofun
  distinct := h.distinct

/-- A place is taken. -/
theorem take (h : Tended works places 0 g ended) (hfree : g.free = some (n + 1))
    (hqueue : g.queue = []) : Tended works places 1 { g with free := some n } ended where
  length := h.length
  serves := h.serves
  queued := h.queued
  once := h.once
  unlimited hnone := by
    rw [(h.unlimited hnone).1] at hfree
    cases hfree
  limited hsome := by
    obtain ⟨m, hm, hsum, -⟩ := h.limited hsome
    obtain rfl : n + 1 = m := Option.some.inj (hfree.symm.trans hm)
    have hseated : ({ g with free := some n } : Group ε α).seated = g.seated := rfl
    exact ⟨n, rfl, by omega, fun hne => absurd hqueue hne⟩
  completed := h.completed
  distinct := h.distinct

/-- A place on its way back goes to the first task that waits. -/
theorem handOver {k : Nat} {rest : List Nat} (h : Tended works places 1 g ended)
    (hqueue : g.queue = k :: rest) (hk : g.phases[k]? = some (.waiting work)) :
    Tended works places 0 { g.put k (.active work false) with queue := rest } ended where
  length := by rw [← h.length]; exact List.length_set
  serves := h.serves_put hk (q := .active work false) fun _ hs => hs
  queued {j} := by
    have hk' : k ∉ rest := by
      have := h.once
      rw [hqueue, List.nodup_cons] at this
      exact this.1
    obtain ⟨hlt, -⟩ := List.getElem?_eq_some_iff.mp hk
    by_cases hkj : k = j
    · subst hkj
      simp [hlt, hk']
    · have hjk : j ≠ k := fun h => hkj h.symm
      rw [put_phases, List.getElem?_set_ne hkj, ← h.queued, hqueue]
      simp [hjk]
  once := by
    have := h.once
    rw [hqueue, List.nodup_cons] at this
    exact this.2
  unlimited hnone := by
    rw [(h.unlimited hnone).2] at hqueue
    cases hqueue
  limited hsome := by
    obtain ⟨n, hfree, hsum, hzero⟩ := h.limited hsome
    have hseated : (g.put k (.active work false)).seated = g.seated + 1 := seated_put hk _
    rw [Nat.add_assoc, ← hseated] at hsum
    exact ⟨n, hfree, hsum, fun _ => hzero (by simp [hqueue])⟩
  completed := h.completed_put hk (q := .active work false) nofun nofun
  distinct := h.distinct

/-- A place on its way back is taken again, or is free. -/
theorem release (h : Tended works places 1 g ended) :
    Tended works places 0 g.release.1 ended := by
  unfold Group.release
  split
  · rename_i hfree
    -- without a number there is no place to give back
    refine { h with limited := fun hsome => ?_ }
    obtain ⟨n, hn, -⟩ := h.limited hsome
    cases hfree.symm.trans hn
  · rename_i n hfree hqueue
    refine { h with unlimited := fun hnone => ?_, limited := fun hsome => ?_ }
    · cases hfree.symm.trans (h.unlimited hnone).1
    · obtain ⟨m, hm, hsum, -⟩ := h.limited hsome
      obtain rfl : n = m := Option.some.inj (hfree.symm.trans hm)
      rw [Nat.add_right_comm n g.seated 1] at hsum
      exact ⟨n + 1, rfl, hsum, fun hne => absurd hqueue hne⟩
  · rename_i k rest _ hqueue
    obtain ⟨work, hk⟩ := h.queued.mp (hqueue ▸ List.mem_cons_self : k ∈ g.queue)
    simp only [hk]
    exact h.handOver hqueue hk

/-- A task with a place, or one that needs none, runs to its next pause. -/
theorem runTask (h : Tended works places owed g ended) (hp : g.phases[i]? = some p)
    (hmay : p.mayGo = true) (hserves : ∀ w, p.Serves w → work.result = w.result)
    (hseats : ∀ k, places = some k → p.seats + owed = 1) :
    Tended works places 0 (g.runTask i work).group
      (ended ++ completions (g.runTask i work).notes) := by
  unfold Group.runTask
  split
  · rename_i next events hresume
    have hresult : next.result = work.result := (Routine.resume_paused (by rw [hresume])).1
    show Tended works places 0 (g.put i (.active next true)) (ended ++ completions (events.map .shown))
    rw [completions_shown, List.append_nil]
    exact h.restage hp hmay rfl (fun w hw => hresult.trans (hserves w hw)) hseats
  · rename_i result events hresume
    have hresult : result = work.result := Routine.resume_ended (by rw [hresume])
    show Tended works places 0 (g.put i (.finished result)).release.1
      (ended ++ completions (events.map .shown ++ [.finished i result]))
    rw [completions_append, completions_shown, List.nil_append]
    exact (h.complete hp hmay (fun w hw => hresult.trans (hserves w hw)) hseats).release

theorem begin (h : Tended works places 0 g ended) (hp : g.phases[i]? = some (.fresh work)) :
    Tended works places 0 (g.begin i work).group
      (ended ++ completions (g.begin i work).notes) := by
  unfold Group.begin
  split
  · rename_i hfree
    refine h.runTask hp rfl (fun w hw => hw) fun k hsome => ?_
    obtain ⟨n, hn, -⟩ := h.limited hsome
    cases hfree.symm.trans hn
  · rename_i n hfree hqueue
    show Tended works places 0 ({ g with free := some n }.put i (.active work false)) (ended ++ [])
    rw [List.append_nil]
    exact (h.take hfree hqueue).restage hp rfl rfl (fun w hw => hw) fun _ _ => rfl
  · rename_i m hfree hfull
    show Tended works places 0 { g.put i (.waiting work) with queue := g.queue ++ [i] } (ended ++ [])
    rw [List.append_nil]
    refine h.wait hp (fun hnone => ?_) ?_
    · cases hfree.symm.trans (h.unlimited hnone).1
    · by_cases hqueue : g.queue = []
      · cases m with
        | zero => exact Or.inl hfree
        | succ m => exact (hfull m hqueue rfl).elim
      · exact Or.inr hqueue

/-- Whichever task goes on, the invariant is kept. -/
theorem advance (h : Tended works places 0 g ended) (i : Nat) :
    Tended works places 0 (g.advance i).group (ended ++ completions (g.advance i).notes) := by
  unfold Group.advance
  split
  · rename_i work hp
    exact h.begin hp
  · rename_i work settled hp
    exact h.runTask hp rfl (fun w hw => hw) fun _ _ => rfl
  · rename_i placed hp
    -- only cancelling makes a task end before it is done
    obtain ⟨work, -, hs⟩ := h.serves hp
    cases hs
  · show Tended works places 0 g (ended ++ [])
    rwa [List.append_nil]

/-- When nobody may go on, everybody is done. -/
theorem all_finished (h : Tended works places 0 g ended) (hplaces : places ≠ some 0)
    (hidle : ∀ i, g.mayGo i = false) (hwork : works[i]? = some work) :
    g.phases[i]? = some (.finished work.result) := by
  have hnone {j : Nat} {t : Phase ε α} (ht : g.phases[j]? = some t) : t.mayGo = false := by
    simpa [mayGo, ht] using hidle j
  have hlt : i < g.phases.length := by
    rw [h.length]
    exact (List.getElem?_eq_some_iff.mp hwork).1
  obtain ⟨p, hp⟩ : ∃ p, g.phases[i]? = some p := ⟨_, List.getElem?_eq_getElem hlt⟩
  obtain ⟨w, hw, hserves⟩ := h.serves hp
  obtain rfl : w = work := Option.some.inj (hw.symm.trans hwork)
  cases p with
  | fresh rest => cases hnone hp
  | active rest settled => cases hnone hp
  | ending placed => cases hnone hp
  | cancelled => cases hserves
  | finished result => rw [hp, show result = w.result from hserves]
  | waiting rest =>
    exfalso
    have hqueue : g.queue ≠ [] := List.ne_nil_of_mem (h.queued.mpr ⟨rest, hp⟩)
    -- all places are taken, but nobody has one
    have hseated : g.seated = 0 := by
      refine List.sum_eq_zero_iff_forall_eq_nat.mpr fun x hx => ?_
      obtain ⟨t, ht, rfl⟩ := List.mem_map.mp hx
      obtain ⟨j, hj⟩ := List.getElem?_of_mem ht
      have := hnone hj
      cases t with
      | active rest settled => cases this
      | _ => rfl
    cases hcap : places with
    | none => exact hqueue (h.unlimited hcap).2
    | some k =>
      obtain ⟨n, -, hsum, hzero⟩ := h.limited hcap
      have := hzero hqueue
      exact hplaces (by rw [hcap]; congr 1; omega)

end Tended

variable {works : List (Routine (Except ε α))} {places : Option Nat}

theorem Course.tended (hcourse : Course (ofRoutines places works) order h notes) :
    Tended works places 0 h (completions notes) := by
  induction hcourse with
  | start => exact Tended.initial works places
  | @go order h notes i _ _ ih =>
    rw [completions_append]
    exact ih.advance i

theorem Course.errorOf?_eq_none (hcourse : Course (ofRoutines places works) order h notes)
    (hok : ∀ work ∈ works, ∃ a, work.result = .ok a) (i : Nat) : h.errorOf? i = none := by
  unfold errorOf?
  split
  · rename_i e hp
    obtain ⟨work, hwork, hserves⟩ := hcourse.tended.serves hp
    obtain ⟨a, ha⟩ := hok work (List.mem_of_getElem? hwork)
    cases hserves.trans ha
  · rfl

/-! ## Tasks in turn -/

theorem errorOf?_eq_some_iff {e : ε} :
    g.errorOf? i = some e ↔ g.phases[i]? = some (.finished (.error e)) := by
  unfold errorOf?
  split
  · rename_i e' hp
    simp [hp]
  · rename_i hother
    exact ⟨nofun, fun hp => absurd hp (hother e)⟩

theorem resultOf?_eq_some_iff {a : α} :
    g.resultOf? i = some a ↔ g.phases[i]? = some (.finished (.ok a)) := by
  unfold resultOf?
  split
  · rename_i a' hp
    simp [hp]
  · rename_i hother
    exact ⟨nofun, fun hp => absurd hp (hother a)⟩

/-- A task that has failed after a turn had failed before, or it was its turn and it ended. -/
theorem Course.errorOf?_advance (hcourse : Course (ofRoutines places works) order h notes)
    (hgo : h.mayGo i = true) {e : ε} (herror : (h.advance i).group.errorOf? j = some e) :
    h.errorOf? j = some e ∨ (j = i ∧ (h.advance i).ended = true) := by
  rw [errorOf?_eq_some_iff, ← (hcourse.go hgo).tended.completed, completions_append,
    List.mem_append, hcourse.tended.completed, ← errorOf?_eq_some_iff] at herror
  exact herror.imp_right mem_completions_advance

namespace Run

variable {r : Run ε α}

/-- A run without an error is a course; whoever may go on has a turn, and whoever has failed is going
to be looked at. -/
structure OnCourse (g : Group ε α) (r : Run ε α) : Prop where
  course : ∃ order, Course g order r.group r.notes
  turns {i : Nat} : r.group.mayGo i = true → .advance i ∈ r.turns
  noticed {i : Nat} {e : ε} : r.group.errorOf? i = some e → .notice i ∈ r.turns
  calm : .cancel ∉ r.turns
  errors : r.errors = []

/-- The turns that a run takes at most. -/
def left (r : Run ε α) : Nat := 2 * r.group.left + r.turns.length

/-- The turns that follow on a turn of a task. -/
def followers (a : Advance ε α) (i : Nat) : List Turn :=
  a.ready.map Turn.advance ++ (if a.ended then [Turn.notice i] else [])

theorem followers_length (g : Group ε α) (i : Nat) : (followers (g.advance i) i).length ≤ 2 := by
  have := ready_advance_length g i
  unfold followers
  split
  · simp only [List.length_append, List.length_map, List.length_singleton]
    omega
  · simp only [List.length_append, List.length_map, List.length_nil]
    omega

theorem cancel_not_mem_followers (a : Advance ε α) (i : Nat) : Turn.cancel ∉ followers a i := by
  unfold followers
  split
  · simp
  · simp

/-- Errors stay. -/
theorem errors_of_step (h : r.step.errors = []) : r.errors = [] := by
  unfold step at h
  split at h
  · exact h
  · exact h
  · split at h
    · exact h
    · simp only [cancel] at h
      split at h
      · exact absurd h (by simp)
      · exact absurd h (by simp)
  · exact h

theorem errors_of_steps (h : (steps n r).errors = []) : r.errors = [] := by
  induction n generalizing r with
  | zero => exact h
  | succ n ih =>
    rw [steps] at h
    split at h
    · exact h
    · exact errors_of_step (ih h)

/-- Tasks that do not fail make no errors. -/
theorem OnCourse.errors_step (hr : OnCourse (ofRoutines places works) r)
    (hok : ∀ work ∈ works, ∃ a, work.result = .ok a) : r.step.errors = [] := by
  obtain ⟨⟨order, hcourse⟩, -, -, hcalm, herrors⟩ := hr
  unfold Run.step
  split
  · exact herrors
  · exact herrors
  · rw [hcourse.errorOf?_eq_none hok]
    exact herrors
  · rename_i hturns
    exact absurd (hturns ▸ List.mem_cons_self) hcalm

/-- One turn that makes no error: the run stays without one, and has fewer turns to go. -/
theorem OnCourse.step (hr : OnCourse (ofRoutines places works) r) (herrors : r.step.errors = [])
    (hturns : r.turns ≠ []) :
    OnCourse (ofRoutines places works) r.step ∧ r.step.left < r.left := by
  obtain ⟨group, turns, notes, errors, cancelling⟩ := r
  obtain ⟨⟨order, hcourse⟩, hmay, hnoticed, hcalm, rfl⟩ := hr
  cases turns with
  | nil => exact absurd rfl hturns
  | cons turn turns =>
    cases turn with
    | cancel => exact absurd List.mem_cons_self hcalm
    | notice i =>
      have hnone : group.errorOf? i = none := by
        cases herror : group.errorOf? i with
        | none => rfl
        | some e =>
          simp only [Run.step, herror] at herrors
          split at herrors
          · exact absurd herrors (by simp)
          · exact absurd herrors (by simp [Run.cancel])
      simp only [Run.step, hnone]
      refine ⟨⟨⟨order, hcourse⟩, fun hgo => ?_, fun {j e} herror => ?_,
        fun hc => hcalm (List.mem_cons_of_mem _ hc), rfl⟩, ?_⟩
      · simpa using hmay hgo
      · have hji : j ≠ i := by
          rintro rfl
          rw [hnone] at herror
          cases herror
        simpa [hji] using hnoticed herror
      · simp [left]
    | advance i =>
      by_cases hgo : group.mayGo i = true
      · have hstep : Run.step ⟨group, .advance i :: turns, notes, [], cancelling⟩ =
            ⟨(group.advance i).group, turns ++ followers (group.advance i) i,
              notes ++ (group.advance i).notes, [], cancelling⟩ := by
          simp [Run.step, followers]
        rw [hstep]
        refine ⟨⟨⟨_, hcourse.go hgo⟩, fun {j} hj => ?_, fun {j e} herror => ?_, ?_, rfl⟩, ?_⟩
        · rcases mayGo_advance hj with hready | ⟨hji, hj⟩
          · exact List.mem_append_right _
              (List.mem_append_left _ (List.mem_map_of_mem hready))
          · have : .advance j ∈ turns := by simpa [hji] using hmay hj
            exact List.mem_append_left _ this
        · rcases hcourse.errorOf?_advance hgo herror with hbefore | ⟨rfl, hended⟩
          · have : .notice j ∈ turns := by simpa using hnoticed hbefore
            exact List.mem_append_left _ this
          · exact List.mem_append_right _ (by simp [followers, hended])
        · rw [List.mem_append, not_or]
          exact ⟨fun hc => hcalm (List.mem_cons_of_mem _ hc), cancel_not_mem_followers _ _⟩
        · have := left_advance hgo
          have := followers_length group i
          simp only [left, List.length_append, List.length_cons]
          omega
      · have hidle : group.mayGo i = false := by simpa using hgo
        have hstep : Run.step ⟨group, .advance i :: turns, notes, [], cancelling⟩ =
            ⟨group, turns, notes, [], cancelling⟩ := by
          simp [Run.step, advance_of_not_mayGo hidle]
        rw [hstep]
        refine ⟨⟨⟨order, hcourse⟩, fun {j} hj => ?_, fun herror => ?_,
          fun hc => hcalm (List.mem_cons_of_mem _ hc), rfl⟩, by simp [left]⟩
        · have hji : j ≠ i := by
            rintro rfl
            exact hgo hj
          simpa [hji] using hmay hj
        · simpa using hnoticed herror

/-- Enough turns are all turns, unless there is an error. -/
theorem OnCourse.steps (hr : OnCourse (ofRoutines places works) r) (hn : r.left ≤ n)
    (herrors : (Run.steps n r).errors = []) :
    OnCourse (ofRoutines places works) (Run.steps n r) ∧ (Run.steps n r).turns = [] := by
  induction n generalizing r with
  | zero =>
    refine ⟨hr, List.eq_nil_of_length_eq_zero ?_⟩
    simp only [left] at hn
    show r.turns.length = 0
    omega
  | succ n ih =>
    rw [Run.steps] at herrors ⊢
    split
    · rename_i hempty
      exact ⟨hr, List.isEmpty_iff.mp hempty⟩
    · rename_i hturns
      rw [if_neg hturns] at herrors
      obtain ⟨hstep, hless⟩ := hr.step (errors_of_steps herrors) (by simpa using hturns)
      exact ih hstep (by omega) herrors

theorem OnCourse.errors_steps (hr : OnCourse (ofRoutines places works) r)
    (hok : ∀ work ∈ works, ∃ a, work.result = .ok a) : (Run.steps n r).errors = [] := by
  induction n generalizing r with
  | zero => exact hr.errors
  | succ n ih =>
    rw [Run.steps]
    split
    · exact hr.errors
    · rename_i hturns
      exact ih (hr.step (hr.errors_step hok) (by simpa using hturns)).1

end Run

theorem left_lt_turnsOf (p : Phase ε α) : p.left < turnsOf p := by
  cases p with
  | fresh work => simp [Phase.left, turnsOf]
  | waiting work => simp [Phase.left, turnsOf]
  | active work settled => simp [Phase.left, turnsOf]
  | _ => simp [Phase.left, turnsOf]

/-- The turns of a run are enough. -/
theorem left_le_turnsOf (g : Group ε α) :
    2 * g.left + g.phases.length ≤ 2 * (g.phases.map turnsOf).sum := by
  unfold left
  induction g.phases with
  | nil => exact Nat.le_refl 0
  | cons p rest ih =>
    have := left_lt_turnsOf p
    simp only [List.map_cons, List.sum_cons, List.length_cons]
    omega

theorem left_ofRoutines (places : Option Nat) (works : List (Routine (Except ε α))) :
    (ofRoutines places works).left = (works.map fun work => work.pauses + 2).sum := by
  simp only [left, ofRoutines, List.map_map]
  rfl

/-- Every task has its turn at the start. -/
theorem onCourse_start (places : Option Nat) (works : List (Routine (Except ε α))) :
    Run.OnCourse (ofRoutines places works)
      { group := ofRoutines places works
        turns := (List.range (ofRoutines places works).phases.length).map Turn.advance } := by
  refine ⟨⟨[], .start⟩, fun {i} hgo => ?_, fun {i e} herror => ?_, by simp, rfl⟩
  · obtain ⟨p, hp, -⟩ := mayGo_eq_true_iff.mp hgo
    exact List.mem_map_of_mem (List.mem_range.mpr (List.getElem?_eq_some_iff.mp hp).1)
  · simp [errorOf?_eq_some_iff, ofRoutines] at herror

/-- Tasks that go on in turn go on until nobody may, and none of them has failed, unless there is an
error. -/
theorem run_course_of_errors (herrors : (ofRoutines places works).run.errors = []) :
    ∃ order, Course (ofRoutines places works) order (ofRoutines places works).run.group
        (ofRoutines places works).run.notes ∧
      (∀ i, (ofRoutines places works).run.group.mayGo i = false) ∧
      ∀ i, (ofRoutines places works).run.group.errorOf? i = none := by
  obtain ⟨⟨⟨order, hcourse⟩, hturns, hnoticed, -, -⟩, hnil⟩ :=
    (onCourse_start places works).steps
      (n := 2 * ((ofRoutines places works).phases.map turnsOf).sum + 2) (by
        have := left_le_turnsOf (ofRoutines places works)
        simp only [Run.left, List.length_map, List.length_range]
        omega) herrors
  refine ⟨order, hcourse, fun i => ?_, fun i => ?_⟩
  · cases hgo : (ofRoutines places works).run.group.mayGo i with
    | false => rfl
    | true =>
      have := hturns hgo
      rw [hnil] at this
      cases this
  · cases herror : (ofRoutines places works).run.group.errorOf? i with
    | none => rfl
    | some e =>
      have := hnoticed herror
      rw [hnil] at this
      cases this

/-- Tasks that go on in turn go on until nobody may, if none of them fails. -/
theorem run_course (places : Option Nat) (hok : ∀ work ∈ works, ∃ a, work.result = .ok a) :
    ∃ order, Course (ofRoutines places works) order (ofRoutines places works).run.group
        (ofRoutines places works).run.notes ∧
      (∀ i, (ofRoutines places works).run.group.mayGo i = false) ∧
      (ofRoutines places works).run.errors = [] := by
  have herrors : (ofRoutines places works).run.errors = [] :=
    (onCourse_start places works).errors_steps hok
  obtain ⟨order, hcourse, hidle, -⟩ := run_course_of_errors herrors
  exact ⟨order, hcourse, hidle, herrors⟩

end Group

end FieldCheck
