import FieldCheck.Rule.Routine

/-!
# Groups of tasks

A group runs tasks side by side, one of them at a time: a task goes on until it pauses, and at most
so many tasks as there are places are under way at once.

* `Phase` — where a task stands.
* `Group.advance` — lets one task go on; the tasks that may go on after that are named in the order
  in which they were let go.
* `Group.cancel` — ends the tasks that are still under way; one that was just given a place is let
  go on to its next pause first.
* `Group.run` — the run in which tasks go on in turn, a failing task being noticed only when its
  turn to be looked at comes; `Group.errors` are the errors in the order in which they are noticed.
-/

set_option autoImplicit false

-- a sum starts at the numeral zero, not at that of a semiring
attribute [local instance (1100)] Zero.ofOfNat0

namespace FieldCheck

/-- Where a task stands. -/
inductive Phase (ε α : Type) where
  /-- Nothing has happened yet. -/
  | fresh (work : Routine (Except ε α))
  /-- It waits for a place. -/
  | waiting (work : Routine (Except ε α))
  /-- It has a place and may go on; `settled` is false until it has run for the first time. -/
  | active (work : Routine (Except ε α)) (settled : Bool)
  /-- It ends when its turn comes; `placed` holds if it has a place to give back. -/
  | ending (placed : Bool)
  | finished (result : Except ε α)
  | cancelled

/-- What others see of a group. -/
inductive Note (ε α : Type) where
  | started (task : Nat)
  | shown (event : Event)
  | finished (task : Nat) (result : Except ε α)

/-- Tasks and the places that are left; without a number there is a place for every task. -/
structure Group (ε α : Type) where
  phases : List (Phase ε α)
  free : Option Nat := none
  queue : List Nat := []

/-- What comes of letting a task go on. -/
structure Advance (ε α : Type) where
  group : Group ε α
  notes : List (Note ε α) := []
  /-- The tasks that may go on. -/
  ready : List Nat := []
  /-- Whether the task has come to its end. -/
  ended : Bool := false

namespace Group

variable {ε α : Type}

/-- A group of fresh tasks. -/
def ofRoutines (places : Option Nat) (works : List (Routine (Except ε α))) : Group ε α :=
  { phases := works.map Phase.fresh, free := places }

/-- Puts a task into a phase. -/
def put (g : Group ε α) (i : Nat) (p : Phase ε α) : Group ε α :=
  { g with phases := g.phases.set i p }

/-- Gives a place back: the first task that waits takes it. -/
def release (g : Group ε α) : Group ε α × List Nat :=
  match g.free, g.queue with
  | none, _ => (g, [])
  | some n, [] => ({ g with free := some (n + 1) }, [])
  | some _, j :: rest =>
    match g.phases[j]? with
    | some (.waiting work) => ({ g.put j (.active work false) with queue := rest }, [j])
    | _ => ({ g with queue := rest }, [])

/-- Lets a task with a place run to its next pause. -/
def runTask (g : Group ε α) (i : Nat) (work : Routine (Except ε α)) : Advance ε α :=
  match work.resume with
  | (.paused next, events) =>
    { group := g.put i (.active next true), notes := events.map .shown, ready := [i] }
  | (.ended result, events) =>
    let (group, ready) := (g.put i (.finished result)).release
    { group, notes := events.map .shown ++ [.finished i result], ready, ended := true }

/-- Lets a fresh task begin: it runs at once, takes a place, or waits for one. -/
def begin (g : Group ε α) (i : Nat) (work : Routine (Except ε α)) : Advance ε α :=
  match g.free, g.queue with
  | none, _ => g.runTask i work
  | some (n + 1), [] => { group := { g.put i (.active work false) with free := some n }, ready := [i] }
  | some _, _ => { group := { g.put i (.waiting work) with queue := g.queue ++ [i] } }

/-- Lets a task go on. -/
def advance (g : Group ε α) (i : Nat) : Advance ε α :=
  match g.phases[i]? with
  | some (.fresh work) =>
    let a := g.begin i work
    { a with notes := .started i :: a.notes }
  | some (.active work _) => g.runTask i work
  | some (.ending placed) =>
    let g := g.put i .cancelled
    let (group, ready) := if placed then g.release else (g, [])
    { group, ready, ended := true }
  | _ => { group := g }

/-- The phase of a task that is asked to end. -/
def Phase.cancel : Phase ε α → Phase ε α
  | .waiting _ => .ending false
  | .active _ true => .ending true
  | p => p

/-- The tasks that wait. -/
def waitingTasks (g : Group ε α) : List Nat :=
  g.phases.zipIdx.filterMap fun p =>
    match p.1 with
    | .waiting _ => some p.2
    | _ => none

/-- Asks all tasks to end; the waiting ones may go on to their end. -/
def cancel (g : Group ε α) : Group ε α × List Nat :=
  ({ g with phases := g.phases.map Phase.cancel, queue := [] }, g.waitingTasks)

/-- Whether a task is still under way. -/
def Phase.isOpen : Phase ε α → Bool
  | .finished _ | .cancelled => false
  | _ => true

/-- Whether some task is still under way. -/
def isOpen (g : Group ε α) : Bool := g.phases.any Phase.isOpen

/-- The error of a task that has failed. -/
def errorOf? (g : Group ε α) (i : Nat) : Option ε :=
  match g.phases[i]? with
  | some (.finished (.error e)) => some e
  | _ => none

/-- The result of a task that has finished well. -/
def resultOf? (g : Group ε α) (i : Nat) : Option α :=
  match g.phases[i]? with
  | some (.finished (.ok a)) => some a
  | _ => none

/-- What is to be done next in a run. -/
inductive Turn where
  | advance (task : Nat)
  /-- Look at a task that has come to its end. -/
  | notice (task : Nat)
  | cancel
  deriving DecidableEq, Repr

/-- A run in progress. -/
structure Run (ε α : Type) where
  group : Group ε α
  turns : List Turn
  notes : List (Note ε α) := []
  errors : List ε := []
  cancelling : Bool := false

namespace Run

/-- Lets the group cancel, and again after the turns that wait now, while a task is under way. -/
def cancel (r : Run ε α) (turns : List Turn) : Run ε α :=
  let (group, ready) := r.group.cancel
  { r with
    group
    turns := turns ++ ready.map Turn.advance ++ (if group.isOpen then [Turn.cancel] else [])
    cancelling := true }

/-- Takes one turn. -/
def step (r : Run ε α) : Run ε α :=
  match r.turns with
  | [] => r
  | .advance i :: turns =>
    let a := r.group.advance i
    { r with
      group := a.group
      turns := turns ++ a.ready.map Turn.advance ++ (if a.ended then [Turn.notice i] else [])
      notes := r.notes ++ a.notes }
  | .notice i :: turns =>
    match r.group.errorOf? i with
    | none => { r with turns }
    | some e =>
      let r := { r with errors := r.errors ++ [e] }
      if r.cancelling then { r with turns } else r.cancel turns
  | .cancel :: turns => r.cancel turns

/-- Takes turns until none is left, at most so many. -/
def steps : Nat → Run ε α → Run ε α
  | 0, r => r
  | n + 1, r => if r.turns.isEmpty then r else steps n r.step

end Run

/-- The turns that are enough for a task. -/
def turnsOf : Phase ε α → Nat
  | .fresh work | .waiting work | .active work _ => work.pauses + 5
  | _ => 2

/-- Runs all tasks in turn. -/
def run (g : Group ε α) : Run ε α :=
  Run.steps (2 * (g.phases.map turnsOf).sum + 2)
    { group := g, turns := (List.range g.phases.length).map Turn.advance }

end Group

end FieldCheck
