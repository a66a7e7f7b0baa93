/-!
# Routines

* `Event` — what an evaluation lets others see on its way: a rule of the application that is called,
  a trace that is shown.
* `Routine` — a computation that may pause, and shows events, before it is done.
* `Routine.bind` — one routine after another.
* `Routine.finish` — runs a routine to its end without a break; `Routine.resume` runs it to its next
  pause.
-/

set_option autoImplicit false

namespace FieldCheck

/-- What an evaluation shows on its way. -/
inductive Event where
  | called (id : String)
  | traced (text : String)
  deriving DecidableEq, Repr

/-- A computation that may pause. -/
inductive Routine (α : Type) where
  | done (result : α)
  | pause (next : Routine α)
  | emit (event : Event) (next : Routine α)

/-- Where a routine stops: at its end or at a pause. -/
inductive Stop (α : Type) where
  | ended (result : α)
  | paused (next : Routine α)

namespace Routine

variable {α β : Type}

/-- Goes on with a routine that the result selects. -/
def bind : Routine α → (α → Routine β) → Routine β
  | .done a, f => f a
  | .pause next, f => .pause (next.bind f)
  | .emit e next, f => .emit e (next.bind f)

/-- Changes the result. -/
def map (f : α → β) (p : Routine α) : Routine β := p.bind fun a => .done (f a)

/-- Pauses a number of times first. -/
def after : Nat → Routine α → Routine α
  | 0, p => p
  | n + 1, p => .pause (after n p)

/-- Runs to the end: the result and the events on the way. -/
def finish : Routine α → α × List Event
  | .done a => (a, [])
  | .pause next => next.finish
  | .emit e next => let (a, events) := next.finish; (a, e :: events)

/-- Runs to the next pause or to the end, with the events on the way. -/
def resume : Routine α → Stop α × List Event
  | .done a => (.ended a, [])
  | .pause next => (.paused next, [])
  | .emit e next => let (stop, events) := next.resume; (stop, e :: events)

/-- The number of pauses. -/
def pauses : Routine α → Nat
  | .done _ => 0
  | .pause next => next.pauses + 1
  | .emit _ next => next.pauses

/-- The result of running to the end. -/
def result (p : Routine α) : α := p.finish.1

/-- The events of running to the end. -/
def events (p : Routine α) : List Event := p.finish.2

end Routine

end FieldCheck
