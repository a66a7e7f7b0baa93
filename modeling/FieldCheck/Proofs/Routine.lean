import FieldCheck.Rule.Routine

/-!
# Laws of routines

What a routine comes to, and what it shows on its way, when it is put together from others.

* `result_bind`, `events_bind` — one routine after another: the events of the first come first.
* `result_map`, `events_map` — a changed result, shown in the same way.
* `pauses_bind`, `pauses_map` — the pauses of both are the pauses of the whole.
* `course` — a routine without what it comes to; `course_bind`, `course_map`.
-/

set_option autoImplicit false

namespace FieldCheck.Routine

variable {α β : Type}

@[simp] theorem result_done (a : α) : (done a).result = a := rfl

@[simp] theorem result_pause (p : Routine α) : (pause p).result = p.result := rfl

@[simp] theorem result_emit (e : Event) (p : Routine α) : (emit e p).result = p.result := rfl

@[simp] theorem events_done (a : α) : (done a).events = [] := rfl

@[simp] theorem events_pause (p : Routine α) : (pause p).events = p.events := rfl

@[simp] theorem events_emit (e : Event) (p : Routine α) : (emit e p).events = e :: p.events := rfl

@[simp] theorem bind_done (a : α) (f : α → Routine β) : (done a).bind f = f a := rfl

@[simp] theorem result_bind (p : Routine α) (f : α → Routine β) :
    (p.bind f).result = (f p.result).result := by
  induction p with
  | done a => rfl
  | pause next ih => simpa only [bind, result_pause] using ih
  | emit e next ih => simpa only [bind, result_emit] using ih

@[simp] theorem events_bind (p : Routine α) (f : α → Routine β) :
    (p.bind f).events = p.events ++ (f p.result).events := by
  induction p with
  | done a => rfl
  | pause next ih => simpa only [bind, events_pause, result_pause] using ih
  | emit e next ih =>
    simp only [bind, events_emit, result_emit, List.cons_append]
    rw [ih]

@[simp] theorem result_map (f : α → β) (p : Routine α) : (p.map f).result = f p.result := by
  simp [map]

@[simp] theorem events_map (f : α → β) (p : Routine α) : (p.map f).events = p.events := by
  simp [map]

@[simp] theorem pauses_done (a : α) : (done a).pauses = 0 := rfl

@[simp] theorem pauses_emit (e : Event) (p : Routine α) : (emit e p).pauses = p.pauses := rfl

@[simp] theorem pauses_bind (p : Routine α) (f : α → Routine β) :
    (p.bind f).pauses = p.pauses + (f p.result).pauses := by
  induction p with
  | done a => simp
  | pause next ih =>
    simp only [bind, pauses, result_pause]
    omega
  | emit e next ih => simpa only [bind, pauses_emit, result_emit] using ih

@[simp] theorem pauses_map (f : α → β) (p : Routine α) : (p.map f).pauses = p.pauses := by
  simp [map]

theorem bind_assoc {γ : Type} (p : Routine α) (f : α → Routine β) (g : β → Routine γ) :
    (p.bind f).bind g = p.bind fun a => (f a).bind g := by
  induction p with
  | done a => rfl
  | pause next ih => simp only [bind, ih]
  | emit e next ih => simp only [bind, ih]

theorem bind_done_right (p : Routine α) : p.bind done = p := by
  induction p with
  | done a => rfl
  | pause next ih => simp only [bind, ih]
  | emit e next ih => simp only [bind, ih]

/-- A routine behind events. -/
def behind (p : Routine α) (events : List Event) : Routine α := events.foldr emit p

@[simp] theorem behind_nil (p : Routine α) : p.behind [] = p := rfl

@[simp] theorem behind_cons (e : Event) (events : List Event) (p : Routine α) :
    p.behind (e :: events) = emit e (p.behind events) := rfl

theorem behind_bind (events : List Event) (p : Routine α) (f : α → Routine β) :
    (p.behind events).bind f = (p.bind f).behind events := by
  induction events with
  | nil => rfl
  | cons e events ih => simp only [behind_cons, bind, ih]

@[simp] theorem result_behind (events : List Event) (p : Routine α) :
    (p.behind events).result = p.result := by
  induction events with
  | nil => rfl
  | cons e events ih => rw [behind_cons, result_emit, ih]

@[simp] theorem events_behind (events : List Event) (p : Routine α) :
    (p.behind events).events = events ++ p.events := by
  induction events with
  | nil => rfl
  | cons e events ih => rw [behind_cons, events_emit, ih, List.cons_append]

/-- What a routine shows on its way and where it pauses, without what it comes to. -/
def course (p : Routine α) : Routine Unit := p.map fun _ => ()

@[simp] theorem course_done (a : α) : (done a).course = done () := rfl

/-- Only the result of the first decides how the course goes on. -/
theorem course_bind (p : Routine α) (f : α → Routine β) :
    (p.bind f).course = p.course.bind fun _ => (f p.result).course := by
  induction p with
  | done a => rfl
  | pause next ih => exact congrArg pause ih
  | emit e next ih => exact congrArg (emit e) ih

@[simp] theorem course_map (f : α → β) (p : Routine α) : (p.map f).course = p.course := by
  rw [map, course_bind]
  exact bind_done_right p.course

end FieldCheck.Routine
