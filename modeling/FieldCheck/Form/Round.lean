import FieldCheck.Form.Basic
import FieldCheck.Form.Group

/-!
# Rounds of validation

A round validates a field; a later round of the same field supersedes it.

* `Tokens` — how many rounds of each field have begun; the number is the token of the latest one.
* `Form.validateField` — validates one field; with a token the result is dropped if the round has
  been superseded by the time it is there.
* `Tally` — what is known of rounds that run side by side: each round gets its token when it starts,
  and its result counts if the token is still the latest when it finishes.
* `Form.race` — rounds in turn.
-/

set_option autoImplicit false

namespace FieldCheck

/-- The number of rounds of each field that have begun. -/
abbrev Tokens := List (String × Nat)

namespace Tokens

/-- The token of the latest round of a field, or zero. -/
def latest (t : Tokens) (field : String) : Nat := (t.lookup field).getD 0

/-- The tokens after another round of a field has begun. -/
def next (t : Tokens) (field : String) : Tokens := (field, t.latest field + 1) :: t

/-- Whether no newer round of a field has begun since a token. -/
def isLatest (t : Tokens) (field : String) (token : Int) : Bool := (t.latest field : Int) == token

/-- A result, unless its token has been superseded. -/
def deliver {α : Type} (t : Tokens) (field : String) (token : Option Int) (result : α) : Option α :=
  match token with
  | none => some result
  | some token => if t.isLatest field token then some result else none

end Tokens

/-- A round: a field and the values of all fields. -/
structure Round where
  field : String
  values : Values

/-- Begins a round: its token and the changed tokens. -/
def Form.begin (form : Form) (tokens : Tokens) (name : String) : Except FormFault (Nat × Tokens) :=
  match form.field name with
  | .error fault => .error fault
  | .ok _ =>
    let tokens := tokens.next name
    .ok (tokens.latest name, tokens)

/-- The evaluation of a field by name. -/
def Form.evaluation (form : Form) (name : String) (values : Values) :
    Routine (Except FormFault Result) :=
  match form.field name with
  | .error fault => .done (.error fault)
  | .ok f => (form.evaluateField f values).map fun r =>
    match r with
    | .ok result => .ok result
    | .error fault => .error (.evaluation fault)

/-- Validates one field; nothing else begins a round meanwhile. -/
def Form.validateField (form : Form) (tokens : Tokens) (name : String) (values : Values)
    (token : Option Int) : Routine (Except FormFault (Option Result)) :=
  (form.evaluation name values).map fun r =>
    match r with
    | .ok result => .ok (tokens.deliver name token result)
    | .error fault => .error fault

/-- What is known of rounds that run side by side. -/
structure Tally where
  tokens : Tokens
  /-- The rounds that have begun, with their tokens. -/
  begun : List (Nat × Nat) := []
  /-- The rounds that have finished well, with their results or nothing if they were superseded. -/
  results : List (Nat × Option Result) := []

namespace Tally

/-- Takes a note of the rounds `rounds`. -/
def take (form : Form) (rounds : List Round) (t : Tally) : Note FormFault Result → Tally
  | .started i =>
    match rounds[i]? with
    | none => t
    | some r =>
      match form.begin t.tokens r.field with
      | .error _ => t
      | .ok (token, tokens) => { t with tokens, begun := t.begun ++ [(i, token)] }
  | .finished i (.ok result) =>
    match rounds[i]?, t.begun.lookup i with
    | some r, some token =>
      { t with results := t.results ++ [(i, t.tokens.deliver r.field (some token) result)] }
    | _, _ => t
  | _ => t

/-- Takes notes in order. -/
def takeAll (form : Form) (rounds : List Round) (t : Tally) (notes : List (Note FormFault Result)) :
    Tally :=
  notes.foldl (take form rounds) t

end Tally

/-- Notes that only events leave. -/
def shownEvents {ε α : Type} (notes : List (Note ε α)) : List Event :=
  notes.filterMap fun note =>
    match note with
    | .shown e => some e
    | _ => none

/-- What came of rounds or of a validation: the events, and results or errors. -/
structure Ending (ε α : Type) where
  events : List Event
  result : Except ε α

/-- A task for each round; a round of an unknown field fails when it starts. -/
def Form.roundTasks (form : Form) (rounds : List Round) : List (Routine (Except FormFault Result)) :=
  rounds.map fun r => form.evaluation r.field r.values

/-- Runs rounds in turn: the results in the order of the rounds, with the changed tokens. -/
def Form.race (form : Form) (tokens : Tokens) (rounds : List Round) :
    Tokens × Ending (List FormFault) (List (Option Result)) :=
  let r := (Group.ofRoutines none (form.roundTasks rounds)).run
  let tally := Tally.takeAll form rounds { tokens } r.notes
  let results := (List.range rounds.length).map fun i => (tally.results.lookup i).getD none
  (tally.tokens,
    { events := shownEvents r.notes
      result := if r.errors.isEmpty then .ok results else .error r.errors })

end FieldCheck
