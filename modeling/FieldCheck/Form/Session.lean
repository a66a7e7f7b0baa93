import FieldCheck.Form.Round

/-!
# Validating a form

* `Form.validate` — validates every field side by side, with the cap of the settings: the results
  in the order of the fields, or the errors.
* `FormErrors` — one error stands for itself, several stand together.
* `Form.errors` — the messages of the failing fields.
* `Session` — a form in use: its tokens and the last results.
-/

set_option autoImplicit false

namespace FieldCheck

/-- The results of fields, where a superseded round leaves nothing. -/
abbrev Results := List (String × Option Result)

/-- The errors of tasks: a single one stands for itself. -/
inductive FormErrors where
  | single (fault : FormFault)
  | several (faults : List FormFault)

/-- The errors of a validation. -/
def FormErrors.ofFaults : List FormFault → FormErrors
  | [fault] => .single fault
  | faults => .several faults

namespace Form

/-- A task for each field. -/
def fieldTasks (form : Form) (values : Values) : List (Routine (Except FormFault Result)) :=
  form.fields.map fun f => (form.evaluateField f values).map fun r =>
    match r with
    | .ok result => .ok result
    | .error fault => .error (.evaluation fault)

/-- The group that validates every field. -/
def fieldGroup (form : Form) (values : Values) : Group FormFault Result :=
  Group.ofRoutines form.config.maxConcurrency (form.fieldTasks values)

/-- The results of a group in the order of the fields. -/
def resultsOf (form : Form) (g : Group FormFault Result) : Results :=
  form.names.zipIdx.map fun p => (p.1, g.resultOf? p.2)

/-- Validates every field. -/
def validate (form : Form) (values : Values) : Ending FormErrors Results :=
  let r := (form.fieldGroup values).run
  { events := shownEvents r.notes
    result :=
      if r.errors.isEmpty then .ok (form.resultsOf r.group)
      else .error (.ofFaults r.errors) }

/-- Why there are no messages. -/
inductive MessageFault where
  | form (fault : FormFault)
  | template (fault : TemplateFault)

/-- The messages of the failing fields among results. -/
def errors (form : Form) : Results → Except MessageFault (List (String × String))
  | [] => .ok []
  | (name, result) :: rest =>
    match result.bind Result.failure with
    | none => form.errors rest
    | some o =>
      match form.field name with
      | .error fault => .error (.form fault)
      | .ok f =>
        match form.messageOf f o with
        | .error fault => .error (.template fault)
        | .ok message =>
          match form.errors rest with
          | .error fault => .error fault
          | .ok more => .ok ((name, message) :: more)

end Form

/-- A form in use. -/
structure Session where
  form : Form
  tokens : Tokens := []
  last : Results := []

namespace Session

/-- Sets the result of a field; a field that is there keeps its place. -/
def putResult (name : String) (result : Option Result) : Results → Results
  | [] => [(name, result)]
  | (n, r) :: rest =>
    if n = name then (n, result) :: rest else (n, r) :: putResult name result rest

/-- Validates every field and keeps the results; an error leaves none. -/
def validate (s : Session) (values : Values) : Session × Ending FormErrors Results :=
  let ending := s.form.validate values
  let last := match ending.result with
    | .ok results => results
    | .error _ => []
  ({ s with last }, ending)

/-- Validates one field and keeps its result. -/
def validateField (s : Session) (name : String) (values : Values) (token : Option Int) :
    Session × Ending FormFault (Option Result) :=
  let (result, events) := (s.form.validateField s.tokens name values token).finish
  let last := match result with
    | .ok result => putResult name result s.last
    | .error _ => s.last
  ({ s with last }, { events, result })

/-- Begins a round of a field. -/
def begin (s : Session) (name : String) : Session × Except FormFault Nat :=
  match s.form.begin s.tokens name with
  | .ok (token, tokens) => ({ s with tokens }, .ok token)
  | .error fault => (s, .error fault)

/-- Runs rounds of a field in turn. -/
def race (s : Session) (rounds : List Round) :
    Session × Ending (List FormFault) (List (Option Result)) :=
  let (tokens, ending) := s.form.race s.tokens rounds
  ({ s with tokens }, ending)

end Session

end FieldCheck
