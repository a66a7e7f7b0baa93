import FieldCheck.Display.Trace
import FieldCheck.Evaluation.Fault
import FieldCheck.Evaluation.Outcome
import FieldCheck.Spec.Basic

/-!
# Evaluating a specification

* `Step` — a rule that is to run: its entry, its arguments, and whether a failure of it stops an
  evaluation that collects outcomes.
* `Registry.plan` — the steps of a specification for a value.  Unknown names come first among the
  faults, then an optional rule beside a required-class one; an empty value has no steps unless a
  required-class rule is there.
* `runSteps` — runs steps in order, one at a time.  A crash is reported with the literals of the
  arguments; where one of them is not written out, that is raised in place of the report.
* `evaluate`, `collect` — the two ways to stop: at the first failure, or at a failure of a step
  that stops.
-/

set_option autoImplicit false

namespace FieldCheck

/-- A rule that is to run. -/
structure Step where
  written : String
  entry : Entry
  args : List Value
  stops : Bool

/-- The rule after which every failure stops. -/
def bailName : String := "bail"

/-- Looks up the rules of a specification from left to right. -/
def Registry.resolve (r : Registry) : List (Rule Value) → Except Fault (List (Rule Value × Entry))
  | [] => .ok []
  | rule :: rest =>
    match r.lookup rule.name with
    | none => .error (.unknownRule rule.name r.names)
    | some e =>
      match r.resolve rest with
      | .error fault => .error fault
      | .ok more => .ok ((rule, e) :: more)

/-- The steps of rules that have been looked up; `bailing` holds behind a bail rule. -/
def markStops : Bool → List (Rule Value × Entry) → List Step
  | _, [] => []
  | bailing, (rule, e) :: rest =>
    { written := rule.name, entry := e, args := rule.args, stops := bailing || rule.bail } ::
      markStops (bailing || e.name == bailName) rest

/-- Whether some rule has a policy. -/
def hasPolicy (policy : Policy) (resolved : List (Rule Value × Entry)) : Bool :=
  resolved.any fun p => p.2.policy == policy

/-- The steps of a specification for a value. -/
def Registry.plan (r : Registry) (spec : Spec) (v : Value) : Except Fault (List Step) :=
  match r.resolve spec.rules with
  | .error fault => .error fault
  | .ok resolved =>
    if hasPolicy .bypass resolved && hasPolicy .run resolved then
      .error (.optionalRequired spec.names)
    else if v.isEmpty && !hasPolicy .run resolved then .ok []
    else .ok (markStops false resolved)

/-- What is raised when a step crashes. -/
def Step.crashFault (s : Step) (c : Context) (crash : Crash) : Fault :=
  match literalsWithin c.room (s.entry.fillArgs s.args) with
  | .ok args => .execution s.entry.name s.written args c.fieldName crash
  | .error obstacle => .unwritten s.entry.name s.written crash obstacle

/-- Runs steps in order; `halts` says at which failures the run ends. -/
def runSteps (halts : Step → Bool) (v : Value) (c : Context) :
    List Step → Routine (Except Fault (List Outcome))
  | [] => .done (.ok [])
  | s :: rest =>
    let args := s.entry.fillArgs s.args
    (s.entry.predicate v args c).bind fun answer =>
      match answer with
      | .error crash => .done (.error (s.crashFault c crash))
      | .ok answer =>
        let o : Outcome := { rule := s.entry.name, args, passed := answer.truthy }
        if !o.passed && halts s then .done (.ok [o])
        else (runSteps halts v c rest).map fun more => more.map (o :: ·)

/-- Shows a report where that is switched on; output is taken to succeed. -/
def showReport (c : Context) (report : Report) : Routine (Except Fault Report) :=
  if c.config.verbose then
    .emit (.traced (Display.traceText (report.text c.shownName))) (.done (.ok report))
  else .done (.ok report)

/-- Evaluates a specification; `halts` says at which failures the evaluation ends. -/
def evaluateWith (halts : Step → Bool) (r : Registry) (spec : Spec) (v : Value) (c : Context) :
    Routine (Except Fault Report) :=
  if spec.rules.isEmpty then .done (.ok {})
  else
    let c := c.about v
    match r.plan spec v with
    | .error fault => .done (.error fault)
    | .ok steps =>
      (runSteps halts v c steps).bind fun outcomes =>
        match outcomes with
        | .error fault => .done (.error fault)
        | .ok outcomes => showReport c { outcomes }

/-- Every outcome, up to a failure that stops. -/
def collect (r : Registry) (spec : Spec) (v : Value) (c : Context) :
    Routine (Except Fault Report) :=
  evaluateWith Step.stops r spec v c

/-- The first failure. -/
def evaluate (r : Registry) (spec : Spec) (v : Value) (c : Context) :
    Routine (Except Fault Result) :=
  (evaluateWith (fun _ => true) r spec v c).map fun report => report.map Report.firstFailure

/-- Reads a specification and evaluates it. -/
def validate (r : Registry) (spec : Value) (v : Value) (c : Context) :
    Routine (Except Fault Result) :=
  match Spec.ofValue spec with
  | .error fault => .done (.error (.spec fault))
  | .ok spec => evaluate r spec v c

end FieldCheck
