import FieldCheck.Value.Limits

/-!
# Outcomes

* `Outcome` — what one rule answered, with the arguments that it was given.
* `Result` — the first failing outcome, or none.
* `Report` — every outcome of an evaluation, in order; `Report.firstFailure` is its first failure and
  `Report.text` shows it, one line for each rule.
* `Report.format` — that text, or the first obstacle among the arguments.
-/

set_option autoImplicit false

namespace FieldCheck

/-- What one rule answered. -/
structure Outcome where
  rule : String
  args : List Value
  passed : Bool

/-- The first failing outcome, or none. -/
structure Result where
  failure : Option Outcome := none

namespace Result

/-- Whether every rule passed. -/
def passed (r : Result) : Bool := r.failure.isNone

/-- A result as it is written in messages. -/
def literalText (r : Result) : String :=
  match r.failure with
  | none => "ValidationResult(passed)"
  | some o =>
    "ValidationResult(failed=" ++ Text.quotedString o.rule ++ ", args=" ++
      (Value.tuple o.args).literalText ++ ")"

end Result

/-- Every outcome of an evaluation, in order. -/
structure Report where
  outcomes : List Outcome := []

namespace Report

/-- Whether every rule passed. -/
def passed (r : Report) : Bool := r.outcomes.all Outcome.passed

/-- The failing outcomes. -/
def failures (r : Report) : List Outcome := r.outcomes.filter fun o => !o.passed

/-- The first failure. -/
def firstFailure (r : Report) : Result := { failure := r.outcomes.find? fun o => !o.passed }

end Report

/-- How an outcome is shown. -/
def statusText (passed : Bool) : String := if passed then "pass" else "FAIL"

/-- Arguments separated by commas. -/
def argumentRow (args : List Value) : List Char := (", ".toList).intercalate (literals args)

/-- The line of one outcome. -/
def Outcome.line (o : Outcome) : List Char :=
  "  [".toList ++ (statusText o.passed).toList ++ "] ".toList ++ o.rule.toList ++ '(' ::
    argumentRow o.args ++ [')']

/-- The line that says how the field fared. -/
def Report.headline (r : Report) (label : String) : List Char :=
  (if label.isEmpty then "field" else label).toList ++ ": ".toList ++
    (if r.passed then "passed" else "failed").toList

/-- The report as text, one line for each rule. -/
def Report.lines (r : Report) (label : String) : List (List Char) :=
  if r.outcomes.isEmpty then [r.headline label ++ " (no rules evaluated)".toList]
  else r.headline label :: r.outcomes.map Outcome.line

/-- The report as one text. -/
def Report.text (r : Report) (label : String) : String :=
  String.ofList (['\n'].intercalate (r.lines label))

/-- The arguments of all outcomes in order. -/
def Report.args (r : Report) : List Value := r.outcomes.flatMap Outcome.args

/-- The report as one text, where `room` nested calls are granted, or what is in the way of it. -/
def Report.format (r : Report) (label : String) (room : Nat) : Except Obstacle String :=
  match r.args.findSome? (Value.obstacle? room) with
  | some obstacle => .error obstacle
  | none => .ok (r.text label)

end FieldCheck
