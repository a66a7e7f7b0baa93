import FieldCheck.Registry.Basic
import FieldCheck.Spec.Fault

/-!
# Faults of an evaluation

A failing value is an outcome.  A fault says that the rules were set up wrongly or that one of them
crashed.

* `FaultKind` — the families of faults, with their default messages; `FaultKind.plain` is for what is
  raised outside of these families, which has neither details nor a cause.
* `FaultRecord` — a fault as others see it: family, message, details and cause.
* `Fault` — the causes, with `Fault.record`.
-/

set_option autoImplicit false

namespace FieldCheck

/-- The families of faults. -/
inductive FaultKind where
  | general
  | parse
  | unknownRule
  | execution
  | configuration
  | plain (kind : CrashKind)
  deriving DecidableEq, Repr

namespace FaultKind

/-- The name of a family. -/
def name : FaultKind → String
  | .general => "FormrulesError"
  | .parse => "ParseError"
  | .unknownRule => "UnknownRuleError"
  | .execution => "RuleExecutionError"
  | .configuration => "ConfigurationError"
  | .plain kind => kind.name

/-- The message of a fault of which nothing else is said. -/
def defaultMessage : FaultKind → String
  | .general => "formrules error"
  | .parse => "Malformed rule specification"
  | .unknownRule => "Unknown rule"
  | .execution => "Rule execution failed"
  | .configuration => "Invalid configuration"
  | .plain _ => ""

/-- The family of a name. -/
def ofName? (s : String) : Option FaultKind :=
  [general, parse, unknownRule, execution, configuration].find? fun k => k.name == s

end FaultKind

/-- A fault as others see it. -/
structure FaultRecord where
  kind : FaultKind
  message : String
  details : List (Value × Value) := []
  cause : Option Crash := none

namespace FaultRecord

/-- A record; a missing or empty message is replaced by that of the family. -/
def make (kind : FaultKind) (message : Option String) (details : List (Value × Value))
    (cause : Option Crash) : FaultRecord :=
  { kind, message := (Context.filled message).getD kind.defaultMessage, details, cause }

/-- A record as it is written in messages. -/
def literalText (f : FaultRecord) : String :=
  f.kind.name ++ "(" ++ Text.quotedString f.message ++ ", details=" ++
    (Value.dict f.details).literalText ++ ")"

end FaultRecord

/-- Why an evaluation gave no outcome. -/
inductive Fault where
  | spec (fault : SpecFault)
  | unknownRule (name : String) (available : List String)
  | optionalRequired (rules : List String)
  | setup (fault : SetupFault)
  | execution (rule written : String) (args : List String) (field : Option String) (cause : Crash)
  /-- A rule crashed, and one of its arguments is not written out for the report of the crash. -/
  | unwritten (rule written : String) (cause : Crash) (obstacle : Obstacle)
  deriving DecidableEq, Repr

namespace Fault

/-- The family of a setup that was refused; a policy that does not exist is a bad value. -/
def setupKind : SetupFault → FaultKind
  | .unknownPolicy _ => .plain .value
  | _ => .configuration

/-- Details that have texts as keys. -/
def textKeys (values : Values) : List (Value × Value) := values.map fun p => (.text p.1, p.2)

/-- A fault as others see it. -/
def record : Fault → FaultRecord
  | .spec fault => { kind := .parse, message := fault.message, details := textKeys fault.details }
  | .unknownRule name available =>
    { kind := .unknownRule
      message := "Rule '" ++ name ++ "' not registered"
      details := textKeys [("name", .text name), ("available", .list (available.map Value.text))] }
  | .optionalRequired rules =>
    { kind := .configuration
      message := "An optional rule cannot be combined with a required-class rule"
      details := textKeys [("rules", .list (rules.map Value.text))] }
  | .setup fault =>
    { kind := setupKind fault, message := fault.message, details := textKeys fault.details }
  | .execution rule written args field cause =>
    { kind := .execution
      message := "Rule '" ++ rule ++ "' failed to execute: " ++ cause.message
      details := textKeys
        [("rule", .text rule), ("written_as", .text written),
          ("args", .list (args.map Value.text)), ("field", field.elim .absent Value.text)]
      cause := some cause }
  | .unwritten _ _ _ obstacle => { kind := .plain obstacle.kind, message := obstacle.text }

end Fault

end FieldCheck
