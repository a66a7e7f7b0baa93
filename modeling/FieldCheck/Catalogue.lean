import FieldCheck.Text.Quoted

/-!
# The catalogue

Applications find the parts of the library by name.

* `offeredNames` — the names of what the library offers, sorted.
* `sectionNames` — the names of its sections.
* `isOffered`, `missingText` — whether there is something under a name, and what is said if not.
-/

set_option autoImplicit false

namespace FieldCheck.Catalogue

/-- The names of what the library offers. -/
def offeredNames : List String :=
  ["ALL_PASSED", "ConfigurationError", "DefaultMessages", "EmptyPolicy", "EvaluationContext",
    "FieldRules", "FormValidator", "FormrulesError", "MessageResolver", "ParseError", "ParsedRule",
    "RuleEntry", "RuleExecutionError", "RuleOutcome", "RuleRegistry", "RuleSpec",
    "UnknownRuleError", "ValidationReport", "ValidationResult", "ValidatorConfig", "evaluate",
    "evaluate_all", "get_default_registry", "is_empty", "lookup", "parse", "register",
    "reset_default_registry", "rule", "to_dsl", "validate", "validate_sync"]

/-- The names of the sections of the library. -/
def sectionNames : List String := ["config", "errors", "form", "messages", "rules", "utils"]

/-- Whether there is something under a name. -/
def isOffered (name : String) : Bool := offeredNames.contains name || sectionNames.contains name

/-- What is said of a name under which there is nothing. -/
def missingText (name : String) : String :=
  "module 'formrules' has no attribute " ++ Text.quotedString name

end FieldCheck.Catalogue
