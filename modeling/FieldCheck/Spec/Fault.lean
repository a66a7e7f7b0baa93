import FieldCheck.Text.Quoted
import FieldCheck.Value.Basic

/-!
# Malformed specifications

* `RuleFault` — what can be wrong with one rule: no name, a bad name, unmatched brackets.
* `Site` — where a rule stands: in a text, or as an element of a list.
* `SpecFault` — all that can be wrong with a specification, with its `message` and `details`.
-/

set_option autoImplicit false

namespace FieldCheck

/-- What can be wrong with one rule. -/
inductive RuleFault where
  | emptyName
  | invalidName (name : String)
  | unbalanced
  deriving DecidableEq, Repr

/-- Where a rule stands: a text and the number of its segment, or the literal of a list element and
its number. -/
inductive Site where
  | segment (spec : String) (index : Nat)
  | element (literal : String) (index : Nat)
  deriving DecidableEq, Repr

/-- What can be wrong with a specification. -/
inductive SpecFault where
  | rule (fault : RuleFault) (site : Site)
  | emptyElement (index : Nat)
  | severalRules (element : String) (index : Nat)
  | nameKind (kind : String) (index : Nat)
  | elementKind (kind : String) (index : Nat)
  | specKind (kind : String)
  | noForm (rule literal : String)
  deriving DecidableEq, Repr

namespace RuleFault

/-- The wording of a fault. -/
def message : RuleFault → String
  | .emptyName => "Empty rule name"
  | .invalidName name => "Invalid rule name: " ++ Text.quotedString name
  | .unbalanced => "Unbalanced brackets in rule arguments"

/-- A bad name is a detail of its own. -/
def details : RuleFault → Values
  | .invalidName name => [("name", .text name)]
  | _ => []

end RuleFault

/-- The site as details. -/
def Site.details : Site → Values
  | .segment spec index => [("spec", .text spec), ("index", .int index)]
  | .element literal index => [("index", .int index), ("element", .text literal)]

namespace SpecFault

/-- The wording of a fault. -/
def message : SpecFault → String
  | .rule fault _ => fault.message
  | .emptyElement _ => RuleFault.emptyName.message
  | .severalRules .. => "Structured rule element may hold a single rule only"
  | .nameKind kind _ => "Rule name must be a string, got " ++ kind
  | .elementKind kind _ => "Unsupported rule element type: " ++ kind
  | .specKind kind => "Unsupported rule specification type: " ++ kind
  | .noForm name literal =>
    "Argument " ++ literal ++ " of rule '" ++ name ++ "' cannot be written in the string form"

/-- The details of a fault. -/
def details : SpecFault → Values
  | .rule fault site => site.details ++ fault.details
  | .emptyElement index | .nameKind _ index | .elementKind _ index => [("index", .int index)]
  | .severalRules element index => [("index", .int index), ("element", .text element)]
  | .specKind kind => [("type", .text kind)]
  | .noForm name literal => [("rule", .text name), ("arg", .text literal)]

end SpecFault

end FieldCheck
