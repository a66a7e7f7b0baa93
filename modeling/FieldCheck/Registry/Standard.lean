import FieldCheck.Rule.Address
import FieldCheck.Rule.Choice
import FieldCheck.Rule.Dates
import FieldCheck.Rule.Email
import FieldCheck.Rule.Files
import FieldCheck.Rule.Letters
import FieldCheck.Rule.Presence
import FieldCheck.Rule.Size

/-!
# The rules that are always there

* `standardRules` — the rules of the library with their defaults and policies.
* `Registry.addStandard` — registers them one after the other.
* `Registry.standard` — a registry that has just these.
-/

set_option autoImplicit false

namespace FieldCheck

/-- A rule of the library. -/
structure StandardRule where
  name : String
  check : Check
  defaults : List Value := []
  policy : Policy := .skip

/-- The rules of the library. -/
def standardRules : List StandardRule :=
  [{ name := "accepted", check := Rules.accepted, policy := .run },
   { name := "after", check := Rules.after },
   { name := "alpha", check := Rules.alpha, defaults := [.text "default"] },
   { name := "alphanumeric", check := Rules.alphanumeric, defaults := [.text "default"] },
   { name := "bail", check := Rules.mark },
   { name := "before", check := Rules.before },
   { name := "between", check := Rules.between },
   { name := "confirm", check := Rules.confirm },
   { name := "date", check := Rules.date },
   { name := "email", check := Rules.email },
   { name := "ends_with", check := Rules.endsWith },
   { name := "in", check := Rules.oneOf },
   { name := "matches", check := Rules.matchesAny },
   { name := "max", check := Rules.atMost, defaults := [.int 10, .absent] },
   { name := "mime", check := Rules.mime },
   { name := "min", check := Rules.atLeast, defaults := [.int 1, .absent] },
   { name := "not", check := Rules.noneOf },
   { name := "number", check := Rules.number },
   { name := "optional", check := Rules.mark, policy := .bypass },
   { name := "required", check := Rules.required, defaults := [.bool true, .absent], policy := .run },
   { name := "starts_with", check := Rules.startsWith },
   { name := "url", check := Rules.url }]

/-- A rule of the library as it is registered. -/
def StandardRule.registration (override : Bool) (b : StandardRule) : Registration :=
  { name := .text b.name
    candidate := .predicate b.check.predicate
    defaults := b.defaults
    policy := .text b.policy.name
    override }

namespace Registry

/-- Registers the rules of the library; the first that is refused ends the work. -/
def addStandard (r : Registry) (override : Bool) : Registry × Option SetupFault :=
  r.registerAll (standardRules.map (StandardRule.registration override))

/-- A registry with the rules of the library. -/
def standard : Registry := (({} : Registry).addStandard false).1

end Registry

end FieldCheck
