import FieldCheck.Rule.Choice

/-!
# E-mail addresses

* `addressPattern` — the regular expression of an address: a local part, which is made of runs of
  characters joined by dots or is quoted, an at sign, and a domain of at least two such runs.
* `email` — the rule.
-/

set_option autoImplicit false

namespace FieldCheck.Rules

/-- The regular expression of an address. -/
def addressPattern : Regex.Pattern where
  source :=
    "^(([^<>()\\[\\].,;:\\s@\"]+(\\.[^<>()\\[\\].,;:\\s@\"]+)*)|(\".+\"))" ++
      "@(([^<>()\\[\\].,;:\\s@\"]+\\.)+[^<>()\\[\\].,;:\\s@\"]\x7b2,\x7d)$"
  flags := { ignoreCase := true }

/-- A text that the expression matches from its start on. -/
def email : Check := fun v _ _ =>
  match v with
  | .text s =>
    (readPattern addressPattern).map fun program => (program.matchAt s.toList.toArray 0).isSome
  | _ => .ok false

end FieldCheck.Rules
