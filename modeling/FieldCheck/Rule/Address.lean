import FieldCheck.Rule.Check
import FieldCheck.Text.Blank
import FieldCheck.Web.Url

/-!
# Web addresses as values

* `url` — a text without blanks that is a web address with a host.
-/

set_option autoImplicit false

namespace FieldCheck.Rules

open Text

/-- A text without blanks that is a web address with a host. -/
def url : Check := fun v _ _ =>
  .ok (match v with
    | .text s => !s.toList.any isBlank && Web.hasHost s.toList
    | _ => false)

end FieldCheck.Rules
