/-!
# Switches of a regular expression

* `Regex.Flags` — ASCII classes only, letter case ignored, anchors at every line, a dot that also
  matches a line feed, and a layout in which blanks and comments do not count.
* `Regex.Pattern` — a regular expression as written, with its switches.
-/

set_option autoImplicit false

namespace FieldCheck.Regex

/-- The switches of a regular expression. -/
structure Flags where
  ascii : Bool := false
  ignoreCase : Bool := false
  multiline : Bool := false
  dotAll : Bool := false
  verbose : Bool := false
  deriving DecidableEq, Repr

/-- A regular expression as written. -/
structure Pattern where
  source : String
  flags : Flags := {}
  deriving DecidableEq, Repr

end FieldCheck.Regex
