import FieldCheck.Display.Picture
import FieldCheck.Display.Wrap

/-!
# Traces

* `traceText` — a text as a trace shows it, wrapped to eighty columns.
-/

set_option autoImplicit false

namespace FieldCheck.Display

/-- The columns of a trace. -/
def traceWidth : Nat := 80

/-- A text as a trace shows it. -/
def traceText (s : String) : String :=
  String.ofList ((wrapText traceWidth .fold (shownText s.toList)).flatMap (· ++ ['\n']))

end FieldCheck.Display
