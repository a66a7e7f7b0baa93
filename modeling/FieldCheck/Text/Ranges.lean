/-!
# Ranges of code points

* `Ranges` — a class of characters as a list of closed intervals of code points, in rising order.
* `Ranges.holds` — membership; the walk ends at the first interval that lies above the code point.
-/

set_option autoImplicit false

namespace FieldCheck.Text

/-- Closed intervals of code points, in rising order. -/
abbrev Ranges := List (Nat × Nat)

/-- Whether a code point lies in one of the intervals. -/
def Ranges.holds : Ranges → Nat → Bool
  | [], _ => false
  | (low, high) :: rest, n =>
    if n < low then false else if n ≤ high then true else Ranges.holds rest n

end FieldCheck.Text
