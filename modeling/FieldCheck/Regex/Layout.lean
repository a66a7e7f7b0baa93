import FieldCheck.Regex.Scan

/-!
# Blanks and comments inside patterns

* `isLayout` — the blanks that the spread-out layout skips.
* `skipComment`, `skipGroupComment` — skip up to a line feed, and up to a closing parenthesis.
-/

set_option autoImplicit false

namespace FieldCheck.Regex

/-- Characters that do not count in the spread-out layout. -/
def isLayout (c : Char) : Bool := c = ' ' || (9 ≤ c.toNat && c.toNat ≤ 13)

/-- Skips a comment of the spread-out layout. -/
def skipComment : Nat → Reader Unit
  | 0 => pure ()
  | fuel + 1 => do
    match ← take with
    | none => pure ()
    | some t => if t = ['\n'] then pure () else skipComment fuel

/-- Skips a comment in a group that began at `start`. -/
def skipGroupComment (start : Nat) : Nat → Reader Unit
  | 0 => pure ()
  | fuel + 1 => do
    match ← peek with
    | none => do
      let s ← get
      fail .unterminatedComment (s.tell - start)
    | some _ =>
      if (← take) = some [')'] then pure () else skipGroupComment start fuel

end FieldCheck.Regex
