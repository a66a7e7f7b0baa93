import FieldCheck.Text.Case

/-!
# Names of rules

* `isName` — a letter or low line of ASCII, then letters, digits and low lines.
* `isNameLine` — a name, or a name with one line feed behind it.
* `snakeCase` — a low line before each capital that follows a small letter or a digit, and then all
  in lower case: `endsWith` becomes `ends_with`.
-/

set_option autoImplicit false

namespace FieldCheck

open Text

/-- The characters that a name may start with. -/
def startsName (c : Char) : Bool := c.isAlpha || c = '_'

/-- The characters that a name may go on with. -/
def continuesName (c : Char) : Bool := startsName c || c.isDigit

/-- Whether a text is a name. -/
def isName : List Char → Bool
  | [] => false
  | c :: rest => startsName c && rest.all continuesName

/-- Whether a text is a name, a last line feed aside. -/
def isNameLine (s : List Char) : Bool :=
  isName s || (s.getLast? == some '\n' && isName s.dropLast)

/-- Whether a low line goes before a capital that follows this character. -/
def opensWord (c : Char) : Bool := c.isLower || c.isDigit

/-- The name with low lines between its words; `inWord` is set after a small letter or a digit. -/
def separateWords : Bool → List Char → List Char
  | _, [] => []
  | inWord, c :: rest =>
    (if inWord && c.isUpper then ['_', c] else [c]) ++ separateWords (opensWord c) rest

/-- The name in lower case with low lines between its words. -/
def snakeCase (s : List Char) : List Char := lower (separateWords false s)

/-- The same on strings. -/
def snakeString (s : String) : String := String.ofList (snakeCase s.toList)

end FieldCheck
