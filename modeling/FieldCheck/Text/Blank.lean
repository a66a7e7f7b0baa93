import FieldCheck.Text.Ranges

/-!
# Blanks and trimming

* `isBlank` — the characters that count as blank: tab to carriage return, the four separators
  from 28 to 31, the space, next line, the no-break space and the spaces and separators of the
  Unicode space classes.  The zero-width space and the byte order mark are not blank.
* `trimLeft`, `trimRight`, `trim` — a text without its outer blanks.
-/

set_option autoImplicit false

namespace FieldCheck.Text

/-- The blank characters. -/
def blankRanges : Ranges :=
  [
    (9, 13), (28, 32), (133, 133), (160, 160), (5760, 5760), (8192, 8202), (8232, 8233),
    (8239, 8239), (8287, 8287), (12288, 12288)]

/-- Whether a character is blank. -/
def isBlank (c : Char) : Bool := blankRanges.holds c.toNat

/-- Drops the blanks in front. -/
def trimLeft (s : List Char) : List Char := s.dropWhile isBlank

/-- Drops the blanks at the end. -/
def trimRight (s : List Char) : List Char := (s.reverse.dropWhile isBlank).reverse

/-- Drops the blanks on both sides. -/
def trim (s : List Char) : List Char := trimRight (trimLeft s)

/-- The same on strings. -/
def trimString (s : String) : String := String.ofList (trim s.toList)

end FieldCheck.Text
