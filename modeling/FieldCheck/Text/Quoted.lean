import FieldCheck.Text.Printable

/-!
# Quoted text

* `quoted` — a text between quotes: single quotes, unless it holds a single quote and no double
  one.  The quote in use and the backslash are escaped, so are tab, line feed and carriage return,
  and every other character that is not printable is written by its number in lower-case
  hexadecimal.
* `quotedBytes` — the same for bytes, of which only the printable ASCII ones stand for themselves.
* `asciiOnly` — quoted text with the characters beyond ASCII written by number as well.
-/

set_option autoImplicit false

namespace FieldCheck.Text

/-- A hexadecimal digit. -/
def hexDigit (n : Nat) : Char :=
  if n < 10 then Char.ofNat (48 + n) else Char.ofNat (87 + n)

/-- The last `width` hexadecimal digits of a number. -/
def hexDigits : Nat → Nat → List Char
  | 0, _ => []
  | width + 1, n => hexDigits width (n / 16) ++ [hexDigit (n % 16)]

/-- A code point written by its number. -/
def numbered (n : Nat) : List Char :=
  if n < 0x100 then '\\' :: 'x' :: hexDigits 2 n
  else if n < 0x10000 then '\\' :: 'u' :: hexDigits 4 n
  else '\\' :: 'U' :: hexDigits 8 n

/-- One character between quotes. -/
def quotedChar (quote c : Char) : List Char :=
  if c = quote || c = '\\' then ['\\', c]
  else if c = '\t' then ['\\', 't']
  else if c = '\n' then ['\\', 'n']
  else if c = '\r' then ['\\', 'r']
  else if isPrintable c then [c]
  else numbered c.toNat

/-- The quote that a text gets. -/
def quoteFor (s : List Char) : Char :=
  if s.contains '\'' && !s.contains '"' then '"' else '\''

/-- A text between quotes. -/
def quoted (s : List Char) : List Char :=
  let q := quoteFor s
  q :: (s.flatMap (quotedChar q) ++ [q])

/-- The same on strings. -/
def quotedString (s : String) : String := String.ofList (quoted s.toList)

/-- One byte between quotes. -/
def quotedByte (quote : Char) (b : Nat) : List Char :=
  let c := Char.ofNat b
  if 32 ≤ b && b < 127 then if c = quote || c = '\\' then ['\\', c] else [c]
  else if c = '\t' then ['\\', 't']
  else if c = '\n' then ['\\', 'n']
  else if c = '\r' then ['\\', 'r']
  else '\\' :: 'x' :: hexDigits 2 b

/-- Bytes between quotes, with their mark in front. -/
def quotedBytes (bs : List Nat) : List Char :=
  let q := quoteFor (bs.map Char.ofNat)
  'b' :: q :: (bs.flatMap (quotedByte q) ++ [q])

/-- A text with the characters beyond ASCII written by number. -/
def asciiOnly (s : List Char) : List Char :=
  s.flatMap fun c => if c.toNat < 128 then [c] else numbered c.toNat

end FieldCheck.Text
