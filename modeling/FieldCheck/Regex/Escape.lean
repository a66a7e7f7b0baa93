import FieldCheck.Regex.Group
import FieldCheck.Text.Digit

/-!
# Escapes

A backslash gives the character behind it another meaning, or takes its meaning away.

* `classOf?`, `controlOf?`, `anchorOf?` — letters that stand for a class, a control character or a
  place.
* `numberedChar`, `octalChar` — characters by number.
* `escape`, `setEscape` — an escape outside and inside a set.
-/

set_option autoImplicit false

namespace FieldCheck.Regex

open Text

/-- Hexadecimal digits. -/
def isHexDigit (c : Char) : Bool := (digitIn? 16 c).isSome

/-- Octal digits. -/
def isOctalDigit (c : Char) : Bool := (digitIn? 8 c).isSome

/-- The number that digits write in their base. -/
def inBase (base : Nat) (ds : List Char) : Nat := (numberIn? base ds).getD 0

/-- The classes that a letter behind a backslash names. -/
def classOf? : Char → Option (CharClass × Bool)
  | 'd' => some (.digit, false)
  | 'D' => some (.digit, true)
  | 's' => some (.space, false)
  | 'S' => some (.space, true)
  | 'w' => some (.word, false)
  | 'W' => some (.word, true)
  | _ => none

/-- The control characters that a letter behind a backslash names. -/
def controlOf? : Char → Option Nat
  | 'a' => some 7
  | 'b' => some 8
  | 'f' => some 12
  | 'n' => some 10
  | 'r' => some 13
  | 't' => some 9
  | 'v' => some 11
  | '\\' => some 92
  | _ => none

/-- The places that a letter behind a backslash names. -/
def anchorOf? : Char → Option Anchor
  | 'A' => some .textStart
  | 'b' => some .boundary
  | 'B' => some .noBoundary
  | 'Z' => some .textEnd
  | _ => none

/-- A character given by a fixed number of hexadecimal digits. -/
def numberedChar (mark : Char) (width : Nat) : Reader Nat := do
  let ds ← takeClass isHexDigit width
  let escape := '\\' :: mark :: ds
  if ds.length ≠ width then fail (.incompleteEscape (String.ofList escape)) escape.length
  else if 0x10ffff < inBase 16 ds then fail (.badEscape (String.ofList escape)) escape.length
  else pure (inBase 16 ds)

/-- A character given by its name; no name is known. -/
def namedChar : Reader Nat := do
  if ← accept '\x7b' then
    let name ← nameUntil '\x7d' "character name"
    fail (.undefinedCharacter (String.ofList name)) (name.length + 4)
  else fail (.missing "\x7b") 0

/-- A character given by digits in base eight. -/
def octalChar (ds : List Char) : Reader Nat := do
  if 0o377 < inBase 8 ds then
    fail (.octalTooLarge (String.ofList ('\\' :: ds))) (ds.length + 1)
  else pure (inBase 8 ds)

/-- The character behind a backslash, where it has no other meaning. -/
def plainEscape (c : Char) : Reader Nat :=
  if c.isAlphanum then fail (.badEscape (String.ofList ['\\', c])) 2
  else pure c.toNat

/-- An escape within a set. -/
def setEscape (c : Char) : Reader SetItem := do
  match controlOf? c, classOf? c with
  | some n, _ => pure (.char n)
  | none, some (cls, negated) => pure (.named cls negated)
  | none, none =>
    if c = 'x' then return .char (← numberedChar c 2)
    else if c = 'u' then return .char (← numberedChar c 4)
    else if c = 'U' then return .char (← numberedChar c 8)
    else if c = 'N' then return .char (← namedChar)
    else if isOctalDigit c then
      let ds ← takeClass isOctalDigit 2
      return .char (← octalChar (c :: ds))
    else return .char (← plainEscape c)

/-- A reference to a group by its number. -/
def numberedReference (ds : List Char) : Reader Node := do
  let s ← get
  let group := inBase 10 ds
  if s.groups.size ≤ group then fail (.invalidReference group) ds.length
  else if !s.isClosed group then fail .openGroup (ds.length + 1)
  else
    checkLookGroup group
    pure (.reference group)

/-- A digit behind a backslash: a character in base eight or a reference to a group. -/
def digitEscape (c : Char) : Reader Node := do
  if c = '0' then
    let ds ← takeClass isOctalDigit 2
    return .char (inBase 8 (c :: ds)) false
  else
    match ← takeClass Char.isDigit 1 with
    | [d] =>
      if isOctalDigit c && isOctalDigit d then
        match ← takeClass isOctalDigit 1 with
        | [e] => return .char (← octalChar [c, d, e]) false
        | _ => numberedReference [c, d]
      else numberedReference [c, d]
    | _ => numberedReference [c]

/-- An escape outside a set. -/
def escape (c : Char) : Reader Node := do
  match anchorOf? c, classOf? c, controlOf? c with
  | some place, _, _ => pure (.anchor place)
  | none, some (cls, negated), _ => pure (.set [.named cls negated] false)
  | none, none, some n => pure (.char n false)
  | none, none, none =>
    if c = 'x' then return .char (← numberedChar c 2) false
    else if c = 'u' then return .char (← numberedChar c 4) false
    else if c = 'U' then return .char (← numberedChar c 8) false
    else if c = 'N' then return .char (← namedChar) false
    else if c.isDigit then digitEscape c
    else return .char (← plainEscape c) false

end FieldCheck.Regex
