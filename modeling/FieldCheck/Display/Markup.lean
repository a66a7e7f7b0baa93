import FieldCheck.Display.Picture

/-!
# Texts with brackets

A name in square brackets could be taken for a style.  A text that is only to be shown keeps such
names, with every backslash in front of them; in front of any other opening bracket one backslash
is dropped, and a single backslash at the end of the text is shown twice.

* `takeTag` — a name in brackets at the start of a text.
* `tagPieces` — a text cut around its names in brackets.
* `plainText` — a text as it is shown.
-/

set_option autoImplicit false

namespace FieldCheck.Display

/-- The characters that may follow an opening bracket in a name. -/
def startsTag (c : Char) : Bool := c.isLower || c = '#' || c = '/' || c = '@'

/-- The text up to a closing bracket, if no opening one comes first, and the text behind it. -/
def takeClosed : List Char → Option (List Char × List Char)
  | [] => none
  | c :: rest =>
    if c = ']' then some ([c], rest)
    else if c = '[' then none
    else (takeClosed rest).map fun (inside, after) => (c :: inside, after)

/-- A name in brackets at the start of a text, and the text behind it. -/
def takeTag : List Char → Option (List Char × List Char)
  | '[' :: c :: rest =>
    if startsTag c then (takeClosed rest).map fun (inside, after) => ('[' :: c :: inside, after)
    else none
  | _ => none

/-- A piece of a text. -/
inductive Piece where
  | between (s : List Char)
  | tag (s : List Char)

/-- Cuts a text around its names in brackets and the backslashes in front of them; `before` is the
text since the last name, reversed, and `skip` the number of characters of a name still to pass. -/
def tagPieces : List Char → Nat → List Char → List Piece
  | before, _, [] => [.between before.reverse]
  | before, skip + 1, _ :: rest => tagPieces before skip rest
  | before, 0, c :: rest =>
    match takeTag (c :: rest) with
    | some (tag, _) =>
      let slashes := before.takeWhile (· == '\\')
      .between (before.drop slashes.length).reverse :: .between slashes :: .tag tag ::
        tagPieces [] (tag.length - 1) rest
    | none => tagPieces (c :: before) 0 rest

/-- Drops a backslash in front of each opening bracket. -/
def dropSlashes : List Char → List Char
  | '\\' :: '[' :: rest => '[' :: dropSlashes rest
  | c :: rest => c :: dropSlashes rest
  | [] => []

/-- A piece as it is shown. -/
def Piece.text : Piece → List Char
  | .between s => shownText (dropSlashes s)
  | .tag s => shownText s

/-- Writes a single backslash at the end of a text twice. -/
def doubleLast (s : List Char) : List Char :=
  match s.reverse with
  | '\\' :: '\\' :: _ => s
  | '\\' :: _ => s ++ ['\\']
  | _ => s

/-- A text as it is shown. -/
def plainText (s : String) : List Char := (tagPieces [] 0 (doubleLast s.toList)).flatMap Piece.text

end FieldCheck.Display
