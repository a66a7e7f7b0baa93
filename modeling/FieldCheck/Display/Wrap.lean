import FieldCheck.Text.Blank
import FieldCheck.Text.Columns
import FieldCheck.Text.Pieces

/-!
# Wrapping lines

Text that is shown in a limited number of columns is broken between words.

* `wordsOf` — the words of a line, each with the blanks behind it; the first one has those in front.
* `breaks` — where a line is broken; a word that is too long for a line is cut if it may be folded.
* `fitColumns` — a text cut or filled up to a number of columns.
* `wrapLine`, `wrapText` — the lines that a line or a whole text becomes.
* `align`, `alignText` — the same, filled up to the columns on one side or on both.
-/

set_option autoImplicit false

namespace FieldCheck.Display

open Text

/-- What happens to a word that is too long for a line. -/
inductive Overflow where
  | fold
  | ellipsis
  deriving DecidableEq, Repr

/-- Cuts a line into words; `closing` holds among the blanks behind a word, `started` from its first
character on. -/
def wordsFrom : Bool → Bool → List Char → List Char → List (List Char)
  | _, started, word, [] => if started then [word.reverse] else []
  | closing, started, word, c :: rest =>
    if isBlank c then wordsFrom started started (c :: word) rest
    else if closing then word.reverse :: wordsFrom false true [c] rest
    else wordsFrom false true (c :: word) rest

/-- The words of a line with the blanks behind them. -/
def wordsOf (line : List Char) : List (List Char) := wordsFrom false false [] line

/-- Cuts a text so that each piece fits into the columns; `used` are taken by the piece so far. -/
def chop (width : Nat) : Nat → List Char → List Char → List (List Char)
  | _, piece, [] => [piece.reverse]
  | used, piece, c :: rest =>
    let n := charColumns c
    if width < used + n then piece.reverse :: chop width n [c] rest
    else chop width (used + n) (c :: piece) rest

/-- The places at which the pieces of a folded word start, and the columns of the last piece. -/
def foldBreaks : Nat → List (List Char) → List Nat × Nat
  | _, [] => ([], 0)
  | start, [piece] => (if start = 0 then [] else [start], columns piece)
  | start, piece :: rest =>
    let (more, last) := foldBreaks (start + piece.length) rest
    (if start = 0 then more else start :: more, last)

/-- Where a line is broken: `start` is the place of the next word, `used` are the columns taken. -/
def breaks (width : Nat) (overflow : Overflow) : Nat → Nat → List (List Char) → List Nat
  | _, _, [] => []
  | start, used, word :: rest =>
    let next := start + word.length
    let long := columns (trimRight word)
    if used + long ≤ width then breaks width overflow next (used + columns word) rest
    else if width < long then
      match overflow with
      | .fold =>
        let (here, last) := foldBreaks start (chop width 0 [] word)
        here ++ breaks width overflow next last rest
      | .ellipsis =>
        (if start = 0 then [] else [start]) ++ breaks width overflow next (columns word) rest
    else if used ≠ 0 && start ≠ 0 then
      start :: breaks width overflow next (columns word) rest
    else breaks width overflow next used rest

/-- Cuts a line at places that are counted from `start`. -/
def cutAt : Nat → List Nat → List Char → List (List Char)
  | _, [], line => [line]
  | start, n :: rest, line => line.take (n - start) :: cutAt n rest (line.drop (n - start))

/-- The longest beginning of a text that fits; half of a wide character leaves a space. -/
def fitFrom : Nat → List Char → List Char
  | _, [] => []
  | 0, _ => []
  | left, c :: rest =>
    let n := charColumns c
    if n ≤ left then c :: fitFrom (left - n) rest else [' ']

/-- A text cut or filled up to a number of columns. -/
def fitColumns (width : Nat) (line : List Char) : List Char :=
  let n := columns line
  if n ≤ width then line ++ List.replicate (width - n) ' ' else fitFrom width line

/-- Drops blanks at the end of a line that has more characters than there are columns. -/
def dropExcess (width : Nat) (line : List Char) : List Char :=
  let blanks := (line.reverse.takeWhile isBlank).length
  line.take (line.length - min blanks (line.length - width))

/-- Cuts a line that is too long. -/
def truncate (width : Nat) (overflow : Overflow) (line : List Char) : List Char :=
  if columns line ≤ width then line
  else
    match overflow with
    | .fold => fitColumns width line
    | .ellipsis => fitColumns (width - 1) line ++ ['…']

/-- Replaces tabs by spaces up to the next of every eight columns. -/
def expandTabs : Nat → List Char → List Char
  | _, [] => []
  | used, c :: rest =>
    if c = '\t' then
      let n := 8 - used % 8
      List.replicate n ' ' ++ expandTabs (used + n) rest
    else c :: expandTabs (used + charColumns c) rest

/-- The pieces that a line is broken into. -/
def brokenLine (width : Nat) (overflow : Overflow) (line : List Char) : List (List Char) :=
  let line := expandTabs 0 line
  (cutAt 0 (breaks width overflow 0 0 (wordsOf line)) line).map (dropExcess width)

/-- The lines that a line becomes. -/
def wrapLine (width : Nat) (overflow : Overflow) (line : List Char) : List (List Char) :=
  (brokenLine width overflow line).map (truncate width overflow)

/-- On which side a line is filled up with spaces. -/
inductive Alignment where
  | left
  | right
  | centre
  deriving DecidableEq, Repr

/-- Spaces. -/
def spaces (n : Nat) : List Char := List.replicate n ' '

/-- A line cut or filled up to the columns. -/
def align (a : Alignment) (width : Nat) (overflow : Overflow) (line : List Char) : List Char :=
  match a with
  | .left =>
    let line := truncate width overflow line
    line ++ spaces (width - columns line)
  | .right =>
    let line := truncate width overflow (trimRight line)
    spaces (width - columns line) ++ line
  | .centre =>
    let line := truncate width overflow (trimRight line)
    let left := (width - columns line) / 2
    spaces left ++ line ++ spaces (width - left - columns line)

/-- The lines that a text becomes. -/
def wrapText (width : Nat) (overflow : Overflow) (text : List Char) : List (List Char) :=
  (pieces '\n' text).flatMap (wrapLine width overflow)

/-- The lines that a text becomes, each with exactly the columns. -/
def alignText (a : Alignment) (width : Nat) (overflow : Overflow) (text : List Char) :
    List (List Char) :=
  (pieces '\n' text).flatMap fun line => (brokenLine width overflow line).map (align a width overflow)

end FieldCheck.Display
