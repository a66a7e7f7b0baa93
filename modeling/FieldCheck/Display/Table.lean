import FieldCheck.Display.Markup
import FieldCheck.Display.Wrap
import FieldCheck.Evaluation.Outcome
import FieldCheck.Number.Double

/-!
# Reports as tables

A report is shown as a table with a frame and, above it, the label as a title.  A table that is
too wide takes columns from its widest columns first.

* `Column` — a column: its head, its cells, and the side on which they stand.
* `textWidth` — the columns that a text needs.
* `tableWidths` — the widths of the columns of a table.
* `Report.tableText` — the report as a table.
-/

set_option autoImplicit false

-- a sum starts at the numeral zero, not at that of a semiring
attribute [local instance (1100)] Zero.ofOfNat0

namespace FieldCheck.Display

open Text

/-- A column of a table. -/
structure Column where
  head : List Char
  cells : List (List Char)
  alignment : Alignment := .left

/-- All cells of a column, the head first. -/
def Column.all (c : Column) : List (List Char) := c.head :: c.cells

/-- The characters that end a line. -/
def endsLine (c : Char) : Bool :=
  (10 ≤ c.toNat && c.toNat ≤ 13) || (28 ≤ c.toNat && c.toNat ≤ 30) ||
    [0x85, 0x2028, 0x2029].contains c.toNat

/-- The columns of the longest line; `used` are those of the line so far. -/
def longestLine : Nat → List Char → Nat
  | used, [] => used
  | used, c :: rest =>
    if endsLine c then max used (longestLine 0 rest) else longestLine (used + charColumns c) rest

/-- The columns that a text needs. -/
def textWidth (s : List Char) : Nat := longestLine 0 s

/-- The spaces to the left and right of a cell. -/
def margins : Nat := 2

/-- The columns of a cell with its margins, at most so many. -/
def cellWidth (limit : Nat) (s : List Char) : Nat :=
  if limit ≤ margins then limit else min limit (min limit (textWidth s) + margins)

/-- The columns that a column takes, at most so many. -/
def Column.width (limit : Nat) (c : Column) : Nat :=
  (c.all.map (cellWidth limit)).foldl max 0

/-- Takes `excess` off the chosen widths in equal shares, at most `most` off each; `shares` is the
number of chosen widths. -/
def takeShares (chosen : Nat → Bool) (most : Nat → Nat) : Nat → Nat → List Nat → List Nat
  | _, _, [] => []
  | excess, shares, w :: rest =>
    if chosen w then
      let n := min (most w) (Double.roundedQuotient excess shares)
      (w - n) :: takeShares chosen most (excess - n) (shares - 1) rest
    else w :: takeShares chosen most excess shares rest

/-- The same, with the number of shares counted. -/
def reduceWidths (chosen : Nat → Bool) (most : Nat → Nat) (excess : Nat) (widths : List Nat) :
    List Nat :=
  takeShares chosen most excess (widths.countP chosen) widths

/-- Brings the widest columns down to the next ones until the widths fit; each round takes off at
least one column. -/
def collapse (limit : Nat) : Nat → List Nat → List Nat
  | 0, widths => widths
  | n + 1, widths =>
    let excess := widths.sum - limit
    let top := widths.foldl max 0
    let second := (widths.filter (· ≠ top)).foldl max 0
    if excess = 0 || top = second then widths
    else
      collapse limit n
        (reduceWidths (· == top) (fun _ => min excess (top - second)) excess widths)

/-- The widths of the columns of a table, which together have at most so many columns. -/
def tableWidths (limit : Nat) (columns : List Column) : List Nat :=
  let widths := columns.map fun c => max 1 (c.width limit)
  if widths.sum ≤ limit then widths
  else
    let widths := collapse limit widths.sum widths
    let widths :=
      if widths.sum ≤ limit then widths
      else reduceWidths (· ≠ 0) id (widths.sum - limit) widths
    (columns.zip widths).map fun p => p.1.width p.2

/-- The lines of a cell with its margins; a cell without room has none. -/
def cellLines (a : Alignment) (width : Nat) (s : List Char) : List (List Char) :=
  if width ≤ margins then []
  else (alignText a (width - margins) .ellipsis s).map fun line => ' ' :: line ++ [' ']

/-- Fills up the lines of a cell to a number of lines, above or below. -/
def fillLines (above : Bool) (height width : Nat) (lines : List (List Char)) : List (List Char) :=
  let blank := List.replicate (height - lines.length) (spaces width)
  if above then blank ++ lines else lines ++ blank

/-- The columns of the frame of a table. -/
def frameWidth (columns : List Column) : Nat := columns.length + 1

/-- Parts between two ends. -/
def framed (left divider right : Char) (parts : List (List Char)) : List Char :=
  left :: [divider].intercalate parts ++ [right]

/-- A line of the frame. -/
def rule (left divider right : Char) (widths : List Nat) : List Char :=
  framed left divider right (widths.map fun w => List.replicate w '─')

/-- The lines of one row: a cell, its width and its side for each column. -/
def rowLines (isHead : Bool) (cells : List (List Char × Nat × Alignment)) : List (List Char) :=
  let blocks := cells.map fun (s, width, a) => (cellLines a width s, width)
  let height := max 1 ((blocks.map fun b => b.1.length).foldl max 0)
  let filled := blocks.map fun (lines, width) => fillLines isHead height width lines
  (List.range height).map fun n => framed '│' '│' '│' (filled.map fun lines => lines.getD n [])

/-- The cells of a row of the columns. -/
def rowCells (columns : List Column) (widths : List Nat) (n : Nat) :
    List (List Char × Nat × Alignment) :=
  (columns.zip widths).map fun (c, w) => (c.all.getD n [], w, c.alignment)

/-- The lines of a table of so many rows. -/
def tableLines (columns : List Column) (rows : Nat) (widths : List Nat) : List (List Char) :=
  rule '╭' '┬' '╮' widths :: rowLines true (rowCells columns widths 0) ++
    rule '├' '┼' '┤' widths ::
    ((List.range rows).flatMap fun n => rowLines false (rowCells columns widths (n + 1))) ++
    [rule '╰' '┴' '╯' widths]

/-- The columns of a report. -/
def reportColumns (r : Report) : List Column :=
  [{ head := ['#']
     cells := (List.range r.outcomes.length).map fun n => Nat.toDigits 10 (n + 1)
     alignment := .right },
   { head := "rule".toList, cells := r.outcomes.map fun o => plainText o.rule },
   { head := "args".toList
     cells := r.outcomes.map fun o => plainText (String.ofList (argumentRow o.args)) },
   { head := "result".toList, cells := r.outcomes.map fun o => (statusText o.passed).toList }]

/-- The report as a table in so many columns. -/
def reportTable (r : Report) (label : String) (width : Nat) : String :=
  let columns := reportColumns r
  let widths := tableWidths (width - frameWidth columns) columns
  let whole := widths.sum + frameWidth columns
  let title := alignText .centre whole .fold (plainText (if label.isEmpty then "field" else label))
  let lines := title ++ tableLines columns r.outcomes.length widths
  String.ofList (lines.flatMap fun line => truncate width .fold line ++ ['\n'])

end FieldCheck.Display
