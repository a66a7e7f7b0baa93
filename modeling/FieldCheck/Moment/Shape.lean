import FieldCheck.Text.Digit

/-!
# Shapes of dates

A shape such as `MM/DD/YYYY` says where digits stand, not which days exist.

* `ShapePart` — four or two digits, a month or a day with or without a leading zero, or a fixed
  character.
* `shapeParts` — a shape cut from left to right, the longest token at each place.
* `fits` — whether a text splits into pieces that fit the parts.
* `shapePattern` — the shape as a regular expression, with its fixed characters escaped.
-/

set_option autoImplicit false

namespace FieldCheck

open Text

/-- A part of a shape. -/
inductive ShapePart where
  | digits (count : Nat)
  | paddedMonth
  | month
  | paddedDay
  | day
  | fixed (c : Char)
  deriving DecidableEq, Repr

/-- The parts of a shape. -/
def shapeParts : List Char → List ShapePart
  | 'Y' :: 'Y' :: 'Y' :: 'Y' :: rest => .digits 4 :: shapeParts rest
  | 'Y' :: 'Y' :: rest => .digits 2 :: shapeParts rest
  | 'M' :: 'M' :: rest => .paddedMonth :: shapeParts rest
  | 'D' :: 'D' :: rest => .paddedDay :: shapeParts rest
  | 'M' :: rest => .month :: shapeParts rest
  | 'D' :: rest => .day :: shapeParts rest
  | c :: rest => .fixed c :: shapeParts rest
  | [] => []

/-- The rest after `count` digits. -/
def afterDigits : Nat → List Char → List (List Char)
  | 0, s => [s]
  | _ + 1, [] => []
  | n + 1, c :: rest => if isDecimalDigit c then afterDigits n rest else []

/-- The rest after two ASCII digits that write a number from 1 to `top`. -/
def afterPadded (top : Nat) : List Char → List (List Char)
  | a :: b :: rest =>
    if (numberIn? 10 [a, b]).any fun n => 1 ≤ n && n ≤ top then [rest] else []
  | _ => []

/-- The rests after a number from 1 to `top` without a leading zero. -/
def afterPlain (top : Nat) (s : List Char) : List (List Char) :=
  match s with
  | a :: rest =>
    if '1' ≤ a && a ≤ '9' then
      rest :: (if (afterPadded top s).isEmpty then [] else afterPadded top s)
    else []
  | [] => []

/-- The rests after one part. -/
def ShapePart.rests : ShapePart → List Char → List (List Char)
  | .digits n, s => afterDigits n s
  | .paddedMonth, s => afterPadded 12 s
  | .month, s => afterPlain 12 s
  | .paddedDay, s => afterPadded 31 s
  | .day, s => afterPlain 31 s
  | .fixed c, s =>
    match s with
    | d :: rest => if c = d then [rest] else []
    | [] => []

/-- Whether a text splits into pieces that fit the parts. -/
def fits : List ShapePart → List Char → Bool
  | [], s => s.isEmpty
  | p :: ps, s => (p.rests s).any fun rest => fits ps rest

/-- The characters that a regular expression needs escaped to stand for themselves. -/
def needsEscape : List Char :=
  "#$&()*+-.?[\\]^\x7b|\x7d~ \t\n\r\x0b\x0c".toList

/-- A character that stands for itself in a regular expression. -/
def escaped (c : Char) : List Char := if needsEscape.contains c then ['\\', c] else [c]

/-- One part as a regular expression. -/
def ShapePart.pattern : ShapePart → List Char
  | .digits n => "\\d\x7b".toList ++ Nat.toDigits 10 n ++ ['}']
  | .paddedMonth => "(0[1-9]|1[0-2])".toList
  | .month => "([1-9]|1[0-2])".toList
  | .paddedDay => "(0[1-9]|[12][0-9]|3[01])".toList
  | .day => "([1-9]|[12][0-9]|3[01])".toList
  | .fixed c => escaped c

/-- The shape as a regular expression. -/
def shapePattern (s : List Char) : String :=
  String.ofList ((shapeParts s).flatMap ShapePart.pattern)

end FieldCheck
