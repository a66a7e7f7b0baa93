import FieldCheck.Text.Digit
import FieldCheck.Text.Pieces

/-!
# Numbers as hosts

* `isNumericHost` — whether the last label of a host is a number, so that the whole must be an
  address of four bytes.
* `isFourByteAddress` — numbers in base eight, ten or sixteen, of which the last one fills up the
  bytes that are left.
* `isGroupAddress` — eight groups of hexadecimal digits, of which a run of zeros may be left out and
  the last two may be written as four bytes.
-/

set_option autoImplicit false

-- a power of naturals is that of the numbers themselves, not that of a monoid
attribute [local instance (1100)] instPowNat

namespace FieldCheck.Web

open Text

/-- A number in base ten, or in base sixteen or eight if it is marked so. -/
def partNumber? : List Char → Option Nat
  | [] => none
  | '0' :: 'x' :: ds => numberIn? 16 ds
  | '0' :: 'X' :: ds => numberIn? 16 ds
  | '0' :: d :: ds => numberIn? 8 (d :: ds)
  | ds => numberIn? 10 ds

/-- A list of labels without an empty one at the end. -/
def dropLastEmpty (labels : List (List Char)) : List (List Char) :=
  if labels.getLast? == some [] then labels.dropLast else labels

/-- Whether the last label is a number. -/
def isNumericHost (labels : List (List Char)) : Bool :=
  match (dropLastEmpty labels).getLast? with
  | none => false
  | some label =>
    (!label.isEmpty && label.all Char.isDigit) || (partNumber? label).isSome

/-- Whether labels write an address of four bytes. -/
def isFourByteAddress (labels : List (List Char)) : Bool :=
  let parts := dropLastEmpty labels
  if 4 < parts.length then false
  else
    match parts.mapM partNumber? with
    | none => false
    | some numbers =>
      match numbers.reverse with
      | [] => false
      | last :: front => last < 256 ^ (4 - front.length) && front.all (· < 256)

/-- A number below 256 in base ten without a leading zero. -/
def isByte (ds : List Char) : Bool :=
  match ds with
  | [] => false
  | '0' :: _ :: _ => false
  | ds => ds.all Char.isDigit && ds.length ≤ 3 && (numberIn? 10 ds).any (· < 256)

/-- One to four hexadecimal digits. -/
def isGroup (ds : List Char) : Bool :=
  !ds.isEmpty && ds.length ≤ 4 && ds.all fun c => (digitIn? 16 c).isSome

/-- How many groups a row of parts writes; the last part may be four bytes where that is allowed. -/
def groupCount? (bytesAllowed : Bool) : List (List Char) → Option Nat
  | [] => some 0
  | [part] =>
    if isGroup part then some 1
    else
      let bytes := pieces '.' part
      if bytesAllowed && bytes.length = 4 && bytes.all isByte then some 2 else none
  | part :: rest => if isGroup part then (groupCount? bytesAllowed rest).map (· + 1) else none

/-- The text before and behind the first two colons in a row. -/
def splitGap : List Char → Option (List Char × List Char)
  | ':' :: ':' :: rest => some ([], rest)
  | c :: rest => (splitGap rest).map fun (before, after) => (c :: before, after)
  | [] => none

/-- The parts of a text between colons; an empty text has none. -/
def partsOf (s : List Char) : List (List Char) := if s.isEmpty then [] else pieces ':' s

/-- Whether a text writes an address of eight groups. -/
def isGroupAddress (s : List Char) : Bool :=
  match splitGap s with
  | some (before, after) =>
    match groupCount? false (partsOf before), groupCount? true (partsOf after) with
    | some n, some m => n + m ≤ 7
    | _, _ => false
  | none => groupCount? true (partsOf s) == some 8

end FieldCheck.Web
