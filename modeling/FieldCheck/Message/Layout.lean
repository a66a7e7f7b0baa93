import FieldCheck.Message.Fault
import FieldCheck.Text.Digit

/-!
# Layouts of numbers and texts in messages

* `Layout` — fill, alignment, sign, width, separators, precision and type of a replaced field.
* `Layout.read` — reads a layout for a kind of value.
* `Layout.pad`, `Layout.number` — place a text or the parts of a number in the width.
-/

set_option autoImplicit false

-- a power of naturals is that of the numbers themselves, not that of a monoid
attribute [local instance (1100)] instPowNat

namespace FieldCheck.Message

open Text

/-- How a field is laid out. -/
structure Layout where
  fill : Char := ' '
  align : Char
  sign : Option Char := none
  noNegativeZero : Bool := false
  alternate : Bool := false
  width : Nat := 0
  separator : Option Char := none
  precision : Option Nat := none
  type : Char

namespace Layout

/-- The marks of alignment. -/
def isAlign (c : Char) : Bool := c = '<' || c = '>' || c = '=' || c = '^'

/-- The digits at the start of a text as a number, and the rest. -/
def takeNumber (s : List Char) : Except TemplateFault (Option Nat × List Char) :=
  let ds := s.takeWhile isDecimalDigit
  let n := digitsValue 10 (ds.map fun c => (digitValue? c).getD 0)
  if ds.isEmpty then .ok (none, s)
  else if 2 ^ (63 : Nat) ≤ n then .error .hugeNumber
  else .ok (some n, s.drop ds.length)

/-- Fill and alignment, if given, and the rest. -/
def takeAlign : List Char → Option Char × Option Char × List Char
  | f :: a :: rest =>
    if isAlign a then (some f, some a, rest)
    else if isAlign f then (none, some f, a :: rest)
    else (none, none, f :: a :: rest)
  | [a] => if isAlign a then (none, some a, []) else (none, none, [a])
  | [] => (none, none, [])

/-- A character at the start of a text that passes a test, and the rest. -/
def takeOne (test : Char → Bool) : List Char → Option Char × List Char
  | c :: rest => if test c then (some c, rest) else (none, c :: rest)
  | [] => (none, [])

/-- The separator of groups of digits, and the rest. -/
def takeSeparator (s : List Char) : Except TemplateFault (Option Char × List Char) :=
  let (comma, s) := takeOne (· = ',') s
  let (low, s) := takeOne (· = '_') s
  match comma, low, s with
  | some _, some _, _ => .error .bothSeparators
  | none, some _, ',' :: _ => .error .bothSeparators
  | some c, none, s => .ok (some c, s)
  | none, low, s => .ok (low, s)

/-- The precision, and the rest. -/
def takePrecision : List Char → Except TemplateFault (Option Nat × List Char)
  | '.' :: rest =>
    match takeNumber rest with
    | .ok (none, _) => .error .missingPrecision
    | other => other
  | s => .ok (none, s)

/-- Whether digits of a type may be separated. -/
def maySeparate (separator type : Char) : Bool :=
  "defgEG%F\x00".toList.contains type || (separator = '_' && "boxX".toList.contains type)

/-- Reads a layout; `kind` is the kind of value, `type` and `align` are what counts when nothing is
said. -/
def read (kind : String) (type align : Char) (spec : List Char) : Except TemplateFault Layout := do
  let (fill, givenAlign, s) := takeAlign spec
  let (sign, s) := takeOne (fun c => c = '+' || c = '-' || c = ' ') s
  let (zed, s) := takeOne (· = 'z') s
  let (hash, s) := takeOne (· = '#') s
  let (padZero, s) := if fill.isNone then takeOne (· = '0') s else (none, s)
  let (width, s) ← takeNumber s
  let (separator, s) ← takeSeparator s
  let (precision, s) ← takePrecision s
  let type ← match s with
    | [] => pure type
    | [c] => pure c
    | _ => throw (.badSpec (String.ofList spec) kind)
  let align' := givenAlign.getD (if padZero.isSome && align = '>' then '=' else align)
  match separator with
  | some c => if maySeparate c type then pure () else throw (.separatorWith c type)
  | none => pure ()
  pure
    { fill := fill.getD (if padZero.isSome then '0' else ' ')
      align := align'
      sign
      noNegativeZero := zed.isSome
      alternate := hash.isSome
      width := width.getD 0
      separator, precision, type }

/-- Fills a text up to the width. -/
def pad (l : Layout) (s : List Char) : List Char :=
  let n := l.width - s.length
  let left := if l.align = '>' || l.align = '=' then n else if l.align = '^' then n / 2 else 0
  List.replicate left l.fill ++ s ++ List.replicate (n - left) l.fill

/-- Puts a separator between groups of digits, counted from the end; the text is reversed. -/
def separated (separator : Char) (size : Nat) : Nat → List Char → List Char
  | _, [] => []
  | n, c :: rest =>
    if n = size then separator :: c :: separated separator size 1 rest
    else c :: separated separator size (n + 1) rest

/-- Digits in groups. -/
def groups (l : Layout) (digits : List Char) : List Char :=
  match l.separator with
  | none => digits
  | some c =>
    let size := if "boxX".toList.contains l.type then 4 else 3
    (separated c size 0 digits.reverse).reverse

/-- Adds zeros in front of digits until they fill a width, groups included. -/
def widen (l : Layout) (width : Nat) : Nat → List Char → List Char
  | 0, digits => groups l digits
  | fuel + 1, digits =>
    let s := groups l digits
    if width ≤ s.length then s else widen l width fuel ('0' :: digits)

/-- Places a number: its sign, a mark in front of the digits, the digits, and what follows. -/
def number (l : Layout) (negative : Bool) (mark digits rest : List Char) : List Char :=
  let sign :=
    if negative then ['-']
    else
      match l.sign with
      | some '+' => ['+']
      | some ' ' => [' ']
      | _ => []
  let front := sign ++ mark
  if l.align = '=' then
    if l.fill = '0' then
      front ++ widen l (l.width - front.length - rest.length) l.width digits ++ rest
    else
      let body := groups l digits ++ rest
      front ++ List.replicate (l.width - front.length - body.length) l.fill ++ body
  else l.pad (front ++ groups l digits ++ rest)

end Layout

end FieldCheck.Message
