import FieldCheck.Message.Formatted

/-!
# Written templates

A written template is a text in which fields between braces are replaced.  A field names a value,
may go on to a member or a part of it, and may have a conversion and a layout; the layout may hold
fields itself.

* `Piece` — the text up to a field, the field, and the rest of the template.
* `nextPiece` — reads one piece.
* `fieldValue` — the value that the name of a field leads to.
* `expand` — the template with its fields replaced.
-/

set_option autoImplicit false

-- a power of naturals is that of the numbers themselves, not that of a monoid
attribute [local instance (1100)] instPowNat

namespace FieldCheck.Message

open Text

/-- A field of a template. -/
structure Field where
  name : List Char
  conversion : Option Char := none
  layout : List Char := []
  nested : Bool := false

/-- The text up to a field, the field if there is one, and the rest. -/
structure Piece where
  literal : List Char
  field : Option Field
  rest : List Char

/-- The text up to the first brace, and the text from there on. -/
def takeLiteral : List Char → List Char × List Char
  | [] => ([], [])
  | c :: rest =>
    if c = '\x7b' || c = '\x7d' then ([], c :: rest)
    else
      let (literal, after) := takeLiteral rest
      (c :: literal, after)

/-- The text behind a closing bracket, which is kept. -/
def takeBracket : List Char → List Char × List Char
  | [] => ([], [])
  | c :: rest =>
    if c = ']' then ([], c :: rest)
    else
      let (inside, after) := takeBracket rest
      (c :: inside, after)

/-- The name of a field and what ends it; `inBracket` holds between brackets. -/
def takeName : Bool → List Char → Except TemplateFault (List Char × Option Char × List Char)
  | _, [] => .ok ([], none, [])
  | inBracket, c :: rest =>
    let goOn := fun (inBracket : Bool) =>
      match takeName inBracket rest with
      | .error fault => .error fault
      | .ok (name, mark, after) => .ok (c :: name, mark, after)
    if inBracket then goOn (c != ']')
    else if c = '\x7b' then .error .openingInName
    else if c = '[' then goOn true
    else if c = '\x7d' || c = ':' || c = '!' then .ok ([], some c, rest)
    else goOn false

/-- A layout up to the brace that closes the field, and whether it holds braces itself. -/
def takeLayout : Nat → List Char → Option (List Char × Bool × List Char)
  | _, [] => none
  | depth, c :: rest =>
    let goOn := fun (depth : Nat) =>
      (takeLayout depth rest).map fun (layout, nested, after) =>
        (c :: layout, nested || c = '\x7b', after)
    if c = '\x7b' then goOn (depth + 1)
    else if c = '\x7d' then
      match depth with
      | 0 => some ([], false, rest)
      | depth + 1 => goOn depth
    else goOn depth

/-- A field with its layout. -/
def withLayout (name : List Char) (conversion : Option Char) (s : List Char) :
    Except TemplateFault (Field × List Char) :=
  match takeLayout 0 s with
  | none => .error .unclosedSpec
  | some (layout, nested, rest) => .ok ({ name, conversion, layout, nested }, rest)

/-- A field behind its opening brace. -/
def takeField (s : List Char) : Except TemplateFault (Field × List Char) :=
  match takeName false s with
  | .error fault => .error fault
  | .ok (_, none, _) => .error .unclosedField
  | .ok (name, some mark, rest) =>
    if mark = '\x7d' then .ok ({ name }, rest)
    else if mark = ':' then withLayout name none rest
    else
      match rest with
      | [] => .error .missingConversion
      | [c] => withLayout name (some c) []
      | c :: d :: rest =>
        if d = '\x7d' then .ok ({ name, conversion := some c }, rest)
        else if d = ':' then withLayout name (some c) rest
        else .error .noColon

/-- Reads one piece of a template. -/
def nextPiece (s : List Char) : Except TemplateFault Piece :=
  match takeLiteral s with
  | (literal, []) => .ok { literal, field := none, rest := [] }
  | (literal, c :: rest) =>
    if rest.head? = some c then .ok { literal := literal ++ [c], field := none, rest := rest.tail }
    else if c = '\x7d' then .error .loneClosing
    else if rest.isEmpty then .error .loneOpening
    else
      match takeField rest with
      | .error fault => .error fault
      | .ok (field, rest) => .ok { literal, field := some field, rest }

/-- The number that a name is. -/
def numberOf (name : List Char) : Except TemplateFault (Option Nat) :=
  match name.mapM digitValue? with
  | none => .ok none
  | some ds =>
    if ds.isEmpty then .ok none
    else if 2 ^ (63 : Nat) ≤ digitsValue 10 ds then .error .hugeNumber
    else .ok (some (digitsValue 10 ds))

/-- Goes on from a value to members and parts of it, as long as there is fuel. -/
def follow : Nat → Value → List Char → Except TemplateFault Value
  | 0, v, _ => .ok v
  | _, v, [] => .ok v
  | fuel + 1, v, '.' :: rest =>
    let name := rest.takeWhile fun c => c != '.' && c != '['
    if name.isEmpty then .error .emptyAttribute
    else
      match v.attribute (String.ofList name) with
      | .error fault => .error fault
      | .ok v => follow fuel v (rest.drop name.length)
  | fuel + 1, v, '[' :: rest =>
    match takeBracket rest with
    | (_, []) => .error .unclosedBracket
    | (key, _ :: rest) =>
      match numberOf key with
      | .error fault => .error fault
      | .ok n =>
        if key.isEmpty then .error .emptyAttribute
        else
          match v.member n (String.ofList key) with
          | .error fault => .error fault
          | .ok v => follow fuel v rest
  | _, _, _ => .error .badFollower

/-- The value that the name of a field leads to; numbered values there are none. -/
def fieldValue (values : Values) (name : List Char) : Except TemplateFault Value :=
  let first := name.takeWhile fun c => c != '.' && c != '['
  match numberOf first with
  | .error fault => .error fault
  | .ok (some n) => .error (.missingIndex n)
  | .ok none =>
    if first.isEmpty then .error (.missingIndex 0)
    else
      match values.lookup (String.ofList first) with
      | none => .error (.missingKey (String.ofList first))
      | some v => follow name.length v (name.drop first.length)

/-- A value with a conversion. -/
def convert (v : Value) : Option Char → Except TemplateFault Value
  | none => .ok v
  | some 'r' => .ok (.text v.literalText)
  | some 's' => .ok (.text v.textForm)
  | some 'a' => .ok (.text (String.ofList (asciiOnly v.literal)))
  | some c => .error (.unknownConversion c)

/-- The template with its fields replaced, as deep as they may be nested; `fuel` bounds the number
of pieces. -/
def expandPieces (values : Values) : Nat → Nat → List Char → Except TemplateFault (List Char)
  | 0, _, _ => .error .tooDeep
  | _, 0, _ => .ok []
  | depth + 1, fuel + 1, s =>
    if s.isEmpty then .ok []
    else do
      let piece ← nextPiece s
      let here ← match piece.field with
        | none => pure []
        | some field => do
          let v ← fieldValue values field.name
          let v ← convert v field.conversion
          let layout ←
            if field.nested then expandPieces values depth (field.layout.length + 1) field.layout
            else pure field.layout
          v.formatted layout
      let rest ← expandPieces values (depth + 1) fuel piece.rest
      pure (piece.literal ++ here ++ rest)

/-- The template with its fields replaced. -/
def expand (values : Values) (template : String) : Except TemplateFault String :=
  let s := template.toList
  (expandPieces values 2 (s.length + 1) s).map String.ofList

end FieldCheck.Message
