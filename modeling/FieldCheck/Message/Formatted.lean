import FieldCheck.Message.Layout
import FieldCheck.Moment.Pattern
import FieldCheck.Number.Places
import FieldCheck.Value.Same
import FieldCheck.Value.Written

/-!
# Values in messages

* `Value.typeName` — the full name of the kind of a value.
* `Value.formatted` — a value with a layout; an empty layout gives the plain text.
* `Value.member` — a member of a value by number or key, and `Value.attribute` a named part of it.
-/

set_option autoImplicit false

-- a power of naturals is that of the numbers themselves, not that of a monoid
attribute [local instance (1100)] instPowNat

namespace FieldCheck

open Message Text

/-- The full name of the kind of a value. -/
def Value.typeName : Value → String
  | .decimal _ => "decimal.Decimal"
  | .date _ => "datetime.date"
  | .stamp _ => "datetime.datetime"
  | .pattern _ => "re.Pattern"
  | v => v.kind

namespace Message

/-- Fails where a condition holds. -/
def refuseIf (condition : Bool) (fault : TemplateFault) : Except TemplateFault Unit :=
  if condition then .error fault else .ok ()

/-- A text with a layout. -/
def formatText (s spec : List Char) : Except TemplateFault (List Char) := do
  let l ← Layout.read "str" 's' '<' spec
  refuseIf (l.type ≠ 's') (.unknownType l.type "str")
  match l.sign with
  | some ' ' => throw (.notForTexts "Space")
  | some _ => throw (.notForTexts "Sign")
  | none => pure ()
  refuseIf l.noNegativeZero (.notForTexts "Negative zero coercion (z)")
  refuseIf l.alternate (.notForTexts "Alternate form (#)")
  refuseIf (l.align = '=') (.notForTexts "'=' alignment")
  pure (l.pad (match l.precision with
    | some n => s.take n
    | none => s))

/-- A finite binary number as a ratio. -/
def ratioOf (m : Nat) (e : Int) : Nat × Nat := (m * 2 ^ e.toNat, 2 ^ (-e).toNat)

/-- Digits of a positive ratio by type and precision, and whether the type is known. -/
def writtenAs (l : Layout) (num den : Nat) : Option Written :=
  let places := l.precision.getD 6
  match l.type with
  | 'f' => some (fixedText num den places l.alternate)
  | 'F' => some (fixedText num den places l.alternate)
  | 'e' => some (exponentForm num den places 'e' l.alternate)
  | 'E' => some (exponentForm num den places 'E' l.alternate)
  | 'g' => some (generalText num den places 'e' l.alternate false)
  | 'n' => some (generalText num den places 'e' l.alternate false)
  | 'G' => some (generalText num den places 'E' l.alternate false)
  | '%' =>
    let (whole, rest) := fixedText (num * 100) den places l.alternate
    some (whole, rest ++ ['%'])
  | _ => none

/-- Splits a text before its point or exponent. -/
def splitPoint (s : List Char) : Written :=
  (s.takeWhile Char.isDigit, s.dropWhile Char.isDigit)

/-- A binary number with a layout. -/
def formatDouble (kind : String) (x : Double) (spec : List Char) :
    Except TemplateFault (List Char) := do
  let l ← Layout.read kind '\x00' '>' spec
  refuseIf (!"\x00eEfFgGn%".toList.contains l.type) (.unknownType l.type kind)
  let capital := l.type = 'E' || l.type = 'F' || l.type = 'G'
  let named := fun (s : String) =>
    let cs := if capital then s.toList.map Char.toUpper else s.toList
    if l.type = '%' then cs ++ ['%'] else cs
  match x with
  | .nan => pure (l.number false [] [] (named "nan"))
  | .infinite negative => pure (l.number negative [] [] (named "inf"))
  | .finite negative m e =>
    let (num, den) := ratioOf m e
    let written :=
      if l.type = '\x00' then
        match l.precision with
        | none => splitPoint (Double.finite false m e).text.toList
        | some n => generalText num den n 'e' l.alternate true
      else (writtenAs l num den).getD ([], [])
    let isZero := (written.1 ++ written.2).all fun c => !('1' ≤ c && c ≤ '9')
    pure (l.number (negative && !(l.noNegativeZero && isZero)) [] written.1 written.2)

/-- Digits of a natural number in a base. -/
def baseDigits (type : Char) (n : Nat) : List Char × List Char :=
  match type with
  | 'b' => ("0b".toList, Nat.toDigits 2 n)
  | 'o' => ("0o".toList, Nat.toDigits 8 n)
  | 'x' => ("0x".toList, Nat.toDigits 16 n)
  | 'X' => ("0X".toList, (Nat.toDigits 16 n).map Char.toUpper)
  | _ => ([], Nat.toDigits 10 n)

/-- An integer with a layout. -/
def formatInt (kind : String) (n : Int) (spec : List Char) : Except TemplateFault (List Char) := do
  let l ← Layout.read kind 'd' '>' spec
  if "eEfFgG%".toList.contains l.type then
    formatDouble kind (Double.ofRatio (n < 0) n.natAbs 1) spec
  else do
    refuseIf (!"bcdoxXn".toList.contains l.type) (.unknownType l.type kind)
    refuseIf l.precision.isSome (.notForIntegers "Precision")
    refuseIf l.noNegativeZero (.notForIntegers "Negative zero coercion (z)")
    if l.type = 'c' then
      if n < 0 || 0x10ffff < n then throw .noCharacter
      else pure (l.number false [] [] [Char.ofNat n.toNat])
    else
      let (mark, digits) := baseDigits l.type n.natAbs
      pure (l.number (n < 0) (if l.alternate then mark else []) digits [])

/-- A decimal number with a layout. -/
def formatDecimal (d : Decimal) (spec : List Char) : Except TemplateFault (List Char) := do
  let l ← match Layout.read "decimal.Decimal" '\x00' '>' spec with
    | .ok l => pure l
    | .error _ => throw .badDecimalSpec
  refuseIf (!"\x00eEfFgGn%".toList.contains l.type) .badDecimalSpec
  match d with
  | .finite negative c e =>
    let (num, den) := (c * 10 ^ e.toNat, 10 ^ (-e).toNat)
    let plain := splitPoint (Decimal.finite false c e).text.toList
    let written :=
      if l.type = 'f' || l.type = 'F' || l.type = '%' then
        let num := if l.type = '%' then num * 100 else num
        let shift : Nat := if l.type = '%' then 2 else 0
        let (whole, rest) := fixedText num den (l.precision.getD ((-e).toNat - shift)) false
        (whole, if l.type = '%' then rest ++ ['%'] else rest)
      else if l.precision.isNone then plain
      else (writtenAs l num den).getD (generalText num den (l.precision.getD 0) 'E' false false)
    pure (l.number negative [] written.1 written.2)
  | .infinite negative => pure (l.number negative [] [] "Infinity".toList)
  | .nan negative .. =>
    pure (l.number negative [] [] (splitPoint (Value.decimal d).textForm.toList).2)

end Message

/-- A value with a layout. -/
def Value.formatted (v : Value) (spec : List Char) : Except TemplateFault (List Char) :=
  if spec.isEmpty then .ok v.textForm.toList
  else
    match v with
    | .text s => formatText s.toList spec
    | .bool b => formatInt "bool" (if b then 1 else 0) spec
    | .int n => formatInt "int" n spec
    | .float x => formatDouble "float" x spec
    | .decimal d => formatDecimal d spec
    | .date d => .ok (Stamp.byPattern ⟨Moment.midnight d, none⟩ spec)
    | .stamp s => .ok (s.byPattern spec)
    | v => .error (.noSpecs v.typeName)

/-- A member of a row. -/
def memberOf (kind : String) (items : List Value) (n : Nat) : Except TemplateFault Value :=
  match items[n]? with
  | some v => .ok v
  | none => .error (.outOfRange kind)

/-- A key as it is looked up: a number or a text. -/
def subscriptValue (n : Option Nat) (key : String) : Value :=
  match n with
  | some n => .int n
  | none => .text key

/-- The members of a value that has numbered ones, and the name of their row. -/
def Value.row? : Value → Option (String × List Value)
  | .text s => some ("str", s.toList.map fun c => .text (String.ofList [c]))
  | .list items => some ("list", items)
  | .tuple items => some ("tuple", items)
  | .bytes bs => some ("bytes", bs.map fun (b : Nat) => .int b)
  | .spec rules _ => some ("tuple", rules.map Value.rule)
  | _ => none

/-- A member of a value by number or key. -/
def Value.member (v : Value) (n : Option Nat) (key : String) : Except TemplateFault Value :=
  match v with
  | .dict entries =>
    match entries.find? fun p => p.1.same? (subscriptValue n key) == some true with
    | some p => .ok p.2
    | none => .error (.missingKey (subscriptValue n key).textForm)
  | v =>
    match v.row?, n with
    | some (kind, items), some n => memberOf kind items n
    | some (kind, _), none => .error (.badSubscript kind)
    | none, _ => .error (.notSubscriptable v.typeName)

/-- The named parts of a value. -/
def Value.attributes : Value → Values
  | .date d => dateParts d
  | .stamp s =>
    dateParts s.moment.date ++
      [("hour", .int s.moment.hour), ("minute", .int s.moment.minute),
        ("second", .int s.moment.second), ("microsecond", .int s.moment.micro)]
  | .file attributes _ => attributes
  | .rule r =>
    [("name", .text r.name), ("args", .tuple r.args), ("is_regex", .bool r.isRegex),
      ("bail", .bool r.bail)]
  | .spec rules source =>
    [("rules", .tuple (rules.map Value.rule)), ("source", source.elim .absent Value.text),
      ("names", .list (rules.map fun r => .text r.name))]
  | .pattern p => [("pattern", .text p.source)]
  | .int n => wholeParts n
  | .bool b => wholeParts (if b then 1 else 0)
  | _ => []
where
  /-- The parts of a day. -/
  dateParts (d : Date) : Values :=
    [("year", .int d.year), ("month", .int d.month), ("day", .int d.day)]
  /-- The parts of a whole number. -/
  wholeParts (n : Int) : Values :=
    [("real", .int n), ("imag", .int 0), ("numerator", .int n), ("denominator", .int 1)]

/-- A named part of a value. -/
def Value.attribute (v : Value) (name : String) : Except TemplateFault Value :=
  match v.attributes.lookup name with
  | some part => .ok part
  | none => .error (.noAttribute v.typeName name)

end FieldCheck
