import FieldCheck.Number.Numeral
import FieldCheck.Value.Basic

/-!
# Settings from values

Settings may be given as values of several kinds.

* `Rejection` — why a setting is not accepted.
* `flagOf`, `countOf`, `textOf` — a switch, a positive whole number, a text.
-/

set_option autoImplicit false

-- a power of naturals is that of the numbers themselves, not that of a monoid
attribute [local instance (1100)] instPowNat

namespace FieldCheck

/-- Why a setting is not accepted. -/
inductive Rejection where
  | unknownSetting
  | missing
  | notFlag
  | flagText
  | notCount
  | countText
  | fraction
  | notFinite
  | tooSmall
  | notText
  | textBytes
  | textTooShort
  deriving DecidableEq, Repr

/-- The name of a rejection. -/
def Rejection.name : Rejection → String
  | .unknownSetting => "extra_forbidden"
  | .missing => "missing"
  | .notFlag => "bool_type"
  | .flagText => "bool_parsing"
  | .notCount => "int_type"
  | .countText => "int_parsing"
  | .fraction => "int_from_float"
  | .notFinite => "finite_number"
  | .tooSmall => "greater_than_equal"
  | .notText => "string_type"
  | .textBytes => "string_unicode"
  | .textTooShort => "string_too_short"

/-- The text that bytes write. -/
def textOfBytes? (bs : List Nat) : Option String :=
  String.fromUTF8? (ByteArray.mk (bs.map UInt8.ofNat).toArray)

/-- The texts that switch a setting on. -/
def onTexts : List String := ["1", "on", "t", "true", "y", "yes"]

/-- The texts that switch a setting off. -/
def offSettingTexts : List String := ["0", "off", "f", "false", "n", "no"]

/-- A switch from a text, in any letter case. -/
def flagOfText (s : String) : Except Rejection Bool :=
  let s := s.map Char.toLower
  if onTexts.contains s then .ok true
  else if offSettingTexts.contains s then .ok false
  else .error .flagText

/-- A switch from a number. -/
def flagOfInt (n : Int) : Except Rejection Bool :=
  if n = 0 then .ok false else if n = 1 then .ok true else .error .flagText

/-- The whole number that a binary number is. -/
def Double.toInt? : Double → Option Int
  | .finite negative m e =>
    let signed := fun (n : Nat) => if negative then -(n : Int) else (n : Int)
    if 0 ≤ e then some (signed (m * 2 ^ e.toNat))
    else
      let unit := 2 ^ (-e).toNat
      if m % unit = 0 then some (signed (m / unit)) else none
  | _ => none

/-- A switch from a binary number. -/
def flagOfDouble (x : Double) : Except Rejection Bool :=
  match x.toInt? with
  | some n => flagOfInt n
  | none => .error .notFlag

/-- A switch from a value. -/
def flagOf : Value → Except Rejection Bool
  | .bool b => .ok b
  | .text s => flagOfText s
  | .bytes bs =>
    match textOfBytes? bs with
    | some s => flagOfText s
    | none => .error .flagText
  | .int n => flagOfInt n
  | .float x => flagOfDouble x
  | .decimal d => flagOfDouble d.toDouble
  | _ => .error .notFlag

/-- White space around a numeral. -/
def isNumeralSpace (c : Char) : Bool :=
  Text.isBlank c && !(28 ≤ c.toNat && c.toNat ≤ 31)

/-- A text without a fraction of zeros. -/
def dropZeroFraction (s : List Char) : List Char :=
  match s.dropWhile (· != '.') with
  | _ :: fraction => if fraction.all (· == '0') then s.takeWhile (· != '.') else s
  | [] => s

/-- Whether low lines stand alone and inside a text. -/
def loneLowLines : List Char → Bool
  | '_' :: '_' :: _ => false
  | [c] => c != '_'
  | _ :: rest => loneLowLines rest
  | [] => true

/-- A whole number from a text. -/
def countOfText (s : List Char) : Except Rejection Int :=
  let s := ((s.dropWhile isNumeralSpace).reverse.dropWhile isNumeralSpace).reverse
  let s := dropZeroFraction s
  let s := if s.head? != some '_' && loneLowLines s then s.filter (· != '_') else s
  let (negative, ds) := splitSign s
  match if ds.isEmpty then none else Text.numberIn? 10 ds with
  | none => .error .countText
  | some n => .ok (if negative then -(n : Int) else n)

/-- A whole number from a binary number; beyond 64 bits there is none. -/
def countOfDouble (x : Double) : Except Rejection Int :=
  match x with
  | .finite .. =>
    match x.toInt? with
    | none => .error .fraction
    | some n => if n.natAbs < 2 ^ (63 : Nat) then .ok n else .error .countText
  | _ => .error .notFinite

/-- A whole number from a decimal number. -/
def countOfDecimal : Decimal → Except Rejection Int
  | .finite negative c e =>
    let signed := fun (n : Nat) => if negative then -(n : Int) else (n : Int)
    if c = 0 then .ok 0
    else if 0 ≤ e then .ok (signed (c * 10 ^ e.toNat))
    else if Decimal.order c e < 0 then .error .fraction
    else
      let unit := 10 ^ (-e).toNat
      if c % unit = 0 then .ok (signed (c / unit)) else .error .fraction
  | _ => .error .notFinite

/-- A whole number from a value. -/
def wholeOf : Value → Except Rejection Int
  | .bool b => .ok (if b then 1 else 0)
  | .int n => .ok n
  | .text s => countOfText s.toList
  | .bytes bs =>
    match textOfBytes? bs with
    | some s => countOfText s.toList
    | none => .error .countText
  | .float x => countOfDouble x
  | .decimal d => countOfDecimal d
  | _ => .error .notCount

/-- A positive whole number from a value. -/
def countOf (v : Value) : Except Rejection Nat :=
  match wholeOf v with
  | .error e => .error e
  | .ok n => if n < 1 then .error .tooSmall else .ok n.toNat

/-- A text from a value. -/
def textOf : Value → Except Rejection String
  | .text s => .ok s
  | .bytes bs =>
    match textOfBytes? bs with
    | some s => .ok s
    | none => .error .textBytes
  | _ => .error .notText

end FieldCheck
