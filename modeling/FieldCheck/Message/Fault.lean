import FieldCheck.Rule.Crash

/-!
# Faults of message templates

* `TemplateFault` — why a template gives no message, with its `kind` and `text`.
-/

set_option autoImplicit false

namespace FieldCheck

/-- Why a template gives no message. -/
inductive TemplateFault where
  | loneOpening
  | loneClosing
  | openingInName
  | unclosedField
  | unclosedSpec
  | missingConversion
  | noColon
  | unknownConversion (c : Char)
  | tooDeep
  | missingKey (key : String)
  | missingIndex (n : Nat)
  | hugeNumber
  | badFollower
  | unclosedBracket
  | emptyAttribute
  | noAttribute (kind name : String)
  | notSubscriptable (kind : String)
  | badSubscript (kind : String)
  | outOfRange (kind : String)
  | noSpecs (kind : String)
  | badSpec (spec kind : String)
  | unknownType (c : Char) (kind : String)
  | missingPrecision
  | bothSeparators
  | separatorWith (separator type : Char)
  | notForTexts (what : String)
  | notForIntegers (what : String)
  | noCharacter
  | badDecimalSpec
  /-- An argument that is not written out. -/
  | unwritten (obstacle : Obstacle)
  deriving DecidableEq, Repr

namespace TemplateFault

/-- The kind of a fault. -/
def kind : TemplateFault → CrashKind
  | .missingKey _ => .key
  | .missingIndex _ | .outOfRange _ => .index
  | .noAttribute .. => .attribute
  | .notSubscriptable _ | .badSubscript _ | .noSpecs _ => .type
  | .noCharacter => .overflow
  | .unwritten obstacle => obstacle.kind
  | _ => .value

/-- A character as messages show it. -/
def shownChar (c : Char) : String :=
  if 32 < c.toNat && c.toNat < 128 then String.ofList [c]
  else "\\x" ++ String.ofList (Nat.toDigits 16 c.toNat)

/-- What a fault says. -/
def text : TemplateFault → String
  | .loneOpening => "Single '\x7b' encountered in format string"
  | .loneClosing => "Single '\x7d' encountered in format string"
  | .openingInName => "unexpected '\x7b' in field name"
  | .unclosedField => "expected '\x7d' before end of string"
  | .unclosedSpec => "unmatched '\x7b' in format spec"
  | .missingConversion => "end of string while looking for conversion specifier"
  | .noColon => "expected ':' after conversion specifier"
  | .unknownConversion c => "Unknown conversion specifier " ++ shownChar c
  | .tooDeep => "Max string recursion exceeded"
  | .missingKey key => key
  | .missingIndex n =>
    "Replacement index " ++ toString n ++ " out of range for positional args tuple"
  | .hugeNumber => "Too many decimal digits in format string"
  | .badFollower => "Only '.' or '[' may follow ']' in format field specifier"
  | .unclosedBracket => "Missing ']' in format string"
  | .emptyAttribute => "Empty attribute in format string"
  | .noAttribute kind name => "'" ++ kind ++ "' object has no attribute '" ++ name ++ "'"
  | .notSubscriptable kind => "'" ++ kind ++ "' object is not subscriptable"
  | .badSubscript kind =>
    if kind = "str" then "string indices must be integers, not 'str'"
    else (if kind = "bytes" then "byte" else kind) ++ " indices must be integers or slices, not str"
  | .outOfRange kind =>
    (if kind = "str" then "string" else if kind = "bytes" then "index" else kind) ++
      (if kind = "bytes" then " out of range" else " index out of range")
  | .noSpecs kind => "unsupported format string passed to " ++ kind ++ ".__format__"
  | .badSpec spec kind =>
    "Invalid format specifier '" ++ spec ++ "' for object of type '" ++ kind ++ "'"
  | .unknownType c kind =>
    "Unknown format code '" ++ shownChar c ++ "' for object of type '" ++ kind ++ "'"
  | .missingPrecision => "Format specifier missing precision"
  | .bothSeparators => "Cannot specify both ',' and '_'."
  | .separatorWith separator type =>
    "Cannot specify '" ++ String.ofList [separator] ++ "' with '" ++ shownChar type ++ "'."
  | .notForTexts what => what ++ " not allowed in string format specifier"
  | .notForIntegers what => what ++ " not allowed in integer format specifier"
  | .noCharacter => "%c arg not in range(0x110000)"
  | .badDecimalSpec => "invalid format string"
  | .unwritten obstacle => obstacle.text

end TemplateFault

end FieldCheck
