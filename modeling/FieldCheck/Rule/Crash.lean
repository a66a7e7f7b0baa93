import FieldCheck.Regex.Fault
import FieldCheck.Value.Limits

/-!
# Crashes of rules

A rule that cannot answer crashes.  A crash is not a failure of the value: it says that the rule was
set up wrongly, or that it broke.

* `CrashKind` — the kinds of crashes and their names.
* `Crash` — the causes, with their `kind`, their `text` and the `message` that quotes it.
* `Obstacle.kind`, `Obstacle.text` — what is raised when a value is not written out.
-/

set_option autoImplicit false

namespace FieldCheck

/-- The kinds of crashes. -/
inductive CrashKind where
  | value
  | type
  | key
  | attribute
  | index
  | runtime
  | connection
  | overflow
  | invalidOperation
  | pattern
  | recursion
  deriving DecidableEq, Repr

/-- The name of a kind. -/
def CrashKind.name : CrashKind → String
  | .value => "ValueError"
  | .type => "TypeError"
  | .key => "KeyError"
  | .attribute => "AttributeError"
  | .index => "IndexError"
  | .runtime => "RuntimeError"
  | .connection => "ConnectionError"
  | .overflow => "OverflowError"
  | .invalidOperation => "InvalidOperation"
  | .pattern => "error"
  | .recursion => "RecursionError"

/-- The kind of what is raised when a value is not written out. -/
def Obstacle.kind : Obstacle → CrashKind
  | .digits => .value
  | .depth => .recursion

/-- What is said when a value is not written out; the calls run out while a collection is written. -/
def Obstacle.text : Obstacle → String
  | .digits =>
    "Exceeds the limit (" ++ toString digitLimit ++ " digits) for integer string conversion; " ++
      "use sys.set_int_max_str_digits() to increase the limit"
  | .depth => "maximum recursion depth exceeded while getting the repr of an object"

/-- Why a rule could not answer. -/
inductive Crash where
  | boundNotNumeric (rule literal : String)
  | unknownMode (literal : String)
  | missingBounds
  | unknownCharset (literal : String)
  | missingTarget
  | notDate (rule literal : String)
  | dateOutOfRange
  /-- An argument that is not there; the arguments are a tuple or a list. -/
  | missingArgument (tuple : Bool)
  | unhashable (kind : String)
  | signallingHash
  | signallingComparison
  | noLength (kind : String)
  | noOrder (left right : String)
  | badPattern (fault : Regex.Fault)
  | notPath (kind : String)
  | nameInBytes
  /-- A value that the rule needs as text is not written out. -/
  | unwritten (obstacle : Obstacle)
  /-- A rule of the application that gave up for a reason of its own. -/
  | raised (kind : CrashKind) (text : String)
  deriving DecidableEq, Repr

namespace Crash

/-- The kind of a crash. -/
def kind : Crash → CrashKind
  | .boundNotNumeric .. | .unknownMode _ | .missingBounds | .unknownCharset _ | .missingTarget
  | .notDate .. => .value
  | .dateOutOfRange => .overflow
  | .missingArgument _ => .index
  | .unhashable _ | .signallingHash | .noLength _ | .noOrder .. | .notPath _ | .nameInBytes => .type
  | .signallingComparison => .invalidOperation
  | .badPattern fault =>
    match fault.complaint with
    | .repetitionTooLarge => .overflow
    | .switchesIncompatible => .value
    | _ => .pattern
  | .unwritten obstacle => obstacle.kind
  | .raised kind _ => kind

/-- What a crash says. -/
def text : Crash → String
  | .boundNotNumeric rule literal => rule ++ " expects a numeric bound, got " ++ literal
  | .unknownMode literal =>
    "Unknown comparison mode " ++ literal ++ ", expected 'length' or 'value'"
  | .missingBounds => "between expects two bounds"
  | .unknownCharset literal =>
    "Unknown charset " ++ literal ++ ", expected one of ['default', 'latin']"
  | .missingTarget => "confirm needs a field name or an explicit sibling field"
  | .notDate rule literal => rule ++ " expects a date argument, got " ++ literal
  | .dateOutOfRange => "date value out of range"
  | .missingArgument tuple => (if tuple then "tuple" else "list") ++ " index out of range"
  | .unhashable kind => "unhashable type: '" ++ kind ++ "'"
  | .signallingHash => "Cannot hash a signaling NaN value"
  | .signallingComparison => "[<class 'decimal.InvalidOperation'>]"
  | .noLength kind => "object of type '" ++ kind ++ "' has no len()"
  | .noOrder left right =>
    "'>' not supported between instances of '" ++ left ++ "' and '" ++ right ++ "'"
  | .badPattern fault => fault.message
  | .notPath kind => "expected str, bytes or os.PathLike object, not " ++ kind
  | .nameInBytes => "cannot use a string pattern on a bytes-like object"
  | .unwritten obstacle => obstacle.text
  | .raised _ text => text

/-- The message of a crash; a missing key is quoted. -/
def message (c : Crash) : String :=
  if c.kind = .key then Text.quotedString c.text else c.text

/-- Kind and message. -/
def description (c : Crash) : String := c.kind.name ++ ": " ++ c.message

/-- The crash of a value that cannot be hashed because of one of its parts. -/
def ofUnhashable : Value → Crash
  | .decimal _ => .signallingHash
  | v => .unhashable v.kind

end Crash

end FieldCheck
