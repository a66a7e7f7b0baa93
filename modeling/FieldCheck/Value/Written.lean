import FieldCheck.Moment.Iso
import FieldCheck.Number.Shortest
import FieldCheck.Text.Blank
import FieldCheck.Text.Quoted
import FieldCheck.Value.Basic

/-!
# Written values

* `Value.literal` — a value as it is written in messages: texts in quotes, collections in brackets,
  other kinds with their names.  It holds no line break.
* `Value.textForm` — the same, except that a text stands for itself and a date, a moment, a decimal
  number and a path are written plainly.
* `Rule.written` — a rule in the notation of specifications, with arguments that have no form there
  written as literals.

These are the texts of values that are written out; which ones are not is said by `Value.obstacle?`.
-/

set_option autoImplicit false

namespace FieldCheck

open Text

/-- Numbers joined by commas. -/
def numberRow (ns : List Nat) : List Char :=
  (", ".toList).intercalate (ns.map (Nat.toDigits 10))

/-- A number with its sign. -/
def integerText (n : Int) : List Char :=
  if n < 0 then '-' :: Nat.toDigits 10 n.natAbs else Nat.toDigits 10 n.natAbs

/-- A date as a literal. -/
def Date.literal (d : Date) : List Char :=
  "datetime.date(".toList ++ numberRow [d.year, d.month, d.day] ++ [')']

/-- An offset as a literal: whole days and the seconds left over. -/
def offsetLiteral (o : Int) : List Char :=
  if o = 0 then "datetime.timezone.utc".toList
  else
    "datetime.timezone(datetime.timedelta(".toList ++
      (if o < 0 then "days=-1, ".toList else []) ++
      "seconds=".toList ++ integerText (if o < 0 then o + 86400 else o) ++ "))".toList

/-- A moment as a literal; seconds are left out when they and the microseconds are zero. -/
def Stamp.literal (s : Stamp) : List Char :=
  let m := s.moment
  let base := [m.date.year, m.date.month, m.date.day, m.hour, m.minute]
  let fine :=
    if m.micro ≠ 0 then [m.second, m.micro] else if m.second ≠ 0 then [m.second] else []
  "datetime.datetime(".toList ++ numberRow (base ++ fine) ++
    (match s.offset with
      | none => []
      | some o => ", tzinfo=".toList ++ offsetLiteral o) ++ [')']

/-- The names of the switches that are on. -/
def Regex.Flags.names (f : Regex.Flags) : List String :=
  (if f.ignoreCase then ["re.IGNORECASE"] else []) ++ (if f.multiline then ["re.MULTILINE"] else []) ++
    (if f.dotAll then ["re.DOTALL"] else []) ++ (if f.verbose then ["re.VERBOSE"] else []) ++
    (if f.ascii then ["re.ASCII"] else [])

/-- A regular expression as a literal, of which at most 200 characters are shown. -/
def Regex.Pattern.literal (p : Regex.Pattern) : List Char :=
  "re.compile(".toList ++ (quoted p.source.toList).take 200 ++
    (if p.flags.names.isEmpty then []
      else ", ".toList ++ ("|".intercalate p.flags.names).toList) ++ [')']

/-- True or false as a literal. -/
def boolLiteral (b : Bool) : List Char := if b then "True".toList else "False".toList

/-- Pieces between brackets; a single piece may need a comma behind it. -/
def bracketed (left right : String) (single : Bool) (pieces : List (List Char)) : List Char :=
  left.toList ++ (", ".toList).intercalate pieces ++
    (if single && pieces.length = 1 then [','] else []) ++ right.toList

/-- Whether a text is a regular expression between slashes. -/
def isSlashed (s : List Char) : Bool :=
  2 < s.length && s.head? == some '/' && s.getLast? == some '/'

/-- The characters that separate or group in the notation of specifications. -/
def isReserved (c : Char) : Bool := c = '|' || c = ',' || c = '[' || c = ']'

/-- Whether a text may stand as an argument in the notation of specifications. -/
def isPlainArgument (s : List Char) : Bool :=
  (isSlashed s && !s.contains '|') ||
    (!s.isEmpty && s == trim s && s.head? != some '/' && !s.any isReserved)

/-- The form that an argument has in the notation of specifications, if it has one. -/
def Value.argumentForm? : Value → Option (List Char)
  | .bool b => some (if b then "true".toList else "false".toList)
  | .int n => some (integerText n)
  | .float x => some x.text.toList
  | .stamp s => some s.isoText.toList
  | .date d => some d.isoText.toList
  | .text s => if isPlainArgument s.toList then some s.toList else none
  | _ => none

/-- The rule with a written form for each of its arguments. -/
def ruleForm (name : String) (bail : Bool) (args : List (List Char)) : List Char :=
  let head := if bail then '^' :: name.toList else name.toList
  if args.isEmpty then head else head ++ ':' :: [','].intercalate args

mutual

/-- A value as it is written in messages. -/
def Value.literal : Value → List Char
  | .absent => "None".toList
  | .bool b => boolLiteral b
  | .int n => integerText n
  | .float x => x.text.toList
  | .decimal d => "Decimal('".toList ++ d.text.toList ++ "')".toList
  | .text s => quoted s.toList
  | .bytes bs => quotedBytes bs
  | .date d => d.literal
  | .stamp s => s.literal
  | .list items => bracketed "[" "]" false (literals items)
  | .tuple items => bracketed "(" ")" true (literals items)
  | .set items => if items.isEmpty then "set()".toList else bracketed "\x7b" "\x7d" false (literals items)
  | .dict entries => bracketed "\x7b" "\x7d" false (entryLiterals entries)
  | .pattern p => p.literal
  | .path s => "PurePosixPath(".toList ++ quoted s.toList ++ [')']
  | .file .. => "<FileObject>".toList
  | .thing kind _ => '<' :: kind.toList ++ ['>']
  | .rule r => ruleLiteral r
  | .spec rules _ => "RuleSpec(".toList ++ bracketed "[" "]" false (ruleTexts rules) ++ [')']

/-- Each value as a literal. -/
def literals : List Value → List (List Char)
  | [] => []
  | v :: rest => v.literal :: literals rest

/-- Each entry as two literals around a colon. -/
def entryLiterals : List (Value × Value) → List (List Char)
  | [] => []
  | (k, v) :: rest => (k.literal ++ ": ".toList ++ v.literal) :: entryLiterals rest

/-- A rule as a literal. -/
def ruleLiteral : Rule Value → List Char
  | ⟨name, args, isRegex, bail⟩ =>
    "ParsedRule(name=".toList ++ quoted name.toList ++ ", args=".toList ++
      bracketed "(" ")" true (literals args) ++ ", is_regex=".toList ++ boolLiteral isRegex ++
      ", bail=".toList ++ boolLiteral bail ++ [')']

/-- The arguments in the notation of specifications, literals where they have no form there. -/
def argumentTexts : List Value → List (List Char)
  | [] => []
  | v :: rest => (v.argumentForm?.getD v.literal) :: argumentTexts rest

/-- Each rule in the notation of specifications, in quotes. -/
def ruleTexts : List (Rule Value) → List (List Char)
  | [] => []
  | ⟨name, args, _, bail⟩ :: rest =>
    quoted (ruleForm name bail (argumentTexts args)) :: ruleTexts rest

end

/-- A value as it is written in messages. -/
def Value.literalText (v : Value) : String := String.ofList v.literal

/-- A rule in the notation of specifications. -/
def Rule.written (r : Rule Value) : String :=
  String.ofList (ruleForm r.name r.bail (argumentTexts r.args))

/-- A value written plainly. -/
def Value.textForm : Value → String
  | .text s => s
  | .date d => d.isoText
  | .stamp s => s.textWith " "
  | .decimal d => d.text
  | .path s => s
  | .rule r => r.written
  | v => v.literalText

end FieldCheck
