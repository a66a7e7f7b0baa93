import FieldCheck.Moment.Date
import FieldCheck.Number.Decimal
import FieldCheck.Number.Order
import FieldCheck.Regex.Flags

/-!
# Values

A form's fields and the arguments of rules hold values of many kinds.

* `Rule` — one rule of a specification: its name as written, its arguments, whether one of them is a
  regular expression, and whether collecting stops when it fails.
* `Value` — the kinds of values.  A specification is a value too, and so is a single rule.
* `Values` — the values of a form, under their field names.
* `Value.kind` — the name of a value's kind, as messages give it.
-/

set_option autoImplicit false

namespace FieldCheck

/-- One rule of a specification, over the arguments `α`. -/
structure Rule (α : Type) where
  name : String
  args : List α := []
  isRegex : Bool := false
  bail : Bool := false
  deriving DecidableEq, Repr

/-- A value of a field or an argument of a rule. -/
inductive Value where
  | absent
  | bool (b : Bool)
  | int (n : Int)
  | float (x : Double)
  | decimal (d : Decimal)
  | text (s : String)
  | bytes (bs : List Nat)
  | date (d : Date)
  | stamp (s : Stamp)
  | list (items : List Value)
  | tuple (items : List Value)
  | set (items : List Value)
  | dict (entries : List (Value × Value))
  | pattern (p : Regex.Pattern)
  | path (s : String)
  /-- A file with named attributes; two files are the same only if their marks agree. -/
  | file (attributes : List (String × Value)) (mark : Nat)
  /-- A thing of which only its kind is known, told apart by its mark. -/
  | thing (kind : String) (mark : Nat)
  | rule (r : Rule Value)
  | spec (rules : List (Rule Value)) (source : Option String)

/-- The values of a form by field name, in the order given; a name occurs once. -/
abbrev Values := List (String × Value)

/-- The value under a name. -/
def Values.find? (values : Values) (name : String) : Option Value := values.lookup name

/-- Sets the value of a name; a name that is there keeps its place. -/
def Values.put (name : String) (value : Value) : Values → Values
  | [] => [(name, value)]
  | (n, v) :: rest => if n = name then (n, value) :: rest else (n, v) :: Values.put name value rest

/-- Values from pairs, of which the last one of a name counts. -/
def Values.ofPairs (pairs : List (String × Value)) : Values :=
  pairs.foldl (fun values p => values.put p.1 p.2) []

namespace Value

/-- The name of the kind of a value. -/
def kind : Value → String
  | .absent => "NoneType"
  | .bool _ => "bool"
  | .int _ => "int"
  | .float _ => "float"
  | .decimal _ => "Decimal"
  | .text _ => "str"
  | .bytes _ => "bytes"
  | .date _ => "date"
  | .stamp _ => "datetime"
  | .list _ => "list"
  | .tuple _ => "tuple"
  | .set _ => "set"
  | .dict _ => "dict"
  | .pattern _ => "Pattern"
  | .path _ => "PurePosixPath"
  | .file .. => "FileObject"
  | .thing kind _ => kind
  | .rule _ => "ParsedRule"
  | .spec .. => "RuleSpec"

/-- The number of members of a value that has members. -/
def size? : Value → Option Nat
  | .text s => some s.length
  | .bytes bs => some bs.length
  | .list items | .tuple items | .set items => some items.length
  | .dict entries => some entries.length
  | .spec rules _ => some rules.length
  | _ => none

/-- Whether a value counts as true. -/
def truthy : Value → Bool
  | .absent => false
  | .bool b => b
  | .int n => n ≠ 0
  | .float x => !x.isZero
  | .decimal d => !d.isZero
  | v =>
    match v.size? with
    | some n => n ≠ 0
    | none => true

/-- Whether a value counts as empty: nothing at all, or no members.  Numbers are never empty. -/
def isEmpty : Value → Bool
  | .absent => true
  | v => v.size? == some 0

end Value

end FieldCheck
