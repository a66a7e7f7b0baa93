import FieldCheck.Rule.Check

/-!
# Rules of an application

An application adds rules of its own.  Simple ones are described by data.

* `Behaviour` — what such a rule answers.
* `Pauses` — how often it pauses before it answers, which may depend on the value.
* `Custom.predicate` — the rule; it pauses, shows that it is called, and answers.
-/

set_option autoImplicit false

-- a power of naturals is that of the numbers themselves, not that of a monoid
attribute [local instance (1100)] instPowNat

namespace FieldCheck

/-- What a rule answers. -/
inductive Behaviour where
  /-- Always the same. -/
  | constant (answer : Value)
  /-- Always a crash. -/
  | crash (kind : CrashKind) (text : String)
  /-- Whether the value is the first argument. -/
  | equalsArgument
  /-- Whether the value has more members than the first argument says. -/
  | longer
  /-- Whether the value is that of the field that the first argument names. -/
  | sibling
  /-- Whether the first argument is the name of the field. -/
  | field
  /-- Whether the first argument is the value of the context. -/
  | contextValue

/-- How often a rule pauses. -/
inductive Pauses where
  | always (n : Nat)
  | byValue (table : List (Value × Nat))

/-- The pauses for a value. -/
def Pauses.count (p : Pauses) (v : Value) : Nat :=
  match p with
  | .always n => n
  | .byValue table =>
    match table.find? fun entry => entry.1.same? v == some true with
    | some entry => entry.2
    | none => 0

/-- A rule described by data. -/
structure Custom where
  id : String
  behaviour : Behaviour
  pauses : Pauses := .always 0

/-- Whether a decimal number is below a number of members. -/
def Decimal.isBelow (d : Decimal) (n : Nat) : Bool :=
  match d with
  | .nan .. => false
  | .infinite negative => negative
  | .finite negative c e =>
    if negative && c ≠ 0 then true
    else if c = 0 then 0 < n
    else if 30 < Decimal.order c e then false
    else if Decimal.order c e < 0 then 0 < n
    else c * 10 ^ e.toNat < n * 10 ^ (-e).toNat

/-- Whether a number of members is above a number. -/
def isLonger (size : Nat) (limit : Value) : Except Crash Bool :=
  match limit with
  | .bool b => .ok (decide ((if b then 1 else 0) < size))
  | .int n => .ok (decide (n < size))
  | .float x => .ok ((Number.float x).lt (.int size))
  | .decimal d => if d.isNaN then .error .signallingComparison else .ok (d.isBelow size)
  | v => .error (.noOrder "int" v.kind)

/-- The answer of a rule. -/
def Behaviour.answer (b : Behaviour) (v : Value) (args : List Value) (c : Context) :
    Except Crash Value :=
  match b with
  | .constant answer => .ok answer
  | .crash kind text => .error (.raised kind text)
  | .equalsArgument => do
    let arg ← argument args 0
    (compareValues v arg).map Value.bool
  | .longer =>
    match v.size? with
    | none => .error (.noLength v.kind)
    | some n => do
      let arg ← argument args 0
      (isLonger n arg).map Value.bool
  | .sibling => do
    let arg ← argument args 0
    match arg with
    | .text name => (compareValues ((c.other? name).getD .absent) v).map Value.bool
    | arg =>
      match arg.unhashable? with
      | some part => throw (Crash.ofUnhashable part)
      | none => (compareValues .absent v).map Value.bool
  | .field => do
    let arg ← argument args 0
    (compareValues (c.fieldName.elim .absent Value.text) arg).map Value.bool
  | .contextValue => do
    let arg ← argument args 0
    (compareValues c.value arg).map Value.bool

/-- The rule as a predicate. -/
def Custom.predicate (r : Custom) : Predicate := fun v args c =>
  .after (r.pauses.count v) (.emit (.called r.id) (.done (r.behaviour.answer v args c)))

end FieldCheck
