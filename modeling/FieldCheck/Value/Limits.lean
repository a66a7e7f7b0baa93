import FieldCheck.Number.Numeral
import FieldCheck.Value.Written

/-!
# What can be written out

`Value.literal` and `Value.textForm` say how a value is written.  Whether it is written at all is
another question: an integer with too many digits is refused, and a value that lies too deep inside
others is not reached, since every collection around it takes a nested call and only so many are
granted.

* `Obstacle` — the two reasons why a value is not written.
* `usualRoom`, `ruleCalls`, `ruleTextCalls`, `specCalls` — the nested calls that are granted, and those
  that the parts of a value take.
* `Value.visits` — a value and all that is inside it, in the order of the literal, each with the nested
  calls that are open when it is written.
* `Value.obstacle?`, `Value.plainObstacle?` — the first obstacle on the way to the literal, and to the
  plain text.
* `literalsWithin` — the literals of some values, or the first obstacle.
-/

set_option autoImplicit false

namespace FieldCheck

/-- Why a value is not written out. -/
inductive Obstacle where
  /-- An integer has more than `digitLimit` digits. -/
  | digits
  /-- The nested calls are used up. -/
  | depth
  deriving DecidableEq, Repr

/-- How many nested calls are granted where nothing else is said.  The interpreter allows 1000 in
all, and some of them are open before the first value is written. -/
def usualRoom : Nat := 960

/-- The nested calls from a rule to its arguments. -/
def ruleCalls : Nat := 4

/-- The nested calls from a rule to its arguments when it is written plainly. -/
def ruleTextCalls : Nat := 6

/-- The nested calls from a specification to the arguments of its rules. -/
def specCalls : Nat := 10

mutual

/-- A value and all that is inside it, each with the nested calls open when it is written. -/
def Value.visits (calls : Nat) : Value → List (Nat × Value)
  | .list items => (calls + 1, .list items) :: memberVisits (calls + 1) items
  | .tuple items => (calls + 1, .tuple items) :: memberVisits (calls + 1) items
  | .set items => (calls + 1, .set items) :: memberVisits (calls + 1) items
  | .dict entries => (calls + 1, .dict entries) :: entryVisits (calls + 1) entries
  | .rule r => (calls + ruleCalls, .rule r) :: argumentVisits (calls + ruleCalls) r
  | .spec rules source => (calls + specCalls, .spec rules source) :: ruleVisits (calls + specCalls) rules
  | v => [(calls + 1, v)]

/-- The visits of members in order. -/
def memberVisits (calls : Nat) : List Value → List (Nat × Value)
  | [] => []
  | v :: rest => v.visits calls ++ memberVisits calls rest

/-- The visits of keys and values in order. -/
def entryVisits (calls : Nat) : List (Value × Value) → List (Nat × Value)
  | [] => []
  | (k, v) :: rest => k.visits calls ++ v.visits calls ++ entryVisits calls rest

/-- The visits of a rule's arguments. -/
def argumentVisits (calls : Nat) : Rule Value → List (Nat × Value)
  | ⟨_, args, _, _⟩ => memberVisits calls args

/-- The visits of the arguments of rules in order. -/
def ruleVisits (calls : Nat) : List (Rule Value) → List (Nat × Value)
  | [] => []
  | r :: rest => argumentVisits calls r ++ ruleVisits calls rest

end

/-- What is in the way of one visit. -/
def obstacleAt (room : Nat) (visit : Nat × Value) : Option Obstacle :=
  if room < visit.1 then some .depth
  else
    match visit.2 with
    | .int n => if digitLimit < (Nat.toDigits 10 n.natAbs).length then some .digits else none
    | _ => none

/-- The first obstacle on the way to the literal of a value. -/
def Value.obstacle? (room : Nat) (v : Value) : Option Obstacle :=
  (v.visits 0).findSome? (obstacleAt room)

/-- What is visited for the plain text of a value; a text stands for itself. -/
def Value.plainVisits : Value → List (Nat × Value)
  | .text _ => []
  | .rule r => (ruleTextCalls, .rule r) :: argumentVisits ruleTextCalls r
  | v => v.visits 0

/-- The first obstacle on the way to the plain text of a value. -/
def Value.plainObstacle? (room : Nat) (v : Value) : Option Obstacle :=
  v.plainVisits.findSome? (obstacleAt room)

/-- The literals of values in order, or the first obstacle. -/
def literalsWithin (room : Nat) (vs : List Value) : Except Obstacle (List String) :=
  match vs.findSome? (Value.obstacle? room) with
  | some obstacle => .error obstacle
  | none => .ok (vs.map Value.literalText)

end FieldCheck
