import FieldCheck.Value.Basic

/-!
# Equality of values

* `Quantity` — the numbers among the values: true and false count as one and zero, and a decimal
  number is compared with the others by its exact value.
* `Value.same?` — whether two values are the same.  Numbers are the same across their kinds;
  lists and tuples agree member by member, sets and dictionaries whatever their order; two moments
  with offsets are the same when they name the same instant.  The answer is missing when a
  signalling not-a-number meets a number.  Values have no identity here: that a collection counts two
  members as the same where both are one and the same thing, as with a not-a-number that two lists
  share, is left out.
* `Value.unhashable?` — the part, if any, that keeps a value out of sets and keys.
* `Value.ofMembers`, `Value.ofEntries` — sets and dictionaries without repetitions.
-/

set_option autoImplicit false

namespace FieldCheck

/-- A number of any kind. -/
inductive Quantity where
  | int (n : Int)
  | float (x : Double)
  | decimal (d : Decimal)

/-- The number that a value is. -/
def Value.quantity? : Value → Option Quantity
  | .bool b => some (.int (if b then 1 else 0))
  | .int n => some (.int n)
  | .float x => some (.float x)
  | .decimal d => some (.decimal d)
  | _ => none

/-- Whether a decimal number is an integer. -/
def Decimal.isInt (d : Decimal) (n : Int) : Bool :=
  match d with
  | .finite negative c e => isNat c e n.natAbs && (n == 0 || decide (n < 0) == negative)
  | _ => false

/-- Whether a decimal number is a binary number. -/
def Decimal.isBinary (d : Decimal) (x : Double) : Bool :=
  match d, x with
  | .finite negative c e, .finite negative' m e' =>
    isDouble c e m e' && (m == 0 || negative == negative')
  | .infinite negative, .infinite negative' => negative == negative'
  | _, _ => false

/-- Whether two decimal numbers have the same value. -/
def Decimal.same (d d' : Decimal) : Bool :=
  match d, d' with
  | .finite negative c e, .finite negative' c' e' =>
    sameFinite c e c' e' && (c == 0 || negative == negative')
  | .infinite negative, .infinite negative' => negative == negative'
  | _, _ => false

/-- Whether a number is a signalling not-a-number, which cannot be compared. -/
def Quantity.signals : Quantity → Bool
  | .decimal (.nan _ signalling _) => signalling
  | _ => false

/-- Whether two numbers have the same value. -/
def Quantity.same : Quantity → Quantity → Bool
  | .int n, .int n' => n == n'
  | .int n, .float x => (Number.int n).same (.float x)
  | .float x, .int n => (Number.int n).same (.float x)
  | .float x, .float x' => (Number.float x).same (.float x')
  | .decimal d, .int n => d.isInt n
  | .int n, .decimal d => d.isInt n
  | .decimal d, .float x => d.isBinary x
  | .float x, .decimal d => d.isBinary x
  | .decimal d, .decimal d' => d.same d'

/-- The same, with no answer for a number that cannot be compared. -/
def Quantity.same? (a b : Quantity) : Option Bool :=
  if a.signals || b.signals then none else some (a.same b)

/-- Whether two moments are the same: both without offset and alike, or the same instant. -/
def Stamp.same (s t : Stamp) : Bool :=
  match s.offset, t.offset with
  | none, none => s.moment == t.moment
  | some o, some o' =>
    s.moment.instant - o * 1000000 == t.moment.instant - o' * 1000000
  | _, _ => false

mutual

/-- Whether two values are the same. -/
def Value.same? : Value → Value → Option Bool
  | .absent, .absent => some true
  | .text s, .text t => some (s == t)
  | .bytes bs, .bytes cs => some (bs == cs)
  | .date d, .date d' => some (d == d')
  | .stamp s, .stamp t => some (s.same t)
  | .list xs, .list ys => if xs.length ≠ ys.length then some false else sameAll? xs ys
  | .tuple xs, .tuple ys => sameAll? xs ys
  | .set xs, .set ys =>
    some (xs.length == ys.length && allFound xs ys)
  | .dict ps, .dict qs => if ps.length ≠ qs.length then some false else sameEntries? ps qs
  | .pattern p, .pattern q => some (p == q)
  | .path s, .path t => some (s == t)
  | .file _ n, .file _ n' => some (n == n')
  | .thing _ n, .thing _ n' => some (n == n')
  | .rule r, .rule r' => sameRule? r r'
  | .spec rs _, .spec rs' _ => sameRules? rs rs'
  | a, b =>
    match a.quantity?, b.quantity? with
    | some q, some q' => q.same? q'
    | _, _ => some false

/-- Whether two rows of values agree member by member. -/
def sameAll? : List Value → List Value → Option Bool
  | [], [] => some true
  | x :: xs, y :: ys =>
    match x.same? y with
    | some true => sameAll? xs ys
    | answer => answer
  | _, _ => some false

/-- Whether each value is found among others. -/
def allFound : List Value → List Value → Bool
  | [], _ => true
  | x :: xs, ys => (ys.any fun y => x.same? y == some true) && allFound xs ys

/-- Whether each entry is found with the same value among others. -/
def sameEntries? : List (Value × Value) → List (Value × Value) → Option Bool
  | [], _ => some true
  | (k, v) :: rest, others =>
    match others.find? fun p => k.same? p.1 == some true with
    | none => some false
    | some p =>
      match v.same? p.2 with
      | some true => sameEntries? rest others
      | answer => answer

/-- Whether two rules agree in all their parts. -/
def sameRule? : Rule Value → Rule Value → Option Bool
  | ⟨name, args, isRegex, bail⟩, ⟨name', args', isRegex', bail'⟩ =>
    if name ≠ name' then some false
    else
      match sameAll? args args' with
      | some true => some (isRegex == isRegex' && bail == bail')
      | answer => answer

/-- Whether two rows of rules agree. -/
def sameRules? : List (Rule Value) → List (Rule Value) → Option Bool
  | [], [] => some true
  | r :: rs, r' :: rs' =>
    match sameRule? r r' with
    | some true => sameRules? rs rs'
    | answer => answer
  | _, _ => some false

end

mutual

/-- The part that keeps a value out of sets and keys: a list, a set or a dictionary, or a
signalling not-a-number. -/
def Value.unhashable? : Value → Option Value
  | .list items => some (.list items)
  | .set items => some (.set items)
  | .dict entries => some (.dict entries)
  | .decimal (.nan negative true payload) => some (.decimal (.nan negative true payload))
  | .tuple items => firstUnhashable? items
  | .rule r => ruleUnhashable? r
  | .spec rules _ => rulesUnhashable? rules
  | _ => none

/-- The first such part of a row of values. -/
def firstUnhashable? : List Value → Option Value
  | [] => none
  | v :: rest =>
    match v.unhashable? with
    | some part => some part
    | none => firstUnhashable? rest

/-- The first such part of a rule. -/
def ruleUnhashable? : Rule Value → Option Value
  | ⟨_, args, _, _⟩ => firstUnhashable? args

/-- The first such part of a row of rules. -/
def rulesUnhashable? : List (Rule Value) → Option Value
  | [] => none
  | r :: rest =>
    match ruleUnhashable? r with
    | some part => some part
    | none => rulesUnhashable? rest

end

/-- A set with the given members; of equal ones the first stays. -/
def Value.ofMembers (items : List Value) : Value :=
  .set (items.foldl (fun seen v => if seen.any (fun w => w.same? v == some true) then seen
    else seen ++ [v]) [])

/-- Sets the value of a key; a key that is there keeps its place. -/
def putEntry (k v : Value) : List (Value × Value) → List (Value × Value)
  | [] => [(k, v)]
  | (k', v') :: rest =>
    if k'.same? k == some true then (k', v) :: rest else (k', v') :: putEntry k v rest

/-- A dictionary with the given entries, of which the last one of a key counts. -/
def Value.ofEntries (entries : List (Value × Value)) : Value :=
  .dict (entries.foldl (fun d p => putEntry p.1 p.2 d) [])

/-- The value of a key of a dictionary that is a text. -/
def textEntry (entries : List (Value × Value)) (key : String) : Option Value :=
  (entries.find? fun p => match p.1 with
    | .text s => s == key
    | _ => false).map Prod.snd

end FieldCheck
