import FieldCheck.Rule.Context
import FieldCheck.Rule.Crash
import FieldCheck.Rule.Routine
import FieldCheck.Spec.Name

/-!
# Registries

A registry knows rules by name.

* `Predicate` — what a rule does: from a value, arguments and a context, a routine that answers.
* `Policy` — what a rule does with empty values.
* `Entry` — a rule of the registry; `Entry.fillArgs` fills in trailing arguments.
* `Registry.register`, `Registry.unregister`, `Registry.lookup` — the operations.  A name that is
  registered again keeps its place; a name that is not found is looked up once more in snake case.
-/

set_option autoImplicit false

namespace FieldCheck

/-- What a rule does. -/
abbrev Predicate := Value → List Value → Context → Routine (Except Crash Value)

/-- What a rule does with empty values: an ordinary rule is skipped, a required-class rule makes
every rule of its specification run, and an optional rule may not stand beside such a rule. -/
inductive Policy where
  | skip
  | run
  | bypass
  deriving DecidableEq, Repr

namespace Policy

/-- The name of a policy. -/
def name : Policy → String
  | .skip => "skip"
  | .run => "run"
  | .bypass => "bypass"

/-- The policy of a name. -/
def ofValue? : Value → Option Policy
  | .text "skip" => some .skip
  | .text "run" => some .run
  | .text "bypass" => some .bypass
  | _ => none

end Policy

/-- A rule of a registry. -/
structure Entry where
  name : String
  predicate : Predicate
  defaults : List Value := []
  policy : Policy := .skip

/-- The arguments, and behind them the defaults of the positions that are not given. -/
def Entry.fillArgs (e : Entry) (args : List Value) : List Value :=
  args ++ e.defaults.drop args.length

/-- Calls a rule with exactly the arguments given, as a list. -/
def Entry.call (e : Entry) (v : Value) (args : List Value) (c : Context) :
    Routine (Except Crash Value) :=
  (e.predicate v args c).map fun answer =>
    match answer with
    | .error (.missingArgument _) => .error (.missingArgument false)
    | answer => answer

/-- What is offered as a predicate. -/
inductive Candidate where
  | predicate (p : Predicate)
  | other (kind : String)

/-- Why a rule is not registered. -/
inductive SetupFault where
  | badName (literal : String)
  | notCallable (name kind : String)
  | taken (name : String)
  | unknownPolicy (literal : String)
  deriving DecidableEq, Repr

namespace SetupFault

/-- The wording of a fault. -/
def message : SetupFault → String
  | .badName literal => "Invalid rule name: " ++ literal
  | .notCallable name _ => "Predicate for rule '" ++ name ++ "' is not callable"
  | .taken name => "Rule '" ++ name ++ "' already registered. Use override=True to replace."
  | .unknownPolicy literal => literal ++ " is not a valid EmptyPolicy"

/-- The details of a fault. -/
def details : SetupFault → Values
  | .badName literal => [("name", .text literal)]
  | .notCallable name kind => [("name", .text name), ("predicate", .text kind)]
  | .taken name => [("name", .text name)]
  | .unknownPolicy _ => []

end SetupFault

/-- What a rule is registered with. -/
structure Registration where
  name : Value
  candidate : Candidate
  defaults : List Value := []
  policy : Value := .text "skip"
  override : Bool := false

/-- Rules by name, in the order in which their names were added. -/
structure Registry where
  entries : List Entry := []

namespace Registry

/-- The names in order. -/
def names (r : Registry) : List String := r.entries.map Entry.name

/-- The entry of exactly this name. -/
def find? (r : Registry) (name : String) : Option Entry :=
  r.entries.find? fun e => e.name == name

/-- Puts an entry in the place of the one of its name, or at the end. -/
def put (r : Registry) (e : Entry) : Registry :=
  if (r.find? e.name).isSome then
    { entries := r.entries.map fun old => if old.name = e.name then e else old }
  else { entries := r.entries ++ [e] }

/-- The entry that a registration asks for, unless something is wrong with it. -/
def vet (r : Registry) (g : Registration) : Except SetupFault Entry :=
  match g.name with
  | .text name =>
    if !isNameLine name.toList then .error (.badName g.name.literalText)
    else
      match g.candidate with
      | .other kind => .error (.notCallable name kind)
      | .predicate predicate =>
        if (r.find? name).isSome && !g.override then .error (.taken name)
        else
          match Policy.ofValue? g.policy with
          | none => .error (.unknownPolicy g.policy.literalText)
          | some policy => .ok { name, predicate, defaults := g.defaults, policy }
  | v => .error (.badName v.literalText)

/-- Registers a rule: the entry and the changed registry. -/
def register (r : Registry) (g : Registration) : Except SetupFault (Entry × Registry) :=
  match r.vet g with
  | .ok e => .ok (e, r.put e)
  | .error fault => .error fault

/-- Removes a name. -/
def unregister (r : Registry) (name : String) : Registry :=
  { entries := r.entries.filter fun e => e.name != name }

/-- The entry that a name written in a specification means. -/
def lookup (r : Registry) (name : String) : Option Entry :=
  (r.find? name).or (r.find? (snakeString name))

/-- Whether a name means a rule. -/
def has (r : Registry) (name : String) : Bool := (r.lookup name).isSome

/-- A registry as it is written in messages. -/
def literalText (r : Registry) : String :=
  "RuleRegistry(rules=" ++ (Value.list (r.names.map Value.text)).literalText ++ ")"

/-- Registers rules one after the other; with the first that is refused the work ends, and those
before it stay. -/
def registerAll (r : Registry) : List Registration → Registry × Option SetupFault
  | [] => (r, none)
  | g :: rest =>
    match r.register g with
    | .ok (_, r') => r'.registerAll rest
    | .error fault => (r, some fault)

end Registry

end FieldCheck
