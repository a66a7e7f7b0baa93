import FieldCheck.Value.Limits

/-!
# What a rule sees

* `Config` — switches of the whole engine.
* `Surroundings` — what an evaluation finds around it: the present moment and the nested calls that
  are left.
* `Context` — the field under validation, its label, the values of the other fields, the switches,
  and the surroundings.
-/

set_option autoImplicit false

namespace FieldCheck

/-- Switches of the whole engine. -/
structure Config where
  /-- A required text is trimmed before it is found empty. -/
  trimRequired : Bool := false
  /-- How many fields may be evaluated at once. -/
  maxConcurrency : Option Nat := none
  /-- Whether each evaluation is shown. -/
  verbose : Bool := false
  deriving DecidableEq, Repr

/-- What an evaluation finds around it. -/
structure Surroundings where
  /-- The moment that counts as the present. -/
  now : Moment := Moment.midnight ⟨2026, 1, 1⟩
  /-- How many nested calls are granted to whoever writes a value out. -/
  room : Nat := usualRoom

/-- What a rule sees besides the value and its own arguments. -/
structure Context extends Surroundings where
  fieldName : Option String := none
  value : Value := .absent
  values : Values := []
  label : Option String := none
  config : Config := {}

namespace Context

/-- The text of an option, unless it is empty. -/
def filled (s : Option String) : Option String :=
  match s with
  | some t => if t.isEmpty then none else some t
  | none => none

/-- The label, else the name of the field, else a placeholder. -/
def shownName (c : Context) : String :=
  ((filled c.label).or (filled c.fieldName)).getD "This field"

/-- Whether there is a field of this name. -/
def has (c : Context) (name : String) : Bool := (c.values.find? name).isSome

/-- The value of another field. -/
def other? (c : Context) (name : String) : Option Value := c.values.find? name

/-- The same view of another value. -/
def about (c : Context) (v : Value) : Context := { c with value := v }

/-- The view of a field of a form. -/
def ofField (name : String) (values : Values) (label : Option String) (config : Config)
    (surroundings : Surroundings := {}) : Context :=
  { surroundings with
    fieldName := some name, value := (values.find? name).getD .absent, values, label, config }

/-- A context as it is written in messages. -/
def literalText (c : Context) : String :=
  "EvaluationContext(field=" ++ (c.fieldName.elim "None" Text.quotedString) ++ ", siblings=" ++
    (Value.list (c.values.map fun p => .text p.1)).literalText ++ ")"

end Context

end FieldCheck
