import FieldCheck.Evaluation.Run
import FieldCheck.Form.Settings
import FieldCheck.Message.Default
import FieldCheck.Registry.Standard

/-!
# Forms

A form has fields, each with a label and a specification that is read once.

* `Definition` — what a field may be defined by.
* `FormFault` — what can be wrong with a form or with its use, with `FormFault.record?` for the
  faults that have details.
* `Form.ofDefinitions` — the form: all definitions are read first, then the fields are added one by
  one, so that a field that is there already comes before a malformed specification behind it.
* `Form.evaluateField` — one field against the values of all fields.
-/

set_option autoImplicit false

namespace FieldCheck

/-- What a field is defined by. -/
inductive Definition where
  | rules (f : FieldSettings)
  | value (v : Value)

/-- What can be wrong with a form or with its use. -/
inductive FormFault where
  | rejected (settings : List Rejected)
  | unsupported (kind : String)
  | twice (name : String)
  | unknownField (name : String) (available : List String)
  | evaluation (fault : Fault)
  deriving DecidableEq, Repr

namespace FormFault

/-- What is said of a field that a form does not have. -/
def unknownText (name : String) (available : List String) : String :=
  "Field '" ++ name ++ "' not defined. Available: " ++
    (Value.list (available.map Value.text)).literalText

/-- The fault with its details, for the faults that have some. -/
def record? : FormFault → Option FaultRecord
  | .rejected _ | .unknownField .. => none
  | .unsupported kind =>
    some
      { kind := .configuration
        message := "Unsupported field definition: " ++ kind
        details := Fault.textKeys [("type", .text kind)] }
  | .twice name =>
    some
      { kind := .configuration
        message := "Field '" ++ name ++ "' defined twice"
        details := Fault.textKeys [("field", .text name)] }
  | .evaluation fault => some fault.record

end FormFault

/-- The members of a dictionary whose keys are texts. -/
def namedMembers (entries : List (Value × Value)) : Values :=
  entries.filterMap fun p =>
    match p.1 with
    | .text s => some (s, p.2)
    | _ => none

/-- The rules of a definition. -/
def Definition.read : Definition → Except FormFault FieldSettings
  | .rules f => .ok f
  | .value (.dict entries) =>
    match FieldSettings.ofPairs (namedMembers entries) with
    | .ok f => .ok f
    | .error rs => .error (.rejected rs)
  | .value v => .error (.unsupported v.kind)

/-- The definition of a name, for forms that are given as names with rules. -/
def Definition.ofNamed (p : String × Value) : Definition :=
  .value (.dict [(.text "name", .text p.1), (.text "rules", p.2)])

/-- A field whose specification has been read. -/
structure Field where
  rules : FieldSettings
  spec : Spec

/-- The name of a field. -/
def Field.name (f : Field) : String := f.rules.name

/-- A form, and what its evaluations find around them. -/
structure Form extends Surroundings where
  fields : List Field := []
  registry : Registry := Registry.standard
  config : Config := {}
  messages : Messages := {}

namespace Form

/-- The names of the fields in order. -/
def names (form : Form) : List String := form.fields.map Field.name

/-- The field of a name. -/
def field? (form : Form) (name : String) : Option Field :=
  form.fields.find? fun f => f.name == name

/-- The field of a name; a name that the form does not have is a fault. -/
def field (form : Form) (name : String) : Except FormFault Field :=
  match form.field? name with
  | some f => .ok f
  | none => .error (.unknownField name form.names)

/-- A form as it is written in messages. -/
def literalText (form : Form) : String :=
  "FormValidator(fields=" ++ (Value.list (form.names.map Value.text)).literalText ++ ")"

/-- Reads specifications in order; `seen` are the names of the fields before. -/
def readFields (seen : List String) : List FieldSettings → Except FormFault (List Field)
  | [] => .ok []
  | f :: rest =>
    if seen.contains f.name then .error (.twice f.name)
    else
      match Spec.ofValue f.rules with
      | .error fault => .error (.evaluation (.spec fault))
      | .ok spec =>
        match readFields (f.name :: seen) rest with
        | .error fault => .error fault
        | .ok fields => .ok (⟨f, spec⟩ :: fields)

/-- The fields of definitions. -/
def fieldsOf (definitions : List Definition) : Except FormFault (List Field) :=
  match definitions.mapM Definition.read with
  | .error fault => .error fault
  | .ok rules => readFields [] rules

/-- A form from definitions in order. -/
def ofDefinitions (definitions : List Definition) (registry : Registry) (config : Config)
    (messages : Messages) (surroundings : Surroundings := {}) : Except FormFault Form :=
  match fieldsOf definitions with
  | .error fault => .error fault
  | .ok fields => .ok { surroundings with fields, registry, config, messages }

/-- The view of a field. -/
def contextOf (form : Form) (f : Field) (values : Values) : Context :=
  Context.ofField f.name values (some f.rules.shownName) form.config form.toSurroundings

/-- Evaluates a field against the values of all fields. -/
def evaluateField (form : Form) (f : Field) (values : Values) : Routine (Except Fault Result) :=
  let c := form.contextOf f values
  evaluate form.registry f.spec c.value c

/-- The message of a failing field. -/
def messageOf (form : Form) (f : Field) (o : Outcome) : Except TemplateFault String :=
  form.messages.resolve o f.rules.shownName form.room

end Form

end FieldCheck
