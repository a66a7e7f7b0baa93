import FieldCheck.Form.Coercion
import FieldCheck.Rule.Context

/-!
# Settings of the engine and of a field

* `Config.ofPairs` — the switches of the engine from named values; unknown names are rejected.
* `FieldSettings` — the name, the rules and the label of a field, with `FieldSettings.ofPairs`, which
  leaves unknown names aside.
-/

set_option autoImplicit false

namespace FieldCheck

/-- A rejected setting. -/
abbrev Rejected := Rejection × String

/-- The rejections of some settings in the order in which they are reported. -/
def sortRejected (rs : List Rejected) : List Rejected :=
  rs.mergeSort fun a b =>
    a.1.name < b.1.name || (a.1.name == b.1.name && a.2 ≤ b.2)

/-- A setting that may be missing. -/
def setting {α : Type} (pairs : Values) (name : String) (usual : α)
    (read : Value → Except Rejection α) : α × List Rejected :=
  match pairs.find? name with
  | none => (usual, [])
  | some v =>
    match read v with
    | .ok a => (a, [])
    | .error e => (usual, [(e, name)])

/-- A setting that may be nothing. -/
def orNothing {α : Type} (read : Value → Except Rejection α) : Value → Except Rejection (Option α)
  | .absent => .ok none
  | v => (read v).map some

/-- The settings of the engine. -/
def configNames : List String := ["trim_required", "max_concurrency", "verbose"]

/-- The switches of the engine from named values. -/
def Config.ofPairs (pairs : Values) : Except (List Rejected) Config :=
  let (trimRequired, e₁) := setting pairs "trim_required" false flagOf
  let (maxConcurrency, e₂) := setting pairs "max_concurrency" none (orNothing countOf)
  let (verbose, e₃) := setting pairs "verbose" false flagOf
  let unknown := (pairs.filter fun p => !configNames.contains p.1).map fun p =>
    (Rejection.unknownSetting, p.1)
  match e₁ ++ e₂ ++ e₃ ++ unknown with
  | [] => .ok { trimRequired, maxConcurrency, verbose }
  | rejected => .error (sortRejected rejected)

/-- A field of a form. -/
structure FieldSettings where
  name : String
  rules : Value := .text ""
  label : Option String := none

namespace FieldSettings

/-- The label, unless it is empty, else the name. -/
def shownName (f : FieldSettings) : String := (Context.filled f.label).getD f.name

/-- A name, which may not be empty. -/
def nameOf (v : Value) : Except Rejection String :=
  match textOf v with
  | .ok s => if s.isEmpty then .error .textTooShort else .ok s
  | .error e => .error e

/-- A field from named values. -/
def ofPairs (pairs : Values) : Except (List Rejected) FieldSettings :=
  let (name, e₁) :=
    match pairs.find? "name" with
    | none => ("", [(Rejection.missing, "name")])
    | some _ => setting pairs "name" "" nameOf
  let (label, e₂) := setting pairs "label" none (orNothing textOf)
  match e₁ ++ e₂ with
  | [] => .ok { name, rules := (pairs.find? "rules").getD (.text ""), label }
  | rejected => .error (sortRejected rejected)

end FieldSettings

end FieldCheck
