import FieldCheck.Form.Session
import FieldCheck.Proofs.Tasks
import Mathlib.Data.List.Forall2
import Mathlib.Data.List.Perm.Basic

/-!
# Fields side by side

The fields of a form are validated side by side; what comes of it is what comes of each field alone.

* `readFields_names`, `names_of_ofDefinitions` — the names of a form: those of the definitions in
  order, no two the same.
* `Form.written` — the mapping that every task writes its result into when it ends.
* `FieldWise` — the results of evaluating each field on its own.
* `FieldWise.of_idle` — what is there when no task may go on any more.

Principal result: `validate_any_order`.
-/

set_option autoImplicit false

-- a sum starts at the numeral zero, not at that of a semiring
attribute [local instance (1100)] Zero.ofOfNat0

namespace FieldCheck

/-! ## Names -/

theorem readFields_names {seen : List String} {rules : List FieldSettings} {fields : List Field}
    (h : Form.readFields seen rules = .ok fields) :
    fields.map Field.name = rules.map FieldSettings.name ∧ (fields.map Field.name).Nodup ∧
      ∀ name ∈ fields.map Field.name, name ∉ seen := by
  induction rules generalizing seen fields with
  | nil =>
    cases h
    exact ⟨rfl, List.nodup_nil, nofun⟩
  | cons f rest ih =>
    simp only [Form.readFields] at h
    split at h
    · cases h
    · rename_i hseen
      split at h
      · cases h
      · split at h
        · cases h
        · rename_i more hmore
          cases h
          obtain ⟨hnames, hnodup, hnew⟩ := ih hmore
          refine ⟨by rw [List.map_cons, List.map_cons, hnames]; rfl, ?_, ?_⟩
          · rw [List.map_cons, List.nodup_cons]
            exact ⟨fun hmem => hnew _ hmem List.mem_cons_self, hnodup⟩
          · intro name hname
            rcases List.mem_cons.mp hname with rfl | hname
            · exact fun hmem => hseen (List.contains_iff_mem.mpr hmem)
            · exact fun hmem => hnew name hname (List.mem_cons_of_mem _ hmem)

variable {definitions : List Definition} {registry : Registry} {config : Config}
  {messages : Messages} {surroundings : Surroundings} {form : Form}

/-- A form has the names of its definitions in order, and no name twice. -/
theorem names_of_ofDefinitions
    (h : Form.ofDefinitions definitions registry config messages surroundings = .ok form) :
    (∃ rules, definitions.mapM Definition.read = .ok rules ∧
      form.names = rules.map FieldSettings.name) ∧ form.names.Nodup := by
  unfold Form.ofDefinitions Form.fieldsOf at h
  cases hrules : definitions.mapM Definition.read with
  | error fault => simp only [hrules] at h; cases h
  | ok rules =>
    simp only [hrules] at h
    cases hfields : Form.readFields [] rules with
    | error fault => simp only [hfields] at h; cases h
    | ok fields =>
      simp only [hfields] at h
      cases h
      obtain ⟨hnames, hnodup, -⟩ := readFields_names hfields
      exact ⟨⟨rules, rfl, hnames⟩, hnodup⟩

/-- A form has the settings that it was made with. -/
theorem settings_of_ofDefinitions
    (h : Form.ofDefinitions definitions registry config messages surroundings = .ok form) :
    form.registry = registry ∧ form.config = config ∧ form.messages = messages ∧
      form.toSurroundings = surroundings := by
  unfold Form.ofDefinitions at h
  split at h
  · cases h
  · cases h
    exact ⟨rfl, rfl, rfl, rfl⟩

/-! ## The mapping that the tasks write into -/

/-- What a task that has ended writes. -/
def Form.entry? (form : Form) (p : Nat × Except FormFault Result) : Option (String × Option Result) :=
  match form.names[p.1]?, p.2 with
  | some name, .ok result => some (name, some result)
  | _, _ => none

/-- The mapping that the tasks write into as they end. -/
def Form.written (form : Form) (notes : List (Note FormFault Result)) : Results :=
  ((Group.completions notes).filterMap form.entry?).foldl
    (fun results p => Session.putResult p.1 p.2 results) []

theorem putResult_of_not_mem {name : String} {results : Results}
    (h : name ∉ results.map Prod.fst) (result : Option Result) :
    Session.putResult name result results = results ++ [(name, result)] := by
  induction results with
  | nil => rfl
  | cons p rest ih =>
    rw [List.map_cons, List.mem_cons, not_or] at h
    have hne : p.1 ≠ name := fun heq => h.1 heq.symm
    simp only [Session.putResult, hne, if_false, ih h.2, List.cons_append]

theorem foldl_putResult {entries results : Results}
    (h : ((results ++ entries).map Prod.fst).Nodup) :
    entries.foldl (fun results p => Session.putResult p.1 p.2 results) results =
      results ++ entries := by
  induction entries generalizing results with
  | nil => simp
  | cons p rest ih =>
    have hnew : p.1 ∉ results.map Prod.fst := by
      rw [List.map_append, List.nodup_append'] at h
      exact fun hmem => h.2.2 hmem List.mem_cons_self
    rw [List.foldl_cons, putResult_of_not_mem hnew, ih (by simpa using h), List.append_assoc]
    rfl

theorem entry?_eq_some_iff {p : Nat × Except FormFault Result} {q : String × Option Result} :
    form.entry? p = some q ↔
      ∃ result, form.names[p.1]? = some q.1 ∧ p.2 = .ok result ∧ q.2 = some result := by
  obtain ⟨i, r⟩ := p
  obtain ⟨name, value⟩ := q
  unfold Form.entry?
  cases hname : form.names[i]? with
  | none => simp
  | some other =>
    cases r with
    | error fault => simp
    | ok result =>
      simp only [Option.some.injEq, Prod.mk.injEq, Except.ok.injEq]
      constructor
      · rintro ⟨rfl, rfl⟩
        exact ⟨result, rfl, rfl, rfl⟩
      · rintro ⟨result', rfl, rfl, rfl⟩
        exact ⟨rfl, rfl⟩

/-- Tasks that end once each write one entry each. -/
theorem written_eq {notes : List (Note FormFault Result)} (hnames : form.names.Nodup)
    (hdistinct : ((Group.completions notes).map Prod.fst).Nodup) :
    form.written notes = (Group.completions notes).filterMap form.entry? ∧
      ((form.written notes).map Prod.fst).Nodup := by
  have hnodup : (((Group.completions notes).filterMap form.entry?).map Prod.fst).Nodup := by
    rw [List.Nodup, List.pairwise_map, List.pairwise_filterMap]
    rw [List.Nodup, List.pairwise_map] at hdistinct
    refine hdistinct.imp fun {a b} hab p hp q hq hpq => hab ?_
    obtain ⟨_, ha, -⟩ := entry?_eq_some_iff.mp hp
    obtain ⟨_, hb, -⟩ := entry?_eq_some_iff.mp hq
    rw [← hpq] at hb
    obtain ⟨hlt, -⟩ := List.getElem?_eq_some_iff.mp ha
    exact (List.getElem?_inj hlt hnames).mp (ha.trans hb.symm)
  have heq : form.written notes = (Group.completions notes).filterMap form.entry? := by
    rw [Form.written, foldl_putResult (by simpa using hnodup), List.nil_append]
  exact ⟨heq, heq ▸ hnodup⟩

/-! ## Each field on its own -/

/-- The results of evaluating each field on its own: its specification, on the value of its name,
with its own context. -/
def FieldWise (form : Form) (values : Values) (results : List Result) : Prop :=
  List.Forall₂ (fun f result =>
    (evaluate form.registry f.spec ((values.find? f.name).getD .absent)
      (form.contextOf f values)).result = .ok result) form.fields results

/-- The task of a field comes to a result if the field on its own does. -/
theorem fieldTasks_result_iff {values : Values} {i : Nat} {result : Result}
    {work : Routine (Except FormFault Result)} (hi : i < form.fields.length)
    (hwork : (form.fieldTasks values)[i]? = some work) :
    work.result = .ok result ↔ (form.evaluateField form.fields[i] values).result = .ok result := by
  rw [Form.fieldTasks, List.getElem?_map, List.getElem?_eq_getElem hi] at hwork
  rw [← Option.some.inj hwork, Routine.result_map]
  cases (form.evaluateField form.fields[i] values).result with
  | error fault => simp
  | ok other => simp

namespace FieldWise

variable {values : Values} {results : List Result} {places : Option Nat} {order : List Nat}
  {g : Group FormFault Result} {notes : List (Note FormFault Result)}

theorem length_eq (h : FieldWise form values results) : results.length = form.names.length := by
  rw [Form.names, List.length_map]
  exact (List.Forall₂.length_eq h).symm

/-- The task of a field comes to the result of the field on its own. -/
theorem task (h : FieldWise form values results) {i : Nat} {result : Result}
    (hi : results[i]? = some result) :
    ∃ work, (form.fieldTasks values)[i]? = some work ∧ work.result = .ok result := by
  obtain ⟨hlt, rfl⟩ := List.getElem?_eq_some_iff.mp hi
  have hlt' : i < form.fields.length := by rwa [List.Forall₂.length_eq h]
  have halone : (form.evaluateField form.fields[i] values).result = .ok results[i] :=
    List.Forall₂.get h hlt' hlt
  obtain ⟨work, hwork⟩ : ∃ work, (form.fieldTasks values)[i]? = some work := by
    rw [Form.fieldTasks, List.getElem?_map, List.getElem?_eq_getElem hlt']
    exact ⟨_, rfl⟩
  exact ⟨work, hwork, (fieldTasks_result_iff hlt' hwork).mpr halone⟩

theorem tasks_ok (h : FieldWise form values results) :
    ∀ work ∈ form.fieldTasks values, ∃ result, work.result = .ok result := by
  intro work hwork
  obtain ⟨i, hi⟩ := List.getElem?_of_mem hwork
  have hlt : i < results.length := by
    rw [h.length_eq, Form.names, List.length_map]
    simpa [Form.fieldTasks] using (List.getElem?_eq_some_iff.mp hi).1
  obtain ⟨other, hother, hresult⟩ := h.task (List.getElem?_eq_getElem hlt)
  obtain rfl : work = other := Option.some.inj (hi.symm.trans hother)
  exact ⟨_, hresult⟩

/-- When no task may go on, the task of every field has come to the result of that field. -/
theorem finished (h : FieldWise form values results) (hplaces : places ≠ some 0)
    (hcourse : (Group.ofRoutines places (form.fieldTasks values)).Course order g notes)
    (hidle : ∀ i, g.mayGo i = false) {i : Nat} {result : Result} (hi : results[i]? = some result) :
    g.phases[i]? = some (.finished (.ok result)) := by
  obtain ⟨work, hwork, hresult⟩ := h.task hi
  rw [← hresult]
  exact hcourse.tended.all_finished hplaces hidle hwork

theorem resultsOf_eq (h : FieldWise form values results) (hplaces : places ≠ some 0)
    (hcourse : (Group.ofRoutines places (form.fieldTasks values)).Course order g notes)
    (hidle : ∀ i, g.mayGo i = false) :
    form.resultsOf g = form.names.zip (results.map some) := by
  refine List.ext_getElem (by simp [Form.resultsOf, h.length_eq]) fun i hi hi' => ?_
  have hlt : i < results.length := by
    rw [h.length_eq]
    simpa [Form.resultsOf] using hi
  have hfinished := h.finished hplaces hcourse hidle (List.getElem?_eq_getElem hlt)
  simp [Form.resultsOf, Group.resultOf?, hfinished]

/-- The mapping that the tasks write into has the result of every field, each once. -/
theorem written_perm (h : FieldWise form values results) (hnames : form.names.Nodup)
    (hplaces : places ≠ some 0)
    (hcourse : (Group.ofRoutines places (form.fieldTasks values)).Course order g notes)
    (hidle : ∀ i, g.mayGo i = false) :
    (form.written notes).Perm (form.names.zip (results.map some)) := by
  obtain ⟨hwritten, hkeys⟩ := written_eq hnames hcourse.tended.distinct
  have hkeys' : ((form.names.zip (results.map some)).map Prod.fst).Nodup := by
    rwa [List.map_fst_zip (by simp [h.length_eq])]
  refine (List.perm_ext_iff_of_nodup hkeys.of_map hkeys'.of_map).mpr fun q => ?_
  rw [hwritten, List.mem_filterMap, List.mem_iff_getElem?]
  constructor
  · rintro ⟨p, hp, hentry⟩
    obtain ⟨result, hname, hok, hq⟩ := entry?_eq_some_iff.mp hentry
    obtain ⟨hlt, -⟩ := List.getElem?_eq_some_iff.mp hname
    have hlt' : p.1 < results.length := by rwa [h.length_eq]
    have hfinished := h.finished hplaces hcourse hidle (List.getElem?_eq_getElem hlt')
    have hp' : (p.1, Except.ok result) ∈ Group.completions notes := by rwa [← hok]
    rw [hcourse.tended.completed.mp hp'] at hfinished
    simp only [Option.some.injEq, Phase.finished.injEq, Except.ok.injEq] at hfinished
    refine ⟨p.1, List.getElem?_zip_eq_some.mpr ⟨hname, ?_⟩⟩
    rw [List.getElem?_map, List.getElem?_eq_getElem hlt', hq, hfinished]
    rfl
  · rintro ⟨i, hi⟩
    obtain ⟨hname, hvalue⟩ := List.getElem?_zip_eq_some.mp hi
    rw [List.getElem?_map, Option.map_eq_some_iff] at hvalue
    obtain ⟨result, hresult, hq⟩ := hvalue
    have hfinished := h.finished hplaces hcourse hidle hresult
    refine ⟨(i, .ok result), hcourse.tended.completed.mpr hfinished, ?_⟩
    exact entry?_eq_some_iff.mpr ⟨result, hname, rfl, hq.symm⟩

end FieldWise

/-- **What a validation that returns has of a field**: the result of that field on its own. -/
structure Form.Returned (form : Form) (values : Values) (f : Field) (p : String × Option Result) :
    Prop where
  name : p.1 = f.name
  alone {result : Result} : p.2 = some result → (form.evaluateField f values).result = .ok result
  there : form.config.maxConcurrency ≠ some 0 → p.2.isSome = true

theorem resultsOf_get (g : Group FormFault Result) {i : Nat} (hi : i < form.fields.length)
    {hi' : i < (form.resultsOf g).length} :
    (form.resultsOf g).get ⟨i, hi'⟩ = (form.fields[i].name, g.resultOf? i) := by
  simp [Form.resultsOf, Form.names]

/-- A validation returns nothing but the results of its fields, each on its own. -/
theorem returned_of_validate {values : Values} {results : Results}
    (h : (form.validate values).result = .ok results) :
    List.Forall₂ (form.Returned values) form.fields results := by
  simp only [Form.validate] at h
  split at h
  · rename_i hempty
    obtain ⟨order, hcourse, hidle, hnone⟩ := Group.run_course_of_errors (List.isEmpty_iff.mp hempty)
    rw [Except.ok.injEq] at h
    subst h
    refine List.forall₂_iff_get.mpr ⟨by simp [Form.resultsOf, Form.names], fun i hi hi' => ?_⟩
    obtain ⟨work, hwork⟩ : ∃ work, (form.fieldTasks values)[i]? = some work := by
      rw [Form.fieldTasks, List.getElem?_map, List.getElem?_eq_getElem hi]
      exact ⟨_, rfl⟩
    rw [resultsOf_get _ hi]
    refine ⟨rfl, fun {result} hresult => ?_, fun hplaces => ?_⟩
    · obtain ⟨other, hother, hserves⟩ :=
        hcourse.tended.serves (Group.resultOf?_eq_some_iff.mp hresult)
      obtain rfl : other = work := Option.some.inj (hother.symm.trans hwork)
      exact (fieldTasks_result_iff hi hwork).mp hserves.symm
    · have hphase := hcourse.tended.all_finished hplaces hidle hwork
      cases hend : work.result with
      | ok result =>
        rw [hend, ← Group.resultOf?_eq_some_iff] at hphase
        show ((form.fieldGroup values).run.group.resultOf? i).isSome = true
        rw [Form.fieldGroup, hphase]
        rfl
      | error fault =>
        rw [hend, ← Group.errorOf?_eq_some_iff, hnone i] at hphase
        cases hphase
  · cases h

/-- **Validating a form comes to the results of its fields, each on its own, in the order of the
definitions.**  The tasks of the fields may go on in any order, with any number of places: no course
of them goes on for ever, and when no task may go on any more, the result of every field is there,
each once and under its own name. -/
theorem validate_any_order
    (hform : Form.ofDefinitions definitions registry config messages surroundings = .ok form)
    (hconfig : config.maxConcurrency ≠ some 0) {values : Values} {results : List Result}
    (hresults : FieldWise form values results) :
    (∃ rules, definitions.mapM Definition.read = .ok rules ∧
      form.names = rules.map FieldSettings.name) ∧
    form.names.Nodup ∧ results.length = form.names.length ∧
    (form.validate values).result = .ok (form.names.zip (results.map some)) ∧
    ∀ places ≠ some 0, ∀ order g notes,
      (Group.ofRoutines places (form.fieldTasks values)).Course order g notes →
      order.length ≤ ((form.fieldTasks values).map fun work => work.pauses + 2).sum ∧
      ((∀ i, g.mayGo i = false) →
        form.resultsOf g = form.names.zip (results.map some) ∧
        (form.written notes).Perm (form.names.zip (results.map some))) := by
  obtain ⟨hdefined, hnames⟩ := names_of_ofDefinitions hform
  refine ⟨hdefined, hnames, hresults.length_eq, ?_, fun places hplaces order g notes hcourse => ⟨?_, ?_⟩⟩
  · have hplaces : form.config.maxConcurrency ≠ some 0 := by
      rwa [(settings_of_ofDefinitions hform).2.1]
    obtain ⟨order, hcourse, hidle, herrors⟩ :=
      Group.run_course form.config.maxConcurrency hresults.tasks_ok
    have hresultsOf := hresults.resultsOf_eq hplaces hcourse hidle
    simp only [Form.validate, Form.fieldGroup, herrors, List.isEmpty_nil, if_true]
    rw [hresultsOf]
  · rw [← Group.left_ofRoutines places]
    exact Nat.le_of_add_right_le hcourse.length_add_left_le
  · intro hidle
    exact ⟨hresults.resultsOf_eq hplaces hcourse hidle,
      hresults.written_perm hnames hplaces hcourse hidle⟩

/-- A rule that pauses before it says yes, and one that answers at once. -/
def crowdedRegistry : Registry where
  entries :=
    [{ name := "slow", predicate := fun _ _ _ => .after 3 (.done (.ok (.bool true))) },
      { name := "quick", predicate := fun v _ _ => .done (.ok (.bool v.truthy)) }]

/-- A field with the slow rule, and behind it one with the quick rule. -/
def crowdedDefinitions : List Definition :=
  [.rules { name := "first", rules := .spec [{ name := "slow" }] none },
    .rules { name := "second", rules := .spec [{ name := "quick" }] none }]

def crowdedForm : Form where
  fields :=
    [⟨{ name := "first", rules := .spec [{ name := "slow" }] none }, { rules := [{ name := "slow" }] }⟩,
      ⟨{ name := "second", rules := .spec [{ name := "quick" }] none },
        { rules := [{ name := "quick" }] }⟩]
  registry := crowdedRegistry
  config := { maxConcurrency := some 1 }

theorem validate_any_order_crowded :
    Form.ofDefinitions crowdedDefinitions crowdedRegistry { maxConcurrency := some 1 } {} =
        .ok crowdedForm ∧
      FieldWise crowdedForm [("second", .bool false), ("first", .int 1)]
        [{}, { failure := some { rule := "quick", args := [], passed := false } }] ∧
      (crowdedForm.validate [("second", .bool false), ("first", .int 1)]).result =
        .ok [("first", some {}),
          ("second", some { failure := some { rule := "quick", args := [], passed := false } })] := by
  have hform : Form.ofDefinitions crowdedDefinitions crowdedRegistry { maxConcurrency := some 1 } {} =
      .ok crowdedForm := rfl
  have hresults : FieldWise crowdedForm [("second", .bool false), ("first", .int 1)]
      [{}, { failure := some { rule := "quick", args := [], passed := false } }] :=
    .cons rfl (.cons rfl .nil)
  refine ⟨hform, hresults, ?_⟩
  exact (validate_any_order hform (by decide) hresults).2.2.2.1

end FieldCheck
