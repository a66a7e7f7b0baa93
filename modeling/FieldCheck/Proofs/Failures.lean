import FieldCheck.Proofs.Fields
import FieldCheck.Proofs.Registries
import FieldCheck.Proofs.Setup
import Mathlib.Algebra.BigOperators.Group.List.Basic

/-!
# The errors of a validation

Where no rule pauses and there is no cap, every field has come to its end before the first error is
looked at, so no error is lost.

* `faultOf?` — the error of a result.
* `sweep`, `midway`, `steps_midway` — tasks that never pause come to their end one after the other.
* `errors_steps_notice` — after that their errors are noticed in turn, and nothing is left to cancel.
* `run_errors` — the errors of a run are those of its tasks.
* `Registry.Prompt`, `evaluateWith_pauses` — rules that answer at once make evaluations that never pause.
* `Form.failing`, `fieldGroup_errors` — the fields that fail on their own, and the run that validates
  all fields.
* `Form.KeepsErrors` — all that is to be known of the errors of a validation.

Principal result: `validate_keeps_errors`.
-/

set_option autoImplicit false

-- a sum starts at the numeral zero, not at that of a semiring
attribute [local instance (1100)] Zero.ofOfNat0

namespace FieldCheck

/-! ## Tasks that never pause -/

namespace Routine

theorem resume_of_pauses_eq_zero {α : Type} {p : Routine α} (h : p.pauses = 0) :
    p.resume.1 = .ended p.result := by
  induction p with
  | done a => rfl
  | pause next _ => cases h
  | emit e next ih => exact ih h

end Routine

/-- The error of a result. -/
def faultOf? {ε α : Type} : Except ε α → Option ε
  | .error e => some e
  | .ok _ => none

namespace Group

variable {ε α : Type} {work : Routine (Except ε α)} {rest works : List (Routine (Except ε α))}
  {notes : List (Note ε α)} {n : Nat}

/-- A group without a cap, of which the first tasks have come to their end and the others have not
begun. -/
def sweep (done rest : List (Routine (Except ε α))) : Group ε α :=
  { phases := (done.map fun work => .finished work.result) ++ rest.map Phase.fresh }

/-- A task that never pauses comes to its end when it is let go. -/
theorem advance_sweep (done rest : List (Routine (Except ε α))) (h : work.pauses = 0) : ∃ notes,
    (sweep done (work :: rest)).advance done.length =
      { group := sweep (done ++ [work]) rest, notes, ended := true } := by
  have hphase : (sweep done (work :: rest)).phases[done.length]? = some (.fresh work) := by
    simp [sweep]
  have hput : (sweep done (work :: rest)).put done.length (.finished work.result) =
      sweep (done ++ [work]) rest := by
    simp [sweep, put]
  have hended : work.resume = (.ended work.result, work.resume.2) :=
    Prod.ext (Routine.resume_of_pauses_eq_zero h) rfl
  have hbegin : (sweep done (work :: rest)).begin done.length work =
      { group := sweep (done ++ [work]) rest
        notes := work.resume.2.map .shown ++ [.finished done.length work.result]
        ended := true } := by
    show (sweep done (work :: rest)).runTask done.length work = _
    rw [runTask, hended]
    simp only [hput]
    rfl
  simp only [advance, hphase, hbegin]
  exact ⟨_, rfl⟩

/-- A run in which the first tasks have had their turn. -/
def midway (done rest : List (Routine (Except ε α))) (notes : List (Note ε α)) : Run ε α :=
  { group := sweep done rest
    turns := (List.range' done.length rest.length).map Turn.advance ++
      (List.range' 0 done.length).map Turn.notice
    notes }

theorem step_midway (done rest : List (Routine (Except ε α))) (h : work.pauses = 0)
    (notes : List (Note ε α)) : ∃ notes',
      (midway done (work :: rest) notes).step = midway (done ++ [work]) rest notes' := by
  obtain ⟨new, hadvance⟩ := advance_sweep done rest h
  have hturns : (midway done (work :: rest) notes).turns =
      .advance done.length :: ((List.range' (done ++ [work]).length rest.length).map Turn.advance ++
        (List.range' 0 done.length).map Turn.notice) := by
    simp [midway, List.range'_succ]
  refine ⟨notes ++ new, ?_⟩
  rw [Run.step, hturns]
  show Run.mk ((sweep done (work :: rest)).advance done.length).group _ _ _ _ = _
  simp [midway, List.range'_1_concat, hadvance]

/-- One turn after the other, all tasks come to their end. -/
theorem steps_midway (done : List (Routine (Except ε α))) (hrest : ∀ work ∈ rest, work.pauses = 0)
    (notes : List (Note ε α)) : ∃ notes', Run.steps (rest.length + n) (midway done rest notes) =
      Run.steps n (midway (done ++ rest) [] notes') := by
  induction rest generalizing done notes with
  | nil => exact ⟨notes, by rw [List.length_nil, Nat.zero_add, List.append_nil]⟩
  | cons work rest ih =>
    obtain ⟨hwork, hrest⟩ := List.forall_mem_cons.mp hrest
    obtain ⟨between, hstep⟩ := step_midway done rest hwork notes
    obtain ⟨notes', hsteps⟩ := ih (done ++ [work]) hrest between
    refine ⟨notes', ?_⟩
    have hturns : (midway done (work :: rest) notes).turns.isEmpty = false := rfl
    rw [List.length_cons, Nat.add_right_comm, Run.steps, hturns, hstep]
    simpa using hsteps

/-- Where every task has come to its end, nothing is left to cancel. -/
theorem cancel_sweep (works : List (Routine (Except ε α))) :
    (sweep works []).cancel = (sweep works [], []) ∧ (sweep works []).isOpen = false := by
  have hphases : (sweep works []).phases.map Phase.cancel = (sweep works []).phases := by
    simp [sweep, Phase.cancel]
  have hwaiting : (sweep works []).waitingTasks = [] := by
    simp [sweep, waitingTasks, List.zipIdx_map]
  refine ⟨?_, by simp [sweep, isOpen, Phase.isOpen]⟩
  rw [cancel, hphases, hwaiting]
  rfl

theorem errorOf?_sweep (done rest : List (Routine (Except ε α))) (work : Routine (Except ε α)) :
    (sweep (done ++ work :: rest) []).errorOf? done.length = faultOf? work.result := by
  cases h : work.result <;> simp [errorOf?, sweep, h, faultOf?]

/-- Looking at the results one after the other finds the errors in order. -/
theorem errors_steps_notice (done rest : List (Routine (Except ε α))) {r : Run ε α}
    (hgroup : r.group = sweep (done ++ rest) [])
    (hturns : r.turns = (List.range' done.length rest.length).map Turn.notice) :
    (Run.steps (rest.length + n) r).errors = r.errors ++ rest.filterMap fun w => faultOf? w.result := by
  induction rest generalizing done r with
  | nil =>
    have hempty : r.turns = [] := hturns
    cases n with
    | zero => simp [Run.steps]
    | succ n => simp [Run.steps, hempty]
  | cons work rest ih =>
    have hcons : r.turns = .notice done.length ::
        (List.range' (done ++ [work]).length rest.length).map Turn.notice := by
      rw [hturns]
      simp [List.range'_succ]
    have herror : r.group.errorOf? done.length = faultOf? work.result := by
      rw [hgroup, errorOf?_sweep]
    have hstep : r.step.group = sweep (done ++ [work] ++ rest) [] ∧
        r.step.turns = (List.range' (done ++ [work]).length rest.length).map Turn.notice ∧
        r.step.errors = r.errors ++ (faultOf? work.result).toList := by
      rw [Run.step, hcons]
      simp only [herror]
      cases faultOf? work.result with
      | none => simp [hgroup]
      | some e =>
        obtain ⟨hcancel, hopen⟩ := cancel_sweep (done ++ work :: rest)
        by_cases hcancelling : r.cancelling = true
        · simp [hcancelling, hgroup]
        · simp [hcancelling, Run.cancel, hgroup, hcancel, hopen]
    obtain ⟨hgroup', hturns', herrors⟩ := hstep
    have hsome : r.turns.isEmpty = false := by rw [hcons]; rfl
    rw [List.length_cons, Nat.add_right_comm, Run.steps, hsome]
    simp only [Bool.false_eq_true, if_false]
    rw [ih (done ++ [work]) hgroup' hturns', herrors, List.filterMap_cons]
    cases faultOf? work.result with
    | none => simp
    | some e => simp

theorem length_le_turnsOf (g : Group ε α) : g.phases.length ≤ (g.phases.map turnsOf).sum := by
  have hturns : ∀ n ∈ g.phases.map turnsOf, 1 ≤ n := by
    rintro n hn
    obtain ⟨p, -, rfl⟩ := List.mem_map.mp hn
    exact Nat.one_le_of_lt (left_lt_turnsOf p)
  simpa using List.length_le_sum_of_one_le _ hturns

/-- **The errors of a run are those of its tasks**, if none of them pauses and there is no cap. -/
theorem run_errors (hworks : ∀ work ∈ works, work.pauses = 0) :
    (ofRoutines none works).run.errors = works.filterMap fun work => faultOf? work.result := by
  have hstart : (⟨ofRoutines none works,
      (List.range (ofRoutines none works).phases.length).map Turn.advance, [], [], false⟩ : Run ε α) =
        midway [] works [] := by
    simp [midway, ofRoutines, sweep, List.range_eq_range']
  -- one turn to come to its end and one to be looked at, for each task
  obtain ⟨n, hn⟩ : ∃ n, 2 * ((ofRoutines none works).phases.map turnsOf).sum + 2 =
      works.length + (works.length + n) := by
    have henough : (ofRoutines none works).phases.length = works.length := List.length_map _
    have := length_le_turnsOf (ofRoutines none works)
    exact ⟨2 * ((ofRoutines none works).phases.map turnsOf).sum + 2 - 2 * works.length, by omega⟩
  obtain ⟨notes, hsteps⟩ := steps_midway (n := works.length + n) [] hworks []
  rw [run, hn, hstart, hsteps]
  exact errors_steps_notice [] works rfl (by simp [midway])

end Group

/-! ## Rules that never pause -/

/-- Every rule of the registry answers without a pause. -/
def Registry.Prompt (r : Registry) : Prop :=
  ∀ e ∈ r.entries, ∀ v args c, (e.predicate v args c).pauses = 0

section Prompt

variable {halts : Step → Bool} {r : Registry} {spec : Spec} {v : Value} {c : Context}

theorem runSteps_pauses {steps : List Step} (h : ∀ s ∈ steps, (s.call v c).pauses = 0) :
    (runSteps halts v c steps).pauses = 0 := by
  induction steps with
  | nil => rfl
  | cons s rest ih =>
    obtain ⟨hs, hrest⟩ := List.forall_mem_cons.mp h
    rw [runSteps_cons, Routine.pauses_bind, hs]
    cases s.judge c (s.call v c).result with
    | error fault => rfl
    | ok o =>
      by_cases hstop : (!o.passed && halts s) = true
      · simp only [hstop, if_true, Routine.pauses_done]
      · simp only [hstop, Bool.false_eq_true, if_false, Routine.pauses_map, ih hrest]

theorem showReport_pauses (report : Report) : (showReport c report).pauses = 0 := by
  unfold showReport
  split <;> rfl

theorem evaluateWith_pauses (hprompt : r.Prompt) : (evaluateWith halts r spec v c).pauses = 0 := by
  by_cases hn : spec.rules = []
  · rw [evaluateWith_of_nil hn]
    rfl
  · cases hplan : r.plan spec v with
    | error fault =>
      rw [evaluateWith_of_error hn hplan]
      rfl
    | ok steps =>
      have hsteps : ∀ s ∈ steps, (s.call v (c.about v)).pauses = 0 := fun s hs =>
        hprompt _ (List.mem_of_find?_eq_some (entry_of_plan hplan hs)) _ _ _
      simp only [evaluateWith, hn, hplan, List.isEmpty_iff, if_false, Routine.pauses_bind,
        runSteps_pauses hsteps]
      cases (runSteps halts v (c.about v) steps).result with
      | error fault => rfl
      | ok outcomes => exact (Nat.zero_add _).trans (showReport_pauses _)

end Prompt

/-! ## Fields that fail on their own -/

section Failing

variable {form : Form} {tokens : Tokens} {values : Values} {name : String} {fault : FormFault}

/-- The fields that fail on their own, in order, with their errors. -/
def Form.failing (form : Form) (tokens : Tokens) (values : Values) : List (String × FormFault) :=
  form.names.filterMap fun name =>
    (faultOf? (form.validateField tokens name values none).result).map fun fault => (name, fault)

theorem faultOf?_eq_some_iff {ε α : Type} {result : Except ε α} {e : ε} :
    faultOf? result = some e ↔ result = .error e := by
  cases result <;> simp [faultOf?]

theorem mem_failing_iff : (name, fault) ∈ form.failing tokens values ↔
    name ∈ form.names ∧ (form.validateField tokens name values none).result = .error fault := by
  simp only [Form.failing, List.mem_filterMap, Option.map_eq_some_iff, faultOf?_eq_some_iff,
    Prod.mk.injEq]
  constructor
  · rintro ⟨_, hname, _, hfault, rfl, rfl⟩
    exact ⟨hname, hfault⟩
  · rintro ⟨hname, hfault⟩
    exact ⟨name, hname, fault, hfault, rfl, rfl⟩

theorem failing_names_sublist : ((form.failing tokens values).map Prod.fst).Sublist form.names := by
  unfold Form.failing
  induction form.names with
  | nil => exact .slnil
  | cons name rest ih =>
    rw [List.filterMap_cons]
    cases faultOf? (form.validateField tokens name values none).result with
    | none => exact ih.cons name
    | some fault => exact ih.cons_cons name

theorem failing_ne_nil_iff : form.failing tokens values ≠ [] ↔ ∃ name ∈ form.names, ∃ fault,
    (form.validateField tokens name values none).result = .error fault := by
  simp only [ne_eq, List.eq_nil_iff_forall_not_mem, not_forall, not_not, Prod.exists,
    mem_failing_iff, exists_and_left]

theorem failing_eq_singleton (honce : ((form.failing tokens values).map Prod.fst).Nodup)
    (hname : name ∈ form.names)
    (hfault : (form.validateField tokens name values none).result = .error fault)
    (hothers : ∀ other ∈ form.names, other ≠ name →
      ∃ result, (form.validateField tokens other values none).result = .ok result) :
    form.failing tokens values = [(name, fault)] := by
  refine List.perm_singleton.mp ?_
  refine (List.perm_ext_iff_of_nodup honce.of_map (List.nodup_singleton _)).mpr ?_
  rintro ⟨other, fault'⟩
  rw [mem_failing_iff, List.mem_singleton, Prod.mk.injEq]
  constructor
  · rintro ⟨hother, hfault'⟩
    by_cases hsame : other = name
    · subst hsame
      exact ⟨rfl, Except.error.inj (hfault'.symm.trans hfault)⟩
    · obtain ⟨result, hresult⟩ := hothers other hother hsame
      rw [hresult] at hfault'
      cases hfault'
  · rintro ⟨rfl, rfl⟩
    exact ⟨hname, hfault⟩

/-- Without a token a field is validated by its evaluation alone. -/
theorem faultOf?_validateField : faultOf? (form.validateField tokens name values none).result =
    faultOf? (form.evaluation name values).result := by
  rw [Form.validateField, Routine.result_map]
  cases (form.evaluation name values).result <;> rfl

/-- Where the names are distinct, the task of a field is the evaluation of its name. -/
theorem fieldTasks_eq_evaluations (hnames : form.names.Nodup) :
    form.fieldTasks values = form.names.map fun name => form.evaluation name values := by
  rw [Form.fieldTasks, Form.names, List.map_map]
  refine List.map_congr_left fun f hf => ?_
  have hfield : form.field f.name = .ok f := by
    rw [Form.field, Form.field?, find?_of_distinct hnames hf]
  simp only [Function.comp_apply, Form.evaluation]
  split
  · rename_i hnone
    cases hfield.symm.trans hnone
  · rename_i found hfound
    cases hfield.symm.trans hfound
    rfl

/-- The errors of a validation are those of the fields that fail on their own. -/
theorem fieldGroup_errors (hnames : form.names.Nodup) (hcap : form.config.maxConcurrency = none)
    (hprompt : form.registry.Prompt) :
    (form.fieldGroup values).run.errors = (form.failing tokens values).map Prod.snd := by
  have hworks : ∀ work ∈ form.fieldTasks values, work.pauses = 0 := by
    intro work hwork
    obtain ⟨f, -, rfl⟩ := List.mem_map.mp hwork
    rw [Routine.pauses_map]
    exact (Routine.pauses_map _ _).trans (evaluateWith_pauses hprompt)
  rw [Form.fieldGroup, hcap, Group.run_errors hworks, fieldTasks_eq_evaluations hnames,
    List.filterMap_map, Form.failing, List.map_filterMap]
  simp only [faultOf?_validateField, Option.map_map]
  refine List.filterMap_congr fun name _ => ?_
  simp [Function.comp_def]

end Failing

/-! ## The errors that a validation ends with -/

/-- **What is to be known of the errors of a validation.** -/
structure Form.KeepsErrors (form : Form) (tokens : Tokens) (values : Values) : Prop where
  /-- The failing fields are those that fail on their own, each with its own error and once. -/
  failing_iff {name : String} {fault : FormFault} : (name, fault) ∈ form.failing tokens values ↔
    name ∈ form.names ∧ (form.validateField tokens name values none).result = .error fault
  once : ((form.failing tokens values).map Prod.fst).Nodup
  /-- There are errors instead of results if some field fails on its own, and only then. -/
  raises_iff : (∃ errors, (form.validate values).result = .error errors) ↔
    ∃ name ∈ form.names, ∃ fault,
      (form.validateField tokens name values none).result = .error fault
  /-- The error of the only field that fails stands for itself. -/
  single {name : String} {fault : FormFault} : name ∈ form.names →
    (form.validateField tokens name values none).result = .error fault →
    (∀ other ∈ form.names, other ≠ name →
      ∃ result, (form.validateField tokens other values none).result = .ok result) →
    (form.validate values).result = .error (.single fault)
  /-- Where two fields fail, the errors of all failing fields stand together, one for each field. -/
  several {name other : String} {fault fault' : FormFault} : name ∈ form.names →
    other ∈ form.names → name ≠ other →
    (form.validateField tokens name values none).result = .error fault →
    (form.validateField tokens other values none).result = .error fault' →
    (form.validate values).result = .error (.several ((form.failing tokens values).map Prod.snd))

section Validate

variable {definitions : List Definition} {registry : Registry} {config : Config}
  {messages : Messages} {surroundings : Surroundings} {form : Form} {values : Values}

/-- **No error of a validation is lost or changed.**  Without a cap, and with rules that answer without
a pause, a validation has errors exactly if some field fails on its own; the error of a single failing
field stands for itself, and several failing fields have their errors side by side. -/
theorem validate_keeps_errors
    (hform : Form.ofDefinitions definitions registry config messages surroundings = .ok form)
    (hcap : config.maxConcurrency = none) (hprompt : registry.Prompt) (tokens : Tokens)
    (values : Values) : form.KeepsErrors tokens values := by
  obtain ⟨-, hnames⟩ := names_of_ofDefinitions hform
  obtain ⟨hregistry, hconfig, -⟩ := settings_of_ofDefinitions hform
  have herrors : (form.fieldGroup values).run.errors = (form.failing tokens values).map Prod.snd :=
    fieldGroup_errors hnames (by rwa [hconfig]) (by rwa [hregistry])
  have honce : ((form.failing tokens values).map Prod.fst).Nodup :=
    failing_names_sublist.nodup hnames
  refine ⟨mem_failing_iff, honce, ?_, ?_, ?_⟩
  · rw [← failing_ne_nil_iff]
    simp only [Form.validate, herrors, List.isEmpty_iff, List.map_eq_nil_iff]
    split
    · rename_i hnone
      simp [hnone]
    · rename_i hsome
      exact ⟨fun _ => hsome, fun _ => ⟨_, rfl⟩⟩
  · intro name fault hname hfault hothers
    have honly := failing_eq_singleton honce hname hfault hothers
    simp [Form.validate, herrors, honly, FormErrors.ofFaults]
  · intro name other fault fault' hname hother hne hfault hfault'
    have hfirst := mem_failing_iff.mpr ⟨hname, hfault⟩
    have hsecond := mem_failing_iff.mpr ⟨hother, hfault'⟩
    simp only [Form.validate, herrors]
    cases hfailing : form.failing tokens values with
    | nil =>
      rw [hfailing] at hfirst
      cases hfirst
    | cons p rest =>
      rw [hfailing] at hfirst hsecond
      cases rest with
      | nil =>
        have := (List.mem_singleton.mp hfirst).trans (List.mem_singleton.mp hsecond).symm
        exact absurd (congrArg Prod.fst this) hne
      | cons q rest => rfl

end Validate

/-- A field whose rule crashes, one whose rule is unknown, and one that passes. -/
def quarrelDefinitions : List Definition :=
  [.rules { name := "first", rules := .spec [{ name := "broken" }] none },
    .rules { name := "second", rules := .spec [{ name := "odd" }] none },
    .rules { name := "third", rules := .spec [{ name := "free" }] none }]

theorem validate_keeps_errors_quarrel : ∃ form,
    Form.ofDefinitions quarrelDefinitions quarrelRegistry {} {} = .ok form ∧
      ({} : Config).maxConcurrency = none ∧ quarrelRegistry.Prompt ∧
      form.KeepsErrors [] [("first", .int 1)] ∧
      (form.validate [("first", .int 1)]).result = .error (.several
        [.evaluation (.execution "broken" "broken" [] (some "first") .missingBounds),
          .evaluation (.unknownRule "odd" ["broken", "free", "needed"])]) := by
  obtain ⟨form, hform⟩ : ∃ form,
      Form.ofDefinitions quarrelDefinitions quarrelRegistry {} {} = .ok form := ⟨_, rfl⟩
  have hprompt : quarrelRegistry.Prompt := by
    intro e he v args c
    simp only [quarrelRegistry, List.mem_cons, List.not_mem_nil, or_false] at he
    rcases he with rfl | rfl | rfl <;> rfl
  have hkeeps : form.KeepsErrors [] [("first", .int 1)] :=
    validate_keeps_errors hform rfl hprompt [] _
  refine ⟨form, hform, rfl, hprompt, hkeeps, ?_⟩
  cases hform
  have hnames : "first" ∈ ["first", "second", "third"] ∧ "second" ∈ ["first", "second", "third"] := by
    decide
  exact hkeeps.several hnames.1 hnames.2 (by decide) rfl rfl

end FieldCheck
