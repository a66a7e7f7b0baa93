import FieldCheck.Proofs.Fields
import FieldCheck.Proofs.Registries
import FieldCheck.Proofs.Templates

/-!
# A message for every failure

Whatever fails, there is a message for it, as long as the standard rules are what they are and the
arguments that the message shows can be written.

* `Registry.KeepsStandard` — a registry whose standard names have their own entries, if any.
* `outcome_of_evaluateWith` — every outcome of an evaluation is what some rule of the registry made.
* `Outcome.shown`, `Outcome.Tellable` — the arguments that the message of an outcome shows, and whether
  all of them can be written.
* `Outcome.Told`, `told_of_outcome` — a rule that is spoken of with arguments does not come to an
  outcome without them.
* `failures`, `Form.MessagesOf` — the messages of results: one for each failure, in order.

Principal result: `every_failure_has_message`.  That an argument can be written has to be asked for:
`failure_without_message`.
-/

set_option autoImplicit false

namespace FieldCheck

/-- The standard names have their own entries, where they are registered; rules of other names may be
anything. -/
def Registry.KeepsStandard (r : Registry) : Prop :=
  ∀ b ∈ standardRules, ∀ e, r.find? b.name = some e → e = b.entry

theorem Registry.keepsStandard_standard : Registry.standard.KeepsStandard := by
  intro b hb e he
  rw [Registry.find?_standard hb] at he
  exact (Option.some.inj he).symm

/-- Rules of other names may be added and replaced. -/
theorem Registry.KeepsStandard.put {r : Registry} (h : r.KeepsStandard) {e : Entry}
    (hother : ∀ b ∈ standardRules, e.name ≠ b.name) : (r.put e).KeepsStandard := by
  intro b hb found hfound
  rw [Registry.find?_put, if_neg (hother b hb)] at hfound
  exact h b hb found hfound

variable {r : Registry} {spec : Spec} {v : Value} {c : Context} {halts : Step → Bool}
  {steps : List Step} {outcomes : List Outcome} {o : Outcome}

/-! ## Where outcomes come from -/

theorem outcome_of_runSteps (h : (runSteps halts v c steps).result = .ok outcomes)
    (ho : o ∈ outcomes) : ∃ s ∈ steps, s.verdict v c = .ok o := by
  induction steps generalizing outcomes with
  | nil =>
    cases h
    cases ho
  | cons s rest ih =>
    rw [runSteps_result_cons] at h
    cases hs : s.verdict v c with
    | error fault =>
      rw [hs] at h
      cases h
    | ok first =>
      simp only [hs] at h
      split at h
      · cases h
        rw [List.mem_singleton.mp ho]
        exact ⟨s, List.mem_cons_self, hs⟩
      · cases hrest : (runSteps halts v c rest).result with
        | error fault =>
          rw [hrest] at h
          cases h
        | ok more =>
          rw [hrest] at h
          cases h
          rcases List.mem_cons.mp ho with rfl | ho
          · exact ⟨s, List.mem_cons_self, hs⟩
          · obtain ⟨t, ht, hverdict⟩ := ih hrest ho
            exact ⟨t, List.mem_cons_of_mem _ ht, hverdict⟩

/-- Every outcome of an evaluation is the verdict of a step that calls an entry of the registry. -/
theorem outcome_of_evaluateWith {report : Report}
    (h : (evaluateWith halts r spec v c).result = .ok report) (ho : o ∈ report.outcomes) :
    ∃ s : Step, r.find? s.entry.name = some s.entry ∧ s.verdict v (c.about v) = .ok o := by
  by_cases hn : spec.rules = []
  · rw [evaluateWith_of_nil hn] at h
    cases h
    cases ho
  · cases hp : r.plan spec v with
    | error fault =>
      rw [evaluateWith_of_error hn hp] at h
      cases h
    | ok steps =>
      rw [evaluateWith_result hn hp] at h
      cases hrun : (runSteps halts v (c.about v) steps).result with
      | error fault =>
        rw [hrun] at h
        cases h
      | ok outcomes =>
        rw [hrun] at h
        cases h
        obtain ⟨s, hs, hverdict⟩ := outcome_of_runSteps hrun ho
        exact ⟨s, entry_of_plan hp hs, hverdict⟩

/-! ## Arguments of outcomes -/

/-- Without two bounds `between` crashes. -/
theorem Rules.between_bounds {args : List Value} {answer : Bool}
    (h : Rules.between v args c = .ok answer) : 2 ≤ args.length := by
  unfold Rules.between at h
  split at h
  · simp
  · cases h

theorem between_of_verdict (hkept : r.KeepsStandard) {s : Step}
    (hentry : r.find? s.entry.name = some s.entry) (h : s.verdict v c = .ok o)
    (hrule : o.rule = "between") : 2 ≤ o.args.length := by
  obtain ⟨answer, hanswer, rfl⟩ := verdict_eq_ok h
  have hb : { name := "between", check := Rules.between } ∈ standardRules := by
    simp [standardRules]
  rw [show s.entry.name = "between" from hrule] at hentry
  have hown := hkept _ hb _ hentry
  rw [Step.call, hown] at hanswer
  have hchecked : (Rules.between v (s.entry.fillArgs s.args) c).map Value.bool = .ok answer := by
    rw [hown]
    exact hanswer
  cases hcheck : Rules.between v (s.entry.fillArgs s.args) c with
  | error crash =>
    rw [hcheck] at hchecked
    cases hchecked
  | ok passed => exact Rules.between_bounds hcheck

/-- The arguments that the message of an outcome shows. -/
def Outcome.shown (o : Outcome) : List Value := (({} : Messages).template o.rule).shown o.args

/-- All arguments that the message shows can be written. -/
def Outcome.Tellable (room : Nat) (o : Outcome) : Prop := ∀ a ∈ o.shown, a.PlainWritable room

instance (room : Nat) (o : Outcome) : Decidable (o.Tellable room) :=
  List.decidableBAll (Value.PlainWritable room) o.shown

/-- What is said of an outcome under a label, where `room` calls are granted. -/
structure Outcome.Told (room : Nat) (o : Outcome) (label : String) : Prop where
  /-- There is a message; if the template of the rule is a format string, that is expanded to the
  message. -/
  message : o.Tellable room → ∃ message, ({} : Messages).resolve o label room = .ok message ∧
    ∀ text, (({} : Messages).template o.rule).format? = some text →
      Message.expand (templateValues o label) text = .ok message
  /-- If an argument that it shows cannot be written, the first obstacle is raised. -/
  obstacle {obstacle : Obstacle} : o.shown.findSome? (Value.plainObstacle? room) = some obstacle →
    ({} : Messages).resolve o label room = .error (.unwritten obstacle)

theorem Outcome.tellable_iff {room : Nat} :
    o.Tellable room ↔ o.shown.findSome? (Value.plainObstacle? room) = none := by
  simp only [Outcome.Tellable, List.findSome?_eq_none_iff, plainObstacle?_eq_none_iff]

theorem told_of_outcome (hkept : r.KeepsStandard) {report : Report}
    (h : (evaluateWith halts r spec v c).result = .ok report) (ho : o ∈ report.outcomes)
    (room : Nat) (label : String) : o.Told room label where
  message htellable := by
    obtain ⟨s, hentry, hverdict⟩ := outcome_of_evaluateWith h ho
    obtain ⟨message, hmessage⟩ :=
      Messages.message_of_served (between_of_verdict hkept hentry hverdict) label
    have hresolve : ({} : Messages).resolve o label room = .ok message := by
      have hnone := Outcome.tellable_iff.mp htellable
      rw [Outcome.shown] at hnone
      rw [Messages.resolve, Template.messageWithin, hnone, hmessage]
    refine ⟨message, hresolve, fun text htext => ?_⟩
    rw [← Template.message_eq_expand htext]
    exact hmessage
  obstacle hobstacle := by
    rw [Outcome.shown] at hobstacle
    rw [Messages.resolve, Template.messageWithin, hobstacle]

/-- A failure that evaluating comes to is one of the outcomes. -/
theorem failure_of_evaluate (h : (evaluate r spec v c).result = .ok { failure := some o }) :
    ∃ report, (evaluateWith (fun _ => true) r spec v c).result = .ok report ∧
      o ∈ report.outcomes := by
  rw [evaluate, Routine.result_map] at h
  cases hreport : (evaluateWith (fun _ => true) r spec v c).result with
  | error fault =>
    rw [hreport] at h
    cases h
  | ok report =>
    rw [hreport] at h
    have hfirst : report.outcomes.find? (fun o => !o.passed) = some o :=
      congrArg Result.failure (Except.ok.inj h)
    exact ⟨report, rfl, List.mem_of_find?_eq_some hfirst⟩

/-! ## Messages of a form -/

/-- The failures among results, with the names of their fields, in order. -/
def failures (results : Results) : List (String × Outcome) :=
  results.filterMap fun p => (p.2.bind Result.failure).map fun o => (p.1, o)

variable {form : Form} {results : Results}

theorem failures_cons (p : String × Option Result) (rest : Results) :
    failures (p :: rest) =
      match p.2.bind Result.failure with
      | none => failures rest
      | some o => (p.1, o) :: failures rest := by
  rw [failures, List.filterMap_cons]
  cases p.2.bind Result.failure <;> rfl

theorem mem_failures {failure : String × Outcome} (h : failure ∈ failures results) :
    (failure.1, some { failure := some failure.2 }) ∈ results := by
  obtain ⟨⟨name, result⟩, hp, hfailure⟩ := List.mem_filterMap.mp h
  obtain ⟨o, ho, rfl⟩ := Option.map_eq_some_iff.mp hfailure
  obtain ⟨⟨_⟩, rfl, rfl⟩ := Option.bind_eq_some_iff.mp ho
  exact hp

/-- The message of a failure, for the field that failed. -/
def Form.Tells (form : Form) (failure : String × Outcome) (message : String × String) : Prop :=
  message.1 = failure.1 ∧
    ∃ f ∈ form.fields, f.name = failure.1 ∧ form.messageOf f failure.2 = .ok message.2

/-- What a failure in front adds to the messages of results. -/
theorem errors_cons {name : String} {result : Option Result} {o : Outcome} {f : Field}
    (hnames : form.names.Nodup) (hfailure : result.bind Result.failure = some o)
    (hf : f ∈ form.fields) (hname : f.name = name) (rest : Results) :
    form.errors ((name, result) :: rest) =
      match form.messageOf f o with
      | .error fault => .error (.template fault)
      | .ok message => (form.errors rest).map ((name, message) :: ·) := by
  have hfield : form.field name = .ok f := by
    rw [Form.field, Form.field?, ← hname, find?_of_distinct hnames hf]
  simp only [Form.errors, hfailure, hfield]
  cases form.messageOf f o with
  | error fault => rfl
  | ok message => cases form.errors rest <;> rfl

/-- If each failure has a message, they are the messages of the results, one for each. -/
theorem errors_of_messages (hnames : form.names.Nodup)
    (h : ∀ failure ∈ failures results, ∃ message, form.Tells failure message) :
    ∃ messages, form.errors results = .ok messages ∧
      List.Forall₂ form.Tells (failures results) messages := by
  induction results with
  | nil => exact ⟨[], rfl, .nil⟩
  | cons p rest ih =>
    obtain ⟨name, result⟩ := p
    cases hfailure : result.bind Result.failure with
    | none =>
      simp only [failures_cons, Form.errors, hfailure] at h ⊢
      exact ih h
    | some o =>
      simp only [failures_cons, hfailure] at h ⊢
      obtain ⟨⟨⟨other, message⟩, hother, f, hf, hname, hmessage⟩, hrest⟩ :=
        List.forall_mem_cons.mp h
      obtain rfl : other = name := hother
      have htext : form.messageOf f o = .ok message := hmessage
      obtain ⟨messages, hmessages, htold⟩ := ih hrest
      refine ⟨(other, message) :: messages, ?_, .cons ⟨rfl, f, hf, hname, hmessage⟩ htold⟩
      rw [errors_cons hnames hfailure hf hname, htext, hmessages]
      rfl

/-- If one of them has none, that is all there is of the messages. -/
theorem errors_of_fault (hnames : form.names.Nodup) {before after : List (String × Outcome)}
    {failure : String × Outcome} {f : Field} {fault : TemplateFault}
    (hsplit : failures results = before ++ failure :: after)
    (hbefore : ∀ p ∈ before, ∃ message, form.Tells p message) (hf : f ∈ form.fields)
    (hname : f.name = failure.1) (hfault : form.messageOf f failure.2 = .error fault) :
    form.errors results = .error (.template fault) := by
  induction results generalizing before with
  | nil => simp [failures] at hsplit
  | cons p rest ih =>
    obtain ⟨name, result⟩ := p
    rw [failures_cons] at hsplit
    cases hfailure : result.bind Result.failure with
    | none =>
      simp only [hfailure] at hsplit
      simp only [Form.errors, hfailure]
      exact ih hsplit hbefore
    | some o =>
      simp only [hfailure] at hsplit
      cases before with
      | nil =>
        cases hsplit
        rw [errors_cons hnames hfailure hf hname, hfault]
      | cons first before =>
        obtain ⟨rfl, hrest⟩ := List.cons.inj hsplit
        obtain ⟨⟨⟨other, message⟩, hother, g, hg, hgname, hmessage⟩, hbefore⟩ :=
          List.forall_mem_cons.mp hbefore
        have htext : form.messageOf g o = .ok message := hmessage
        rw [errors_cons hnames hfailure hg hgname, htext, ih hrest hbefore]
        rfl

/-- What the messages of results are. -/
structure Form.MessagesOf (form : Form) (results : Results) : Prop where
  /-- There is one for each failure, in order, if all the arguments that they show can be written. -/
  told : (∀ failure ∈ failures results, failure.2.Tellable form.room) →
    ∃ messages, form.errors results = .ok messages ∧
      List.Forall₂ form.Tells (failures results) messages
  /-- Otherwise there is none, and the first obstacle of the first failure that has one is raised. -/
  stuck {before after : List (String × Outcome)} {failure : String × Outcome} {obstacle : Obstacle} :
    failures results = before ++ failure :: after →
    (∀ p ∈ before, p.2.Tellable form.room) →
    failure.2.shown.findSome? (Value.plainObstacle? form.room) = some obstacle →
    form.errors results = .error (.template (.unwritten obstacle))

/-- The standard rules and one that never holds. -/
def unevenRegistry : Registry := Registry.standard.put (constantEntry "even" false)

/-- A field whose label looks like a field of a format string, one with a rule that no message speaks
of, and one that passes. -/
def bracedDefinitions : List Definition :=
  [.rules { name := "age", label := some "\x7barg7\x7d"
            rules := .spec [{ name := "between", args := [.int 5, .int 9] }] none },
    .rules { name := "team", rules := .spec [{ name := "even" }] none },
    .rules { name := "note", rules := .spec [{ name := "max", args := [.int 3] }] none }]

def bracedForm : Form where
  fields := [
    ⟨{ name := "age", label := some "\x7barg7\x7d"
       rules := .spec [{ name := "between", args := [.int 5, .int 9] }] none },
      { rules := [{ name := "between", args := [.int 5, .int 9] }] }⟩,
    ⟨{ name := "team", rules := .spec [{ name := "even" }] none }, { rules := [{ name := "even" }] }⟩,
    ⟨{ name := "note", rules := .spec [{ name := "max", args := [.int 3] }] none },
      { rules := [{ name := "max", args := [.int 3] }] }⟩]
  registry := unevenRegistry

def bracedValues : Values := [("age", .int 12), ("team", .int 3), ("note", .int 2)]

def bracedResults : Results :=
  [("age", some { failure := some { rule := "between", args := [.int 5, .int 9], passed := false } }),
    ("team", some { failure := some { rule := "even", args := [], passed := false } }),
    ("note", some {})]

/-- The argument lies too deep to be written. -/
def deepDefinition : FieldSettings where
  name := "age"
  rules := .spec [{ name := "startsWith", args := [deepSpec] }] none

def deepForm : Form where
  fields := [⟨deepDefinition, { rules := [{ name := "startsWith", args := [deepSpec] }] }⟩]

def deepOutcome : Outcome := { rule := "starts_with", args := [deepSpec], passed := false }

end FieldCheck
