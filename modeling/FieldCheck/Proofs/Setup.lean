import FieldCheck.Proofs.Calls

/-!
# Faults of the setup

Names are looked up and policies are compared before any rule is called.

* `LeftmostUnknown`, `Clashes` — what can be wrong with the rules of a specification in a registry.
* `resolve_eq_error_iff` — looking up fails with the leftmost unknown name.
* `OfCrash`, `runSteps_fault_kind` — whatever a rule does, its fault is of another family.
* `SetupFirst` — all that is to be known of the setup in one way of evaluating.

Principal result: `setup_comes_first`, for both ways.
-/

set_option autoImplicit false

namespace FieldCheck

/-! ## What can be wrong -/

/-- Of the rules whose names mean nothing, the leftmost one has this name. -/
def LeftmostUnknown (r : Registry) (rules : List (Rule Value)) (name : String) : Prop :=
  ∃ before rule behind, rules = before ++ rule :: behind ∧
    (∀ p ∈ before, r.has p.name = true) ∧ r.has rule.name = false ∧ rule.name = name

/-- Some rule means an entry with this policy. -/
def Offers (r : Registry) (policy : Policy) (rules : List (Rule Value)) : Prop :=
  ∃ rule ∈ rules, ∃ e, r.lookup rule.name = some e ∧ e.policy = policy

/-- Every name is known, and an optional rule stands beside a required-class one. -/
structure Clashes (r : Registry) (rules : List (Rule Value)) : Prop where
  known : ∀ rule ∈ rules, r.has rule.name = true
  optional : Offers r .bypass rules
  required : Offers r .run rules

variable {halts : Step → Bool} {r : Registry} {spec : Spec} {v : Value} {c : Context}
  {rules : List (Rule Value)}

theorem exists_leftmostUnknown (h : ∃ rule ∈ rules, r.has rule.name = false) :
    ∃ name, LeftmostUnknown r rules name := by
  induction rules with
  | nil =>
    obtain ⟨rule, hrule, -⟩ := h
    cases hrule
  | cons first rest ih =>
    cases hfirst : r.has first.name with
    | false => exact ⟨first.name, [], first, rest, rfl, by simp, hfirst, rfl⟩
    | true =>
      have hrest : ∃ rule ∈ rest, r.has rule.name = false := by
        obtain ⟨rule, hrule, hunknown⟩ := h
        rcases List.mem_cons.mp hrule with rfl | hrule
        · rw [hfirst] at hunknown
          cases hunknown
        · exact ⟨rule, hrule, hunknown⟩
      obtain ⟨name, before, rule, behind, rfl, hknown, hunknown⟩ := ih hrest
      refine ⟨name, first :: before, rule, behind, rfl, ?_, hunknown⟩
      exact List.forall_mem_cons.mpr ⟨hfirst, hknown⟩

theorem LeftmostUnknown.exists_unknown {name : String} (h : LeftmostUnknown r rules name) :
    ∃ rule ∈ rules, r.has rule.name = false := by
  obtain ⟨before, rule, behind, rfl, -, hunknown, -⟩ := h
  exact ⟨rule, by simp, hunknown⟩

/-! ## Looking up -/

theorem resolve_of_unknown {name : String} (h : LeftmostUnknown r rules name) :
    r.resolve rules = .error (.unknownRule name r.names) := by
  obtain ⟨before, rule, behind, rfl, hknown, hunknown, rfl⟩ := h
  induction before with
  | nil =>
    have hnone : r.lookup rule.name = none := by simpa [Registry.has] using hunknown
    simp only [List.nil_append, Registry.resolve, hnone]
  | cons first before ih =>
    obtain ⟨hfirst, hknown⟩ := List.forall_mem_cons.mp hknown
    obtain ⟨e, he⟩ : ∃ e, r.lookup first.name = some e := Option.isSome_iff_exists.mp hfirst
    simp only [List.cons_append, Registry.resolve, he, ih hknown]

theorem resolve_of_known (h : ∀ rule ∈ rules, r.has rule.name = true) :
    ∃ resolved, r.resolve rules = .ok resolved := by
  induction rules with
  | nil => exact ⟨[], rfl⟩
  | cons first rest ih =>
    obtain ⟨hfirst, hrest⟩ := List.forall_mem_cons.mp h
    obtain ⟨e, he⟩ : ∃ e, r.lookup first.name = some e := Option.isSome_iff_exists.mp hfirst
    obtain ⟨more, hmore⟩ := ih hrest
    exact ⟨(first, e) :: more, by simp only [Registry.resolve, he, hmore]⟩

/-- Looking up fails with the leftmost unknown name, and only where there is one. -/
theorem resolve_eq_error_iff {fault : Fault} : r.resolve rules = .error fault ↔
    ∃ name, LeftmostUnknown r rules name ∧ fault = .unknownRule name r.names := by
  constructor
  · intro h
    by_cases hknown : ∀ rule ∈ rules, r.has rule.name = true
    · obtain ⟨resolved, hresolved⟩ := resolve_of_known hknown
      rw [hresolved] at h
      cases h
    · have hunknown : ∃ rule ∈ rules, r.has rule.name = false := by simpa using hknown
      obtain ⟨name, hname⟩ := exists_leftmostUnknown hunknown
      rw [resolve_of_unknown hname] at h
      cases h
      exact ⟨name, hname, rfl⟩
  · rintro ⟨name, hname, rfl⟩
    exact resolve_of_unknown hname

/-- The policies of rules that have been looked up are those of the entries that they mean. -/
theorem hasPolicy_iff_offers {policy : Policy} {resolved : List (Rule Value × Entry)}
    (h : r.resolve rules = .ok resolved) :
    hasPolicy policy resolved = true ↔ Offers r policy rules := by
  obtain ⟨rfl, hmeant⟩ := resolve_eq_ok_iff.mp h
  simp only [hasPolicy, List.any_eq_true, beq_iff_eq]
  constructor
  · rintro ⟨p, hp, hpolicy⟩
    exact ⟨p.1, List.mem_map_of_mem hp, p.2, hmeant p hp, hpolicy⟩
  · rintro ⟨rule, hrule, e, he, hpolicy⟩
    obtain ⟨p, hp, rfl⟩ := List.mem_map.mp hrule
    refine ⟨p, hp, ?_⟩
    rw [hmeant p hp, Option.some.injEq] at he
    rw [he, hpolicy]

theorem known_of_resolve {resolved : List (Rule Value × Entry)}
    (h : r.resolve rules = .ok resolved) : ∀ rule ∈ rules, r.has rule.name = true := by
  obtain ⟨rfl, hmeant⟩ := resolve_eq_ok_iff.mp h
  intro rule hrule
  obtain ⟨p, hp, rfl⟩ := List.mem_map.mp hrule
  rw [Registry.has, hmeant p hp]
  rfl

/-! ## The plan -/

theorem plan_of_unknown {name : String} (h : LeftmostUnknown r spec.rules name) :
    r.plan spec v = .error (.unknownRule name r.names) := by
  simp only [Registry.plan, resolve_of_unknown h]

theorem plan_of_clash (h : Clashes r spec.rules) :
    r.plan spec v = .error (.optionalRequired spec.names) := by
  obtain ⟨resolved, hresolved⟩ := resolve_of_known h.known
  have hbypass := (hasPolicy_iff_offers hresolved).mpr h.optional
  have hrun := (hasPolicy_iff_offers hresolved).mpr h.required
  simp only [Registry.plan, hresolved, hbypass, hrun, Bool.and_self, if_true]

/-- Nothing else can be wrong with a plan. -/
theorem plan_eq_error {fault : Fault} (h : r.plan spec v = .error fault) :
    (∃ name, LeftmostUnknown r spec.rules name ∧ fault = .unknownRule name r.names) ∨
      (Clashes r spec.rules ∧ fault = .optionalRequired spec.names) := by
  unfold Registry.plan at h
  split at h
  · rename_i fault' hresolved
    cases h
    exact Or.inl (resolve_eq_error_iff.mp hresolved)
  · rename_i resolved hresolved
    split at h
    · rename_i hmix
      obtain ⟨hbypass, hrun⟩ := Bool.and_eq_true_iff.mp hmix
      cases h
      refine Or.inr ⟨⟨known_of_resolve hresolved, ?_, ?_⟩, rfl⟩
      · exact (hasPolicy_iff_offers hresolved).mp hbypass
      · exact (hasPolicy_iff_offers hresolved).mp hrun
    · split at h
      · cases h
      · cases h

/-! ## The run behind the setup -/

/-- The families of the faults that crashes are turned into. -/
inductive OfCrash : FaultKind → Prop where
  | execution : OfCrash .execution
  | plain (kind : CrashKind) : OfCrash (.plain kind)

theorem judge_fault_kind {s : Step} {answer : Except Crash Value} {fault : Fault}
    (h : s.judge c answer = .error fault) : OfCrash fault.record.kind := by
  cases answer with
  | error crash =>
    cases h
    rcases s.crashFault_cases c crash with hfault | ⟨obstacle, hfault⟩
    · rw [hfault]
      exact .execution
    · rw [hfault]
      exact .plain obstacle.kind
  | ok answer => cases h

/-- A fault of a run is a rule that crashed, whatever the crash looked like. -/
theorem runSteps_fault_kind {steps : List Step} {fault : Fault}
    (h : (runSteps halts v c steps).result = .error fault) : OfCrash fault.record.kind := by
  induction steps with
  | nil => cases h
  | cons s rest ih =>
    rw [runSteps_result_cons] at h
    cases hs : s.verdict v c with
    | error fault' =>
      simp only [hs, Except.error.injEq] at h
      subst h
      exact judge_fault_kind hs
    | ok o =>
      simp only [hs] at h
      split at h
      · cases h
      · cases hrest : (runSteps halts v c rest).result with
        | error fault' =>
          rw [hrest] at h
          cases h
          exact ih hrest
        | ok outcomes =>
          rw [hrest] at h
          cases h

/-- **What a way of evaluating does about its setup.**  A fault of the setup is all there is of the
evaluation, whatever the value is and whatever the rules would have done. -/
structure SetupFirst {α : Type} (r : Registry) (spec : Spec)
    (run : Registry → Routine (Except Fault α)) : Prop where
  /-- The leftmost unknown name is the fault. -/
  unknown {name : String} : LeftmostUnknown r spec.rules name →
    run r = .done (.error (.unknownRule name r.names))
  /-- Where every name is known, an optional rule beside a required-class one is the fault. -/
  clash : Clashes r spec.rules → run r = .done (.error (.optionalRequired spec.names))
  /-- No rule is called then: an observer of all calls has nothing to announce. -/
  silent : (∃ name, LeftmostUnknown r spec.rules name) ∨ Clashes r spec.rules →
    ∀ begins ends, (run (r.watched begins ends)).events = []
  /-- Only an unknown name makes a fault of this family. -/
  unknown_iff {fault : Fault} : (run r).result = .error fault →
    (fault.record.kind = .unknownRule ↔ ∃ rule ∈ spec.rules, r.has rule.name = false)
  /-- Only a clash makes a fault of this family. -/
  clash_iff {fault : Fault} : (run r).result = .error fault →
    (fault.record.kind = .configuration ↔ Clashes r spec.rules)

section Watched

variable {begins ends : Call → Event}

@[simp] theorem has_watched (name : String) : (r.watched begins ends).has name = r.has name := by
  rw [Registry.has, lookup_watched, Option.isSome_map]
  rfl

theorem LeftmostUnknown.watched {name : String} (h : LeftmostUnknown r rules name) :
    LeftmostUnknown (r.watched begins ends) rules name := by
  simpa only [LeftmostUnknown, has_watched] using h

theorem Offers.watched {policy : Policy} (h : Offers r policy rules) :
    Offers (r.watched begins ends) policy rules := by
  obtain ⟨rule, hrule, e, he, hpolicy⟩ := h
  refine ⟨rule, hrule, e.watched begins ends, ?_, hpolicy⟩
  rw [lookup_watched, he]
  rfl

theorem Clashes.watched (h : Clashes r rules) : Clashes (r.watched begins ends) rules where
  known rule hrule := by rw [has_watched, h.known rule hrule]
  optional := h.optional.watched
  required := h.required.watched

end Watched

/-- Every fault of an evaluation is one of the setup, or a rule crashed behind a setup that was
right. -/
theorem evaluateWith_fault {fault : Fault}
    (h : (evaluateWith halts r spec v c).result = .error fault) :
    (∃ name, LeftmostUnknown r spec.rules name ∧ fault = .unknownRule name r.names) ∨
      (Clashes r spec.rules ∧ fault = .optionalRequired spec.names) ∨
      ((∃ steps, r.plan spec v = .ok steps) ∧ OfCrash fault.record.kind) := by
  by_cases hn : spec.rules = []
  · rw [evaluateWith_of_nil hn] at h
    cases h
  · cases hp : r.plan spec v with
    | error fault' =>
      rw [evaluateWith_of_error hn hp] at h
      cases h
      rcases plan_eq_error hp with hunknown | hclash
      · exact Or.inl hunknown
      · exact Or.inr (Or.inl hclash)
    | ok steps =>
      rw [evaluateWith_result hn hp] at h
      cases hrun : (runSteps halts v (c.about v) steps).result with
      | error fault' =>
        rw [hrun] at h
        cases h
        exact Or.inr (Or.inr ⟨⟨steps, rfl⟩, runSteps_fault_kind hrun⟩)
      | ok outcomes =>
        rw [hrun] at h
        cases h

theorem evaluateWith_setupFirst (halts : Step → Bool) (hn : spec.rules ≠ []) (v : Value)
    (c : Context) : SetupFirst r spec (fun r => evaluateWith halts r spec v c) where
  unknown hname := evaluateWith_of_error hn (plan_of_unknown hname)
  clash hclash := evaluateWith_of_error hn (plan_of_clash hclash)
  silent hwrong begins ends := by
    have hplan : ∃ fault, (r.watched begins ends).plan spec v = .error fault := by
      rcases hwrong with ⟨name, hname⟩ | hclash
      · exact ⟨_, plan_of_unknown hname.watched⟩
      · exact ⟨_, plan_of_clash hclash.watched⟩
    obtain ⟨fault, hfault⟩ := hplan
    show (evaluateWith halts (r.watched begins ends) spec v c).events = []
    rw [evaluateWith_of_error hn hfault]
    rfl
  unknown_iff {fault} hresult := by
    constructor
    · intro hkind
      rcases evaluateWith_fault hresult with ⟨name, hname, -⟩ | ⟨-, rfl⟩ | ⟨-, hcrash⟩
      · exact hname.exists_unknown
      · cases hkind
      · rw [hkind] at hcrash
        cases hcrash
    · intro hunknown
      obtain ⟨name, hname⟩ := exists_leftmostUnknown hunknown
      rw [evaluateWith_of_error hn (plan_of_unknown hname)] at hresult
      cases hresult
      rfl
  clash_iff {fault} hresult := by
    constructor
    · intro hkind
      rcases evaluateWith_fault hresult with ⟨name, -, rfl⟩ | ⟨hclash, -⟩ | ⟨-, hcrash⟩
      · cases hkind
      · exact hclash
      · rw [hkind] at hcrash
        cases hcrash
    · intro hclash
      rw [evaluateWith_of_error hn (plan_of_clash hclash)] at hresult
      cases hresult
      rfl

/-- A fault behind a change of the answer was there before. -/
theorem error_of_map {α β : Type} {f : α → β} {p : Routine (Except Fault α)} {fault : Fault}
    (h : (p.map fun answer => answer.map f).result = .error fault) : p.result = .error fault := by
  rw [Routine.result_map] at h
  cases hp : p.result with
  | error fault' =>
    rw [hp] at h
    cases h
    rfl
  | ok a =>
    rw [hp] at h
    cases h

/-- What is made of the report does not touch the setup. -/
theorem SetupFirst.map {α β : Type} {run : Registry → Routine (Except Fault α)}
    (h : SetupFirst r spec run) (f : α → β) :
    SetupFirst r spec (fun r => (run r).map fun answer => answer.map f) where
  unknown hname := by
    show (run r).map _ = _
    rw [h.unknown hname]
    rfl
  clash hclash := by
    show (run r).map _ = _
    rw [h.clash hclash]
    rfl
  silent hwrong begins ends := by
    show ((run _).map _).events = []
    rw [Routine.events_map]
    exact h.silent hwrong begins ends
  unknown_iff hresult := h.unknown_iff (error_of_map hresult)
  clash_iff hresult := h.clash_iff (error_of_map hresult)

/-- **The setup comes first, in both ways of evaluating.**  Unknown names win over a clash of
policies, and neither waits for the value or for a rule.  Wherever a name is unknown, one of the
unknown ones is the leftmost. -/
theorem setup_comes_first (hn : spec.rules ≠ []) (v : Value) (c : Context) :
    (SetupFirst r spec fun r => evaluate r spec v c) ∧
      (SetupFirst r spec fun r => collect r spec v c) ∧
      ((∃ rule ∈ spec.rules, r.has rule.name = false) ↔
        ∃ name, LeftmostUnknown r spec.rules name) := by
  refine ⟨?_, evaluateWith_setupFirst Step.stops hn v c, ?_⟩
  · exact (evaluateWith_setupFirst (fun _ => true) hn v c).map Report.firstFailure
  · exact ⟨exists_leftmostUnknown, fun ⟨_, hname⟩ => hname.exists_unknown⟩

/-- A rule that crashes, an optional rule and a required-class one. -/
def quarrelRegistry : Registry where
  entries :=
    [{ name := "broken", predicate := fun _ _ _ => .done (.error .missingBounds) },
      { name := "free", predicate := fun _ _ _ => .done (.ok (.bool true)), policy := .bypass },
      { name := "needed", predicate := fun v _ _ => .done (.ok (.bool v.truthy)), policy := .run }]

/-- The rules of the registry in a row. -/
def quarrelRules : List (Rule Value) := [{ name := "broken" }, { name := "free" }, { name := "needed" }]

/-- The same rules, and behind them two that no one knows. -/
def strangeRules : List (Rule Value) := quarrelRules ++ [{ name := "odd" }, { name := "even" }]

theorem setup_comes_first_quarrel :
    quarrelRules ≠ [] ∧ strangeRules ≠ [] ∧
      evaluate quarrelRegistry { rules := quarrelRules } (.text "") {} =
        .done (.error (.optionalRequired ["broken", "free", "needed"])) ∧
      collect quarrelRegistry { rules := strangeRules } (.text "") {} =
        .done (.error (.unknownRule "odd" ["broken", "free", "needed"])) := by
  have hquarrel : ({ rules := quarrelRules } : Spec).rules ≠ [] := by simp [quarrelRules]
  have hstrange : ({ rules := strangeRules } : Spec).rules ≠ [] := by simp [strangeRules]
  have hknown : ∀ rule ∈ quarrelRules, quarrelRegistry.has rule.name = true := by
    intro rule hrule
    simp only [quarrelRules, List.mem_cons, List.not_mem_nil, or_false] at hrule
    rcases hrule with rfl | rfl | rfl <;> rfl
  have hclash : Clashes quarrelRegistry quarrelRules :=
    ⟨hknown, ⟨{ name := "free" }, by simp [quarrelRules], _, rfl, rfl⟩,
      ⟨{ name := "needed" }, by simp [quarrelRules], _, rfl, rfl⟩⟩
  have hodd : LeftmostUnknown quarrelRegistry strangeRules "odd" :=
    ⟨quarrelRules, { name := "odd" }, [{ name := "even" }], rfl, hknown, rfl, rfl⟩
  refine ⟨hquarrel, hstrange, ?_, ?_⟩
  · exact (setup_comes_first hquarrel _ _).1.clash hclash
  · exact (setup_comes_first hstrange _ _).2.1.unknown hodd

end FieldCheck
