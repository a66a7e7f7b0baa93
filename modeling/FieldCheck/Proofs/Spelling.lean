import FieldCheck.Message.Default
import FieldCheck.Proofs.Modes
import FieldCheck.Proofs.RegisteredNames
import FieldCheck.Proofs.Setup

/-!
# Spelling does not matter

Several names may mean one entry, as a name does and its form in snake case.  What an evaluation makes of
a rule it makes of the entry; the name as written is told by faults only.

* `lookup_snakeString` — a name that is not registered means what its form in snake case means.
* `Respelled` — rules that differ in nothing but names, of which both mean the same.
* `Step.core`, `plan_respelled` — the plans of both spellings, but for the names as written.
* `FaultRespelled` — faults at the same place that differ in the names which stand there.
* `stepLedger_respelled`, `runSteps_respelled` — what a run leaves behind, and what it shows on its way.
* `ledger_registered` — outcomes stand in the order of the rules, under registered names.
* `SpellingFree` — all that two spellings have in common in one way of evaluating.

Principal result: `spelling_does_not_matter`, for both ways.
-/

set_option autoImplicit false

namespace FieldCheck

variable {r : Registry} {rules others : List (Rule Value)} {spec back : Spec}
  {halts : Step → Bool} {v : Value} {c : Context}

/-! ## Names of one meaning -/

/-- A name that is not registered means what its form in snake case means. -/
theorem lookup_snakeString {name : String} (hname : isName name.toList = true)
    (hnew : name ∉ r.names) : r.lookup (snakeString name) = r.lookup name := by
  rw [Registry.lookup, Registry.lookup, snakeString_snakeString hname,
    Registry.find?_eq_none_iff.mpr hnew, Option.none_or, Option.or_self]

/-- Rules that differ in nothing but names, of which both mean the same, or neither means anything. -/
structure Respelled (r : Registry) (rule other : Rule Value) : Prop where
  meaning : r.lookup other.name = r.lookup rule.name
  args : other.args = rule.args
  bail : other.bail = rule.bail

/-- The rule with its name in snake case. -/
def Rule.inSnakeCase (rule : Rule Value) : Rule Value := { rule with name := snakeString rule.name }

theorem respelled_inSnakeCase {rule : Rule Value} (hname : isName rule.name.toList = true)
    (hnew : rule.name ∉ r.names) : Respelled r rule rule.inSnakeCase :=
  ⟨lookup_snakeString hname hnew, rfl, rfl⟩

theorem Respelled.has {rule other : Rule Value} (h : Respelled r rule other) :
    r.has other.name = r.has rule.name := by
  rw [Registry.has, Registry.has, h.meaning]

/-- Rules that have been looked up and differ in nothing but names. -/
structure SameMeaning (p q : Rule Value × Entry) : Prop where
  entry : q.2 = p.2
  args : q.1.args = p.1.args
  bail : q.1.bail = p.1.bail

/-! ## Faults -/

/-- The place of the leftmost rule that has an unknown name. -/
def Registry.firstUnknown (r : Registry) (rules : List (Rule Value)) : Nat :=
  rules.findIdx fun rule => !r.has rule.name

theorem Registry.firstUnknown_cons (rule : Rule Value) (rest : List (Rule Value)) :
    r.firstUnknown (rule :: rest) = if r.has rule.name then r.firstUnknown rest + 1 else 0 := by
  rw [firstUnknown, firstUnknown, List.findIdx_cons]
  cases r.has rule.name <;> rfl

/-- Faults of a rule that crashed, which differ in nothing but the name as it is written. -/
inductive CrashWritten (written other : String) : Fault → Fault → Prop where
  | execution (name : String) (args : List String) (field : Option String) (cause : Crash) :
      CrashWritten written other (.execution name written args field cause)
        (.execution name other args field cause)
  | unwritten (name : String) (cause : Crash) (obstacle : Obstacle) :
      CrashWritten written other (.unwritten name written cause obstacle)
        (.unwritten name other cause obstacle)

/-- Rule number `n` crashes both times; the faults differ in the name that is written there. -/
inductive CrashRespelled (rules others : List (Rule Value)) (n : Nat) : Fault → Fault → Prop where
  | crash {rule other : Rule Value} {f g : Fault} : rules[n]? = some rule →
      others[n]? = some other → CrashWritten rule.name other.name f g →
      CrashRespelled rules others n f g

theorem CrashRespelled.cons {n : Nat} {f g : Fault} (h : CrashRespelled rules others n f g)
    (rule other : Rule Value) : CrashRespelled (rule :: rules) (other :: others) (n + 1) f g := by
  cases h with
  | crash hrule hother hwritten => exact .crash hrule hother hwritten

/-- An unknown name stands at the same place both times, and is the leftmost one of all. -/
inductive UnknownRespelled (r : Registry) (rules others : List (Rule Value)) : Fault → Fault → Prop where
  | unknown {rule other : Rule Value} :
      r.firstUnknown others = r.firstUnknown rules →
      rules[r.firstUnknown rules]? = some rule → others[r.firstUnknown rules]? = some other →
      UnknownRespelled r rules others (.unknownRule rule.name r.names)
        (.unknownRule other.name r.names)

/-- Faults of two spellings, behind `n` outcomes: they come from the same place and differ in nothing but
the names as written. -/
inductive FaultRespelled (r : Registry) (rules others : List (Rule Value)) (n : Nat) :
    Fault → Fault → Prop where
  | unknown {f g : Fault} : UnknownRespelled r rules others f g → FaultRespelled r rules others n f g
  | clash : Clashes r rules → FaultRespelled r rules others n (.optionalRequired (rules.map Rule.name))
      (.optionalRequired (others.map Rule.name))
  | crash {f g : Fault} : CrashRespelled rules others n f g → FaultRespelled r rules others n f g

/-- Such faults are of the same family and have the same cause. -/
theorem FaultRespelled.record {n : Nat} {f g : Fault} (h : FaultRespelled r rules others n f g) :
    g.record.kind = f.record.kind ∧ g.record.cause = f.record.cause := by
  cases h with
  | unknown h =>
    cases h
    exact ⟨rfl, rfl⟩
  | clash => exact ⟨rfl, rfl⟩
  | crash h =>
    obtain ⟨-, -, hwritten⟩ := h
    cases hwritten <;> exact ⟨rfl, rfl⟩

/-! ## The setup -/

theorem UnknownRespelled.cons {rule other : Rule Value} {f g : Fault}
    (h : UnknownRespelled r rules others f g) (hknown : r.has rule.name = true)
    (hknown' : r.has other.name = true) :
    UnknownRespelled r (rule :: rules) (other :: others) f g := by
  cases h with
  | unknown hplace hrule hother =>
    have hfirst : r.firstUnknown (rule :: rules) = r.firstUnknown rules + 1 := by
      rw [Registry.firstUnknown_cons, if_pos hknown]
    refine .unknown ?_ (by rwa [hfirst]) (by rwa [hfirst])
    rw [hfirst, Registry.firstUnknown_cons, if_pos hknown', hplace]

/-- Both spellings are looked up alike: with the same entries, or up to the same unknown name. -/
theorem resolve_respelled (h : List.Forall₂ (Respelled r) rules others) :
    (∃ f g, r.resolve rules = .error f ∧ r.resolve others = .error g ∧
        UnknownRespelled r rules others f g) ∨
      ∃ ps qs, r.resolve rules = .ok ps ∧ r.resolve others = .ok qs ∧ List.Forall₂ SameMeaning ps qs := by
  induction h with
  | nil => exact Or.inr ⟨[], [], rfl, rfl, .nil⟩
  | @cons rule other rules others hfirst _ ih =>
    cases hlookup : r.lookup rule.name with
    | none =>
      have hlookup' : r.lookup other.name = none := by rw [hfirst.meaning, hlookup]
      have hplace : r.firstUnknown (rule :: rules) = 0 := by
        simp [Registry.firstUnknown_cons, Registry.has, hlookup]
      have hplace' : r.firstUnknown (other :: others) = 0 := by
        simp [Registry.firstUnknown_cons, Registry.has, hlookup']
      refine Or.inl ⟨.unknownRule rule.name r.names, .unknownRule other.name r.names, ?_, ?_, ?_⟩
      · simp only [Registry.resolve, hlookup]
      · simp only [Registry.resolve, hlookup']
      · exact .unknown (by rw [hplace, hplace']) (by rw [hplace]; rfl) (by rw [hplace]; rfl)
    | some e =>
      have hlookup' : r.lookup other.name = some e := by rw [hfirst.meaning, hlookup]
      have hknown : r.has rule.name = true := by rw [Registry.has, hlookup]; rfl
      rcases ih with ⟨f, g, hf, hg, hfg⟩ | ⟨ps, qs, hps, hqs, hall⟩
      · refine Or.inl ⟨f, g, ?_, ?_, hfg.cons hknown (hfirst.has.trans hknown)⟩
        · simp only [Registry.resolve, hlookup, hf]
        · simp only [Registry.resolve, hlookup', hg]
      · refine Or.inr ⟨(rule, e) :: ps, (other, e) :: qs, ?_, ?_, .cons ⟨rfl, hfirst.args, hfirst.bail⟩ hall⟩
        · simp only [Registry.resolve, hlookup, hps]
        · simp only [Registry.resolve, hlookup', hqs]

theorem hasPolicy_respelled {ps qs : List (Rule Value × Entry)} (h : List.Forall₂ SameMeaning ps qs)
    (policy : Policy) : hasPolicy policy qs = hasPolicy policy ps := by
  have hentries : qs.map Prod.snd = ps.map Prod.snd := by
    induction h with
    | nil => rfl
    | cons hpq _ ih => rw [List.map_cons, List.map_cons, hpq.entry, ih]
  have hany : ∀ xs : List (Rule Value × Entry),
      hasPolicy policy xs = (xs.map Prod.snd).any fun e => e.policy == policy := fun xs => by
    rw [hasPolicy, List.any_map]
    rfl
  rw [hany, hany, hentries]

/-- What a step does, without the name as it is written. -/
def Step.core (s : Step) : Entry × List Value × Bool := (s.entry, s.args, s.stops)

theorem markStops_respelled {ps qs : List (Rule Value × Entry)} (h : List.Forall₂ SameMeaning ps qs)
    (bailing : Bool) :
    (markStops bailing qs).map Step.core = (markStops bailing ps).map Step.core := by
  induction h generalizing bailing with
  | nil => rfl
  | @cons p q ps qs hpq _ ih =>
    rw [markStops, markStops, List.map_cons, List.map_cons, hpq.entry, hpq.args, hpq.bail, ih]
    rfl

/-- Both spellings have the same fault of the setup, or they run rules of the same meaning: all of them,
or none. -/
theorem plan_respelled (h : List.Forall₂ (Respelled r) spec.rules back.rules) (v : Value) :
    (∃ f g, r.plan spec v = .error f ∧ r.plan back v = .error g ∧
        ∀ n, FaultRespelled r spec.rules back.rules n f g) ∨
      ∃ ps qs, r.plan spec v = .ok (markStops false ps) ∧ r.plan back v = .ok (markStops false qs) ∧
        List.Forall₂ SameMeaning ps qs ∧
        ps.map Prod.fst <+: spec.rules ∧ qs.map Prod.fst <+: back.rules := by
  rcases resolve_respelled h with ⟨f, g, hf, hg, hfg⟩ | ⟨ps, qs, hps, hqs, hall⟩
  · exact Or.inl ⟨f, g, by simp only [Registry.plan, hf], by simp only [Registry.plan, hg],
      fun n => .unknown hfg⟩
  · simp only [Registry.plan, hps, hqs, hasPolicy_respelled hall]
    split
    · rename_i hmix
      obtain ⟨hbypass, hrun⟩ := Bool.and_eq_true_iff.mp hmix
      have hclash : Clashes r spec.rules := ⟨known_of_resolve hps, (hasPolicy_iff_offers hps).mp hbypass,
        (hasPolicy_iff_offers hps).mp hrun⟩
      exact Or.inl ⟨_, _, rfl, rfl, fun n => .clash hclash⟩
    · split
      · exact Or.inr ⟨[], [], rfl, rfl, .nil, List.nil_prefix, List.nil_prefix⟩
      · have hrules : ps.map Prod.fst = spec.rules := (resolve_eq_ok_iff.mp hps).1
        have hothers : qs.map Prod.fst = back.rules := (resolve_eq_ok_iff.mp hqs).1
        exact Or.inr ⟨ps, qs, rfl, rfl, hall, hrules ▸ List.prefix_rfl, hothers ▸ List.prefix_rfl⟩

/-! ## Running steps -/

section Steps

variable {s t : Step}

theorem call_of_core (h : t.core = s.core) : t.call v c = s.call v c := by
  obtain ⟨hentry, hargs, -⟩ : t.entry = s.entry ∧ t.args = s.args ∧ t.stops = s.stops := by
    simpa only [Step.core, Prod.mk.injEq] using h
  rw [Step.call, Step.call, hentry, hargs]

/-- Steps of one core make the same of an answer; of a crash, but for the name as written. -/
theorem judge_of_core (h : t.core = s.core) (c : Context) (answer : Except Crash Value) :
    (∃ o, s.judge c answer = .ok o ∧ t.judge c answer = .ok o) ∨
      ∃ f g, s.judge c answer = .error f ∧ t.judge c answer = .error g ∧
        CrashWritten s.written t.written f g := by
  obtain ⟨hentry, hargs, -⟩ : t.entry = s.entry ∧ t.args = s.args ∧ t.stops = s.stops := by
    simpa only [Step.core, Prod.mk.injEq] using h
  cases answer with
  | ok answer => exact Or.inl ⟨_, rfl, by rw [Step.judge, hentry, hargs]⟩
  | error cause =>
    refine Or.inr ⟨_, _, rfl, rfl, ?_⟩
    rw [Step.crashFault, Step.crashFault, hentry, hargs]
    cases literalsWithin c.room (s.entry.fillArgs s.args) with
    | ok args => exact .execution _ args _ cause
    | error obstacle => exact .unwritten _ cause obstacle

end Steps

/-- A way to stop that does not look at names as written. -/
def Unspelled (halts : Step → Bool) : Prop := ∀ s t, t.core = s.core → halts t = halts s

theorem unspelled_always : Unspelled fun _ => true := fun _ _ _ => rfl

theorem unspelled_stops : Unspelled Step.stops := fun _ _ h => congrArg (fun core => core.2.2) h

/-- Runs over the same cores show the same and pause alike. -/
theorem runSteps_respelled (hhalts : Unspelled halts) {ss ts : List Step}
    (h : ts.map Step.core = ss.map Step.core) :
    (runSteps halts v c ts).course = (runSteps halts v c ss).course := by
  induction ss generalizing ts with
  | nil => rw [List.map_eq_nil_iff.mp h]
  | cons s ss ih =>
    obtain ⟨t, ts, rfl, hst, hrest⟩ := List.map_eq_cons_iff.mp h
    rw [runSteps_cons, runSteps_cons, Routine.course_bind, Routine.course_bind, call_of_core hst]
    rcases judge_of_core hst c (s.call v c).result with ⟨o, hs, ht⟩ | ⟨f, g, hs, ht, -⟩
    · simp only [hs, ht, hhalts s t hst]
      split
      · rfl
      · rw [Routine.course_map, Routine.course_map, ih hrest]
    · simp only [hs, ht, Routine.course_done]

/-- Ledgers of two spellings: the same outcomes, and behind them no fault, or faults that are related. -/
inductive LedgerRespelled (F : Nat → Fault → Fault → Prop) : Ledger → Ledger → Prop where
  | done (outcomes : List Outcome) : LedgerRespelled F ⟨outcomes, none⟩ ⟨outcomes, none⟩
  | fault {outcomes : List Outcome} {f g : Fault} : F outcomes.length f g →
      LedgerRespelled F ⟨outcomes, some f⟩ ⟨outcomes, some g⟩

section Ledgers

variable {F G : Nat → Fault → Fault → Prop} {l l' : Ledger}

theorem LedgerRespelled.imp (h : LedgerRespelled F l l') (hFG : ∀ n f g, F n f g → G n f g) :
    LedgerRespelled G l l' := by
  cases h with
  | done outcomes => exact .done outcomes
  | fault hfg => exact .fault (hFG _ _ _ hfg)

/-- One more outcome in front moves the faults by one place. -/
theorem LedgerRespelled.add (h : LedgerRespelled F l l') (hFG : ∀ n f g, F n f g → G (n + 1) f g)
    (o : Outcome) : LedgerRespelled G (l.add o) (l'.add o) := by
  cases h with
  | done outcomes => exact .done (o :: outcomes)
  | fault hfg => exact .fault (hFG _ _ _ hfg)

theorem LedgerRespelled.outcomes (h : LedgerRespelled F l l') : l'.outcomes = l.outcomes := by
  cases h <;> rfl

end Ledgers

/-- Rules of the same meaning leave the same behind, up to the rule that crashes. -/
theorem stepLedger_respelled (hhalts : Unspelled halts) {ps qs : List (Rule Value × Entry)}
    (h : List.Forall₂ SameMeaning ps qs) (bailing : Bool) :
    LedgerRespelled (CrashRespelled (ps.map Prod.fst) (qs.map Prod.fst))
      (stepLedger halts v c (markStops bailing ps)) (stepLedger halts v c (markStops bailing qs)) := by
  induction h generalizing bailing with
  | nil => exact .done []
  | @cons p q ps qs hpq _ ih =>
    obtain ⟨rule, e⟩ := p
    obtain ⟨other, e'⟩ := q
    obtain ⟨rfl, hargs, hbail⟩ : e' = e ∧ other.args = rule.args ∧ other.bail = rule.bail :=
      ⟨hpq.entry, hpq.args, hpq.bail⟩
    let s : Step := ⟨rule.name, e', rule.args, bailing || rule.bail⟩
    let t : Step := ⟨other.name, e', other.args, bailing || other.bail⟩
    have hcore : t.core = s.core := by simp only [Step.core, s, t, hargs, hbail]
    show LedgerRespelled _ (stepLedger halts v c (s :: markStops (bailing || e'.name == bailName) ps))
      (stepLedger halts v c (t :: markStops (bailing || e'.name == bailName) qs))
    rw [stepLedger, stepLedger, Step.verdict, Step.verdict, call_of_core hcore]
    rcases judge_of_core hcore c (s.call v c).result with ⟨o, hs, ht⟩ | ⟨f, g, hs, ht, hwritten⟩
    · simp only [hs, ht, hhalts s t hcore]
      split
      · exact .done [o]
      · exact (ih _).add (fun n f g hfg => hfg.cons rule other) o
    · simp only [hs, ht]
      exact .fault (.crash rfl rfl hwritten)

/-! ## Evaluations -/

/-- Two endings: the same, or faults that are related. -/
inductive SameEnd {α : Type} (F : Fault → Fault → Prop) : Except Fault α → Except Fault α → Prop where
  | ok (a : α) : SameEnd F (.ok a) (.ok a)
  | error {f g : Fault} : F f g → SameEnd F (.error f) (.error g)

theorem SameEnd.map {α β : Type} {F : Fault → Fault → Prop} {x y : Except Fault α}
    (h : SameEnd F x y) (f : α → β) : SameEnd F (x.map f) (y.map f) := by
  cases h with
  | ok a => exact .ok (f a)
  | error hfg => exact .error hfg

theorem LedgerRespelled.report {F : Nat → Fault → Fault → Prop} {l l' : Ledger}
    (h : LedgerRespelled F l l') : SameEnd (F l.outcomes.length) l.report l'.report := by
  cases h with
  | done outcomes => exact .ok _
  | fault hfg => exact .error hfg

theorem getElem?_extend {α : Type} {xs ys : List α} {i : Nat} {a : α} (h : xs <+: ys)
    (hi : xs[i]? = some a) : ys[i]? = some a := by
  obtain ⟨hlt, rfl⟩ := List.getElem?_eq_some_iff.mp hi
  exact List.prefix_iff_getElem?.mp h i hlt

theorem CrashRespelled.extend {n : Nat} {f g : Fault} {before before' : List (Rule Value)}
    (h : CrashRespelled before before' n f g) (hrules : before <+: rules) (hothers : before' <+: others) :
    CrashRespelled rules others n f g := by
  cases h with
  | crash hrule hother hwritten =>
    exact .crash (getElem?_extend hrules hrule) (getElem?_extend hothers hother) hwritten

theorem rules_eq_nil_iff (h : List.Forall₂ (Respelled r) spec.rules back.rules) :
    back.rules = [] ↔ spec.rules = [] := by
  rw [← List.length_eq_zero_iff, ← List.length_eq_zero_iff, h.length_eq]

/-- Both spellings leave the same behind. -/
theorem ledger_respelled (hhalts : Unspelled halts)
    (h : List.Forall₂ (Respelled r) spec.rules back.rules) (v : Value) (c : Context) :
    LedgerRespelled (FaultRespelled r spec.rules back.rules) (r.ledger halts spec v c)
      (r.ledger halts back v c) := by
  unfold Registry.ledger
  simp only [List.isEmpty_iff, rules_eq_nil_iff h]
  split
  · exact .done []
  · rcases plan_respelled h v with ⟨f, g, hf, hg, hfg⟩ | ⟨ps, qs, hps, hqs, hall, hrules, hothers⟩
    · simp only [hf, hg]
      exact .fault (hfg 0)
    · simp only [hps, hqs]
      exact (stepLedger_respelled hhalts hall false).imp fun n f g hfg =>
        .crash (hfg.extend hrules hothers)

/-- Both spellings show the same and pause alike. -/
theorem course_respelled (hhalts : Unspelled halts)
    (h : List.Forall₂ (Respelled r) spec.rules back.rules) (v : Value) (c : Context) :
    (evaluateWith halts r back v c).course = (evaluateWith halts r spec v c).course := by
  by_cases hnil : spec.rules = []
  · rw [evaluateWith_of_nil hnil, evaluateWith_of_nil ((rules_eq_nil_iff h).mpr hnil)]
  have hnil' : back.rules ≠ [] := fun hback => hnil ((rules_eq_nil_iff h).mp hback)
  rcases plan_respelled h v with ⟨f, g, hf, hg, -⟩ | ⟨ps, qs, hps, hqs, hall, -, -⟩
  · rw [evaluateWith_of_error hnil hf, evaluateWith_of_error hnil' hg]
    rfl
  · have hrun := runSteps_respelled (v := v) (c := c.about v) hhalts (markStops_respelled hall false)
    have hend := (stepLedger_respelled (v := v) (c := c.about v) hhalts hall false).report
    simp only [evaluateWith, hnil, hnil', hps, hqs, List.isEmpty_iff, if_false, Routine.course_bind,
      runSteps_ledger, hrun]
    -- what is shown behind the run is told from the outcomes alone
    generalize (stepLedger halts v (c.about v) (markStops false ps)).report = x at hend ⊢
    generalize (stepLedger halts v (c.about v) (markStops false qs)).report = y at hend ⊢
    cases hend <;> rfl

/-! ## Registered names -/

/-- An outcome under the registered name of what a rule means, with the arguments of the rule; its message
is made from the template of the registered name. -/
def Rule.Registers (r : Registry) (rule : Rule Value) (o : Outcome) : Prop :=
  ∃ e, r.lookup rule.name = some e ∧ r.find? e.name = some e ∧
    o.rule = e.name ∧ o.args = e.fillArgs rule.args ∧
    ∀ (m : Messages) (label : String) (room : Nat),
      m.resolve o label room = (m.template e.name).messageWithin room o label

theorem stepLedger_registered {ps : List (Rule Value × Entry)}
    (hmeant : ∀ p ∈ ps, r.lookup p.1.name = some p.2) {bailing : Bool} {i : Nat} {o : Outcome}
    (ho : (stepLedger halts v c (markStops bailing ps)).outcomes[i]? = some o) :
    ∃ p, ps[i]? = some p ∧ p.1.Registers r o := by
  induction ps generalizing bailing i with
  | nil => cases ho
  | cons p ps ih =>
    obtain ⟨hfirst, hrest⟩ := List.forall_mem_cons.mp hmeant
    rw [markStops, stepLedger] at ho
    cases hs : Step.verdict _ v c with
    | error fault =>
      rw [hs] at ho
      cases ho
    | ok first =>
      have hhere : p.1.Registers r first := by
        obtain ⟨answer, -, rfl⟩ := verdict_eq_ok hs
        exact ⟨p.2, hfirst, Registry.find?_of_lookup hfirst, rfl, rfl, fun _ _ _ => rfl⟩
      simp only [hs] at ho
      cases i with
      | zero =>
        have heq : first = o := by
          split at ho <;> exact Option.some.inj ho
        exact ⟨p, rfl, heq ▸ hhere⟩
      | succ i =>
        split at ho
        · cases ho
        · exact ih hrest ho

/-- Outcomes stand in the order of the rules, each under the registered name of what its rule means. -/
theorem ledger_registered {i : Nat} {o : Outcome}
    (ho : (r.ledger halts spec v c).outcomes[i]? = some o) :
    ∃ rule, spec.rules[i]? = some rule ∧ rule.Registers r o := by
  unfold Registry.ledger at ho
  split at ho
  · cases ho
  · cases hp : r.plan spec v with
    | error fault =>
      rw [hp] at ho
      cases ho
    | ok steps =>
      simp only [hp] at ho
      obtain ⟨ps, rfl, hrules, hmeant⟩ := plan_eq_ok hp
      obtain ⟨p, hi, hregisters⟩ := stepLedger_registered hmeant ho
      refine ⟨p.1, getElem?_extend hrules ?_, hregisters⟩
      rw [List.getElem?_map, hi, Option.map_some]

/-! ## Both ways of evaluating -/

/-- **What two spellings have in common in one way of evaluating.**  `failures` are the outcomes of an
answer for which messages are made. -/
structure SpellingFree {α : Type} (halts : Step → Bool) (r : Registry) (spec back : Spec) (v : Value)
    (c : Context) (run : Spec → Routine (Except Fault α)) (failures : α → List Outcome) : Prop where
  /-- The same events and pauses, in the same order. -/
  course : (run back).course = (run spec).course
  /-- The same answer, or faults of the same place. -/
  ends : SameEnd (FaultRespelled r spec.rules back.rules (r.ledger halts spec v c).outcomes.length)
    (run spec).result (run back).result
  /-- A fault and its counterpart are of the same family, and have the same cause. -/
  family {f g : Fault} : (run spec).result = .error f → (run back).result = .error g →
    g.record.kind = f.record.kind ∧ g.record.cause = f.record.cause
  /-- The same outcomes, also in front of a fault. -/
  outcomes : (r.ledger halts back v c).outcomes = (r.ledger halts spec v c).outcomes
  /-- Each outcome stands under the registered name that both rules of its place mean. -/
  registered {i : Nat} {o : Outcome} : (r.ledger halts spec v c).outcomes[i]? = some o →
    ∃ rule other, spec.rules[i]? = some rule ∧ back.rules[i]? = some other ∧
      rule.Registers r o ∧ other.Registers r o
  /-- The same messages for the failures. -/
  messages (m : Messages) (label : String) (room : Nat) :
    SameEnd (FaultRespelled r spec.rules back.rules (r.ledger halts spec v c).outcomes.length)
      ((run spec).result.map fun a => (failures a).map fun o => m.resolve o label room)
      ((run back).result.map fun a => (failures a).map fun o => m.resolve o label room)

theorem SameEnd.record {α : Type} {n : Nat} {x y : Except Fault α} {f g : Fault}
    (h : SameEnd (FaultRespelled r rules others n) x y) (hx : x = .error f) (hy : y = .error g) :
    g.record.kind = f.record.kind ∧ g.record.cause = f.record.cause := by
  cases h with
  | ok a => cases hx
  | error hfg =>
    cases hx
    cases hy
    exact hfg.record

/-- A way of evaluating that makes its answer from the report is free of spelling if it does not look at
names to stop. -/
theorem spellingFree_of_report {α : Type} (hhalts : Unspelled halts)
    (h : List.Forall₂ (Respelled r) spec.rules back.rules) {run : Spec → Routine (Except Fault α)}
    (answer : Report → α) (failures : α → List Outcome)
    (hcourse : ∀ s, (run s).course = (evaluateWith halts r s v c).course)
    (hresult : ∀ s, (run s).result = (evaluateWith halts r s v c).result.map answer) :
    SpellingFree halts r spec back v c run failures := by
  have hledger := ledger_respelled hhalts h v c
  have hends : SameEnd (FaultRespelled r spec.rules back.rules (r.ledger halts spec v c).outcomes.length)
      (run spec).result (run back).result := by
    rw [hresult, hresult, evaluateWith_ledger, evaluateWith_ledger]
    exact hledger.report.map answer
  refine ⟨?_, hends, hends.record, hledger.outcomes, fun {i o} ho => ?_, fun m label room => hends.map _⟩
  · rw [hcourse, hcourse, course_respelled hhalts h]
  · obtain ⟨rule, hrule, hregisters⟩ := ledger_registered ho
    obtain ⟨other, hother, hregisters'⟩ := ledger_registered (hledger.outcomes ▸ ho)
    exact ⟨rule, other, hrule, hother, hregisters, hregisters'⟩

/-- **Spelling does not matter.**  If two specifications differ in nothing but names, and the names of
each place mean the same, then the same rules are planned, with the same arguments and stops, or none; and
both ways of evaluating are the same, but for the names that a fault tells as written. -/
theorem spelling_does_not_matter (h : List.Forall₂ (Respelled r) spec.rules back.rules) (v : Value)
    (c : Context) :
    (r.plan back v).toOption.map (List.map Step.core) =
      (r.plan spec v).toOption.map (List.map Step.core) ∧
    SpellingFree (fun _ => true) r spec back v c (fun s => evaluate r s v c)
      (fun result => result.failure.toList) ∧
    SpellingFree Step.stops r spec back v c (fun s => collect r s v c) Report.failures := by
  refine ⟨?_, ?_, ?_⟩
  · rcases plan_respelled h v with ⟨f, g, hf, hg, -⟩ | ⟨ps, qs, hps, hqs, hall, -, -⟩
    · rw [hf, hg]
      rfl
    · rw [hps, hqs]
      exact congrArg some (markStops_respelled hall false)
  · exact spellingFree_of_report unspelled_always h Report.firstFailure _
      (fun s => Routine.course_map _ _) (fun s => Routine.result_map _ _)
  · refine spellingFree_of_report unspelled_stops h id _ (fun s => rfl) (fun s => ?_)
    rw [Except.map_id]
    rfl

/-- Names with capitals, for two texts, a mark and a bound that is no number. -/
def camelRules : List (Rule Value) :=
  [{ name := "startsWith", args := [.text "a"] }, { name := "Bail" },
    { name := "endsWith", args := [.text "z"] }, { name := "Min", args := [.text "q"] }]

/-- The first text stops behind the mark; the second one goes on to the bound, which crashes. -/
theorem spelling_does_not_matter_camelRules :
    List.Forall₂ (Respelled Registry.standard) camelRules (camelRules.map Rule.inSnakeCase) ∧
    (camelRules.map Rule.inSnakeCase).map Rule.name = ["starts_with", "bail", "ends_with", "min"] ∧
    (collect Registry.standard { rules := camelRules } (.text "abc") {}).result =
      .ok { outcomes := [{ rule := "starts_with", args := [.text "a"], passed := true },
        { rule := "bail", args := [], passed := true },
        { rule := "ends_with", args := [.text "z"], passed := false }] } ∧
    (collect Registry.standard { rules := camelRules } (.text "abz") {}).result =
      .error (.execution "min" "Min" ["'q'", "None"] none (.boundNotNumeric "min" "'q'")) ∧
    ∀ s ∈ ["abc", "abz"], SpellingFree Step.stops Registry.standard { rules := camelRules }
      { rules := camelRules.map Rule.inSnakeCase } (.text s) {}
      (fun spec => collect Registry.standard spec (.text s) {}) Report.failures := by
  have halike : List.Forall₂ (Respelled Registry.standard) camelRules
      (camelRules.map Rule.inSnakeCase) := by
    refine List.forall₂_map_right_iff.mpr (List.forall₂_same.mpr fun rule hrule => ?_)
    have hnew : ∀ rule ∈ camelRules, isName rule.name.toList = true ∧
        rule.name ∉ Registry.standard.names := by decide
    exact respelled_inSnakeCase (hnew rule hrule).1 (hnew rule hrule).2
  exact ⟨halike, by decide, rfl, rfl, fun s _ => (spelling_does_not_matter halike (.text s) {}).2.2⟩

end FieldCheck
