import FieldCheck.Proofs.Moments
import FieldCheck.Proofs.Names
import FieldCheck.Proofs.Reread
import FieldCheck.Proofs.Run

/-!
# Written specifications mean the same

A specification of standard rules that is written and read again has texts in the place of its
arguments.  Every rule reads its own kind of argument from the text.

* `Portable` — the arguments that a standard rule takes.
* `Reread` — an argument, and what stands in its place after it was written.
* `SameAnswer`, `required_reread`, `bounded_reread`, `between_reread`, `compared_reread` — each rule
  answers the same, or crashes both times.
* `Agree` — two endings that agree: the same gist, or faults of the same rule.
* `SameStep`, `runSteps_agree`, `plan_reread` — the steps of both specifications, and what comes of
  them.

Principal result: `written_means_the_same`.
-/

set_option autoImplicit false

namespace FieldCheck

/-! ## Arguments -/

/-- The rules that compare a size with integers. -/
def sizeRules : List String := ["min", "max", "between"]

/-- The rules that compare with a day or a moment. -/
def momentRules : List String := ["after", "before"]

theorem not_momentRules_of_size : ∀ rule ∈ sizeRules, rule ∉ momentRules := by decide

theorem not_required_of_size : ∀ rule ∈ sizeRules, rule ≠ "required" := by decide

/-- The arguments that a standard rule takes: texts, but none between slashes with a comma in it, and
of other kinds those that the rule is made for. -/
inductive Portable (rule : String) : Value → Prop where
  | text {s : String} : ¬(isSlashed s.toList = true ∧ ',' ∈ s.toList) → Portable rule (.text s)
  | flag (b : Bool) : rule = "required" → Portable rule (.bool b)
  | bound {n : Int} : rule ∈ sizeRules →
      (Nat.toDigits 10 n.natAbs).length ≤ digitLimit → Portable rule (.int n)
  | day {d : Date} : rule ∈ momentRules → d.isValid = true → Portable rule (.date d)
  | moment {s : Stamp} : rule ∈ momentRules → s.Regular → Portable rule (.stamp s)

/-- The text of a day or a moment. -/
def Value.momentText? : Value → Option String
  | .date d => some d.isoText
  | .stamp s => some s.isoText
  | _ => none

/-- No field is named like the text of a day or a moment. -/
def NoNamesake (c : Context) (args : List Value) : Prop :=
  ∀ a ∈ args, ∀ t ∈ a.momentText?, c.other? t = none

/-- An argument of a rule, and what stands in its place after it was written and read again. -/
inductive Reread (rule : String) : Value → Value → Prop where
  | same (a : Value) : Reread rule a a
  | flag (b : Bool) : rule = "required" → Reread rule (.bool b) (.text (if b then "true" else "false"))
  | bound {n : Int} : rule ∈ sizeRules →
      (Nat.toDigits 10 n.natAbs).length ≤ digitLimit →
      Reread rule (.int n) (.text (Value.int n).literalText)
  | day {d : Date} : rule ∈ momentRules → d.isValid = true →
      Reread rule (.date d) (.text d.isoText)
  | moment {s : Stamp} : rule ∈ momentRules → s.Regular →
      Reread rule (.stamp s) (.text s.isoText)

section Arguments

variable {rule : String} {a b : Value} {args backs xs ys : List Value}

theorem Portable.reread (h : Portable rule a) (hsame : SameArgument a b) : Reread rule a b := by
  obtain ⟨t, hform, rfl⟩ := hsame
  cases h with
  | text _ =>
    cases hform
    exact .same _
  | flag b hrule =>
    cases hform
    exact .flag b hrule
  | bound hrule hdigits =>
    cases hform
    exact .bound hrule hdigits
  | day hrule hvalid =>
    cases hform
    exact .day hrule hvalid
  | moment hrule hregular =>
    cases hform
    exact .moment hrule hregular

theorem reread_args (h : ∀ a ∈ args, Portable rule a) (hsame : List.Forall₂ SameArgument args backs) :
    List.Forall₂ (Reread rule) args backs := by
  induction hsame with
  | nil => exact .nil
  | cons ha _ ih =>
    obtain ⟨hfirst, hrest⟩ := List.forall_mem_cons.mp h
    exact .cons (hfirst.reread ha) (ih hrest)

/-- The defaults of a rule stand behind both. -/
theorem fillArgs_reread (e : Entry) (h : List.Forall₂ (Reread rule) args backs) :
    List.Forall₂ (Reread rule) (e.fillArgs args) (e.fillArgs backs) := by
  rw [Entry.fillArgs, Entry.fillArgs, List.Forall₂.length_eq h]
  refine List.rel_append h ?_
  exact List.forall₂_same.mpr fun a _ => .same a

/-- Most rules take nothing but texts, which come back as they are. -/
theorem eq_of_reread (hrule : rule ≠ "required" ∧ rule ∉ sizeRules ∧ rule ∉ momentRules)
    (h : List.Forall₂ (Reread rule) xs ys) : xs = ys := by
  obtain ⟨hflag, hsize, hmoment⟩ := hrule
  refine List.forall₂_eq_eq_eq ▸ h.imp fun a b hab => ?_
  cases hab with
  | same => rfl
  | flag b h => exact absurd h hflag
  | bound h _ => exact absurd h hsize
  | day h _ => exact absurd h hmoment
  | moment h _ => exact absurd h hmoment

/-- An argument by position is there both times, or missing both times. -/
theorem argument_reread (h : List.Forall₂ (Reread rule) xs ys) (n : Nat) :
    (∃ crash, argument xs n = .error crash ∧ argument ys n = .error crash) ∨
      ∃ a b, Reread rule a b ∧ argument xs n = .ok a ∧ argument ys n = .ok b := by
  induction h generalizing n with
  | nil => exact Or.inl ⟨_, rfl, rfl⟩
  | @cons a b xs ys hab _ ih =>
    cases n with
    | zero => exact Or.inr ⟨a, b, hab, rfl, rfl⟩
    | succ n => exact ih n

/-- What is in the way of an argument's literal is in the way of the other's. -/
theorem obstacle?_reread (h : Reread rule a b) (room : Nat) : a.obstacle? room = b.obstacle? room := by
  cases h with
  | same => rfl
  | flag b _ => rfl
  | bound _ hdigits =>
    simp only [Value.obstacle?, Value.visits, List.findSome?_cons, obstacleAt,
      if_neg (Nat.not_lt.mpr hdigits)]
  | day _ _ => rfl
  | moment _ _ => rfl

theorem firstObstacle_reread (h : List.Forall₂ (Reread rule) xs ys) (room : Nat) :
    xs.findSome? (Value.obstacle? room) = ys.findSome? (Value.obstacle? room) := by
  induction h with
  | nil => rfl
  | cons hab _ ih => rw [List.findSome?_cons, List.findSome?_cons, obstacle?_reread hab room, ih]

end Arguments

/-! ## Rules -/

/-- The same answer, or a crash both times. -/
def SameAnswer {α : Type} (x y : Except Crash α) : Prop := x.toOption = y.toOption

namespace Rules

variable {v : Value} {c : Context} {xs ys : List Value} {a b : Value} {rule : String}

theorem isOn_reread (h : Reread "required" a b) : a.isOn = b.isOn := by
  cases h with
  | same => rfl
  | flag b _ => cases b <;> decide
  | bound h _ => exact absurd h (by decide)
  | day h _ => exact absurd h (by decide)
  | moment h _ => exact absurd h (by decide)

theorem trimmedFor_reread (h : Reread "required" a b) : trimmedFor a c v = trimmedFor b c v := by
  cases h with
  | same => rfl
  | flag b _ =>
    -- neither a flag nor its text asks for trimming
    cases v with
    | text s => cases b <;> rfl
    | _ => rfl
  | bound h _ => exact absurd h (by decide)
  | day h _ => exact absurd h (by decide)
  | moment h _ => exact absurd h (by decide)

theorem required_reread (h : List.Forall₂ (Reread "required") xs ys) :
    SameAnswer (required v xs c) (required v ys c) := by
  unfold SameAnswer required
  rcases argument_reread h 0 with ⟨crash, hx, hy⟩ | ⟨flag, flag', hflag, hx, hy⟩
  · rw [hx, hy]
  · rcases argument_reread h 1 with ⟨crash, hx', hy'⟩ | ⟨mode, mode', hmode, hx', hy'⟩
    · rw [hx, hy, hx', hy']
    · rw [hx, hy, hx', hy']
      simp only [isOn_reread hflag, trimmedFor_reread hmode]

theorem ofText?_literalText {n : Int} (h : (Nat.toDigits 10 n.natAbs).length ≤ digitLimit) :
    Number.ofText? (Value.int n).literalText.toList = some (.int n) := by
  show Number.ofText? (String.ofList (integerText n)).toList = some (.int n)
  rw [String.toList_ofList, ofText?_integerText h]

/-- A numeral is no word that asks for a mode. -/
theorem ofValue?_of_number {t : String} {n : Number} (h : Number.ofText? t.toList = some n) :
    SizeMode.ofValue? (.text t) = none := by
  have hword : ∀ word ∈ ["", "length", "value"], Number.ofText? word.toList = none := by decide
  have hne : ∀ word ∈ ["", "length", "value"], t ≠ word := by
    rintro word hmem rfl
    rw [hword t hmem] at h
    cases h
  simp [SizeMode.ofValue?, hne]

theorem number?_reread (hrule : rule ∈ sizeRules) (h : Reread rule a b) :
    a.number? = b.number? := by
  cases h with
  | same => rfl
  | flag b h => exact absurd h (not_required_of_size rule hrule)
  | bound _ hdigits => exact (ofText?_literalText hdigits).symm
  | day h _ => exact absurd h (not_momentRules_of_size rule hrule)
  | moment h _ => exact absurd h (not_momentRules_of_size rule hrule)

theorem mode_reread (hrule : rule ∈ sizeRules) (h : Reread rule a b) :
    SizeMode.ofValue? a = SizeMode.ofValue? b := by
  cases h with
  | same => rfl
  | flag b h => exact absurd h (not_required_of_size rule hrule)
  | bound _ hdigits => exact (ofValue?_of_number (ofText?_literalText hdigits)).symm
  | day h _ => exact absurd h (not_momentRules_of_size rule hrule)
  | moment h _ => exact absurd h (not_momentRules_of_size rule hrule)

/-- A bound is the same number, or none both times. -/
theorem bound_reread (hrule : rule ∈ sizeRules) (h : Reread rule a b) (c : Context) :
    (∃ n, bound rule a c = .ok n ∧ bound rule b c = .ok n) ∨
      ∃ crash crash', bound rule a c = .error crash ∧ bound rule b c = .error crash' := by
  unfold bound
  rw [← number?_reread hrule h]
  cases a.number? with
  | some n => exact Or.inl ⟨n, rfl, rfl⟩
  | none => exact Or.inr ⟨_, _, rfl, rfl⟩

/-- A size is measured in the same way, or not at all both times. -/
theorem measure_reread (hrule : rule ∈ sizeRules) (h : Reread rule a b) (c : Context) :
    (∃ size, measure v a c = .ok size ∧ measure v b c = .ok size) ∨
      ∃ crash crash', measure v a c = .error crash ∧ measure v b c = .error crash' := by
  unfold measure
  rw [← mode_reread hrule h]
  cases SizeMode.ofValue? a with
  | some mode => exact Or.inl ⟨_, rfl, rfl⟩
  | none => exact Or.inr ⟨_, _, rfl, rfl⟩

theorem bounded_reread (test : Number → Number → Bool) (hrule : rule ∈ sizeRules)
    (h : List.Forall₂ (Reread rule) xs ys) :
    SameAnswer (bounded rule test v xs c) (bounded rule test v ys c) := by
  unfold SameAnswer bounded
  rcases argument_reread h 0 with ⟨crash, hx, hy⟩ | ⟨a, b, hab, hx, hy⟩
  · simp only [bind, Except.bind, hx, hy]
  simp only [hx, hy]
  rcases bound_reread hrule hab c with ⟨limit, ha, hb⟩ | ⟨crash, crash', ha, hb⟩
  · rcases argument_reread h 1 with ⟨crash, hx', hy'⟩ | ⟨mode, mode', hmode, hx', hy'⟩
    · simp only [bind, Except.bind, ha, hb, hx', hy']
    · rcases measure_reread (v := v) hrule hmode c with ⟨size, hm, hm'⟩ | ⟨crash, crash', hm, hm'⟩
      · simp only [bind, Except.bind, ha, hb, hx', hy', hm, hm']
      · simp only [bind, Except.bind, ha, hb, hx', hy', hm, hm', Except.toOption]
  · simp only [bind, Except.bind, ha, hb, Except.toOption]

theorem headD_reread (h : List.Forall₂ (Reread rule) xs ys) :
    Reread rule (xs.headD .absent) (ys.headD .absent) := by
  cases h with
  | nil => exact .same _
  | cons hab _ => exact hab

theorem between_reread (h : List.Forall₂ (Reread "between") xs ys) :
    SameAnswer (between v xs c) (between v ys c) := by
  have hrule : "between" ∈ sizeRules := by decide
  unfold SameAnswer between
  cases h with
  | nil => rfl
  | cons hlow h =>
    cases h with
    | nil => rfl
    | cons hhigh h =>
      rcases bound_reread hrule hlow c with ⟨low, ha, hb⟩ | ⟨crash, crash', ha, hb⟩
      · rcases bound_reread hrule hhigh c with ⟨high, ha', hb'⟩ | ⟨crash, crash', ha', hb'⟩
        · rcases measure_reread (v := v) hrule (headD_reread h) c with
            ⟨size, hm, hm'⟩ | ⟨crash, crash', hm, hm'⟩
          · simp only [bind, Except.bind, ha, hb, ha', hb', hm, hm']
          · simp only [bind, Except.bind, ha, hb, ha', hb', hm, hm', Except.toOption]
        · simp only [bind, Except.bind, ha, hb, ha', hb', Except.toOption]
      · simp only [bind, Except.bind, ha, hb, Except.toOption]

/-- The text of a moment stands for the moment, unless a field goes by it. -/
theorem reference_text {t : String} {m : Except Crash Moment} (hne : t.toList ≠ [])
    (hother : c.other? t = none) (htext : parseMoment (.text t) = m.map some) (ys : List Value) :
    reference rule (.text t :: ys) c = m.map some := by
  have hempty : t.isEmpty = false := by
    cases h : t.isEmpty with
    | false => rfl
    | true =>
      rw [String.isEmpty_iff.mp h] at hne
      exact absurd rfl hne
  unfold reference
  simp only [hempty, hother, htext, Bool.false_eq_true, if_false]
  cases m with
  | ok m => rfl
  | error crash => rfl

theorem reference_stamp (s : Stamp) (xs : List Value) :
    reference rule (.stamp s :: xs) c = (universal s).map some := by
  unfold reference
  simp only [parseMoment]
  cases universal s with
  | ok m => rfl
  | error crash => rfl

/-- The moment that a value is compared with is the same, if no field goes by its text. -/
theorem reference_reread (h : List.Forall₂ (Reread rule) xs ys) (hrule : rule ∈ momentRules)
    (hnames : NoNamesake c xs) : reference rule xs c = reference rule ys c := by
  cases h with
  | nil => rfl
  | @cons a b xs ys hab _ =>
    cases hab with
    | same => cases a <;> rfl
    | flag b h => exact absurd hrule (by rw [h]; decide)
    | bound h _ => exact absurd hrule (not_momentRules_of_size rule h)
    | @day d _ hvalid =>
      have hother : c.other? d.isoText = none := hnames (.date d) List.mem_cons_self _ rfl
      exact (reference_text (m := .ok (Moment.midnight d)) (isoText_ne_nil d) hother
        (parseMoment_dateText hvalid) ys).symm
    | @moment s _ hregular =>
      have hother : c.other? s.isoText = none := hnames (.stamp s) List.mem_cons_self _ rfl
      rw [reference_stamp]
      exact (reference_text (stampText_ne_nil s) hother (parseMoment_stampText hregular) ys).symm

theorem compared_reread (test : Moment → Moment → Bool) (hrule : rule ∈ momentRules)
    (h : List.Forall₂ (Reread rule) xs ys) (hnames : NoNamesake c xs) :
    SameAnswer (compared rule test v xs c) (compared rule test v ys c) := by
  unfold SameAnswer compared
  rw [reference_reread h hrule hnames]

end Rules

/-- A standard rule takes nothing but texts, unless it is one of six. -/
theorem standardRules_kinds : ∀ b ∈ standardRules,
    (b.name ≠ "required" ∧ b.name ∉ sizeRules ∧ b.name ∉ momentRules) ∨
    (b.name = "required" ∧ b.check = Rules.required) ∨
    (b.name = "between" ∧ b.check = Rules.between) ∨
    (b.name ∈ sizeRules ∧ ∃ test, b.check = Rules.bounded b.name test) ∨
    (b.name ∈ momentRules ∧ ∃ test, b.check = Rules.compared b.name test) := by
  intro b hb
  simp only [standardRules, List.mem_cons, List.not_mem_nil, or_false] at hb
  rcases hb with rfl | rfl | rfl | rfl | rfl | rfl | rfl | rfl | rfl | rfl | rfl | rfl | rfl | rfl |
    rfl | rfl | rfl | rfl | rfl | rfl | rfl | rfl
  -- the six rules that take more than texts are left
  all_goals try exact Or.inl (by decide)
  · exact Or.inr (Or.inr (Or.inr (Or.inr ⟨by decide, _, rfl⟩)))
  · exact Or.inr (Or.inr (Or.inr (Or.inr ⟨by decide, _, rfl⟩)))
  · exact Or.inr (Or.inr (Or.inl ⟨rfl, rfl⟩))
  · exact Or.inr (Or.inr (Or.inr (Or.inl ⟨by decide, _, rfl⟩)))
  · exact Or.inr (Or.inr (Or.inr (Or.inl ⟨by decide, _, rfl⟩)))
  · exact Or.inr (Or.inl ⟨rfl, rfl⟩)

/-- A standard rule answers the same for the arguments that were read again. -/
theorem check_reread {b : StandardRule} (hb : b ∈ standardRules) {v : Value} {c : Context}
    {xs ys : List Value} (h : List.Forall₂ (Reread b.name) xs ys) (hnames : NoNamesake c xs) :
    SameAnswer (b.check v xs c) (b.check v ys c) := by
  rcases standardRules_kinds b hb with hkind | ⟨hname, hcheck⟩ | ⟨hname, hcheck⟩ |
    ⟨hname, test, hcheck⟩ | ⟨hname, test, hcheck⟩
  · rw [eq_of_reread hkind h]
    rfl
  · rw [hcheck]
    exact Rules.required_reread (hname ▸ h)
  · rw [hcheck]
    exact Rules.between_reread (hname ▸ h)
  · rw [hcheck]
    exact Rules.bounded_reread test hname h
  · rw [hcheck]
    exact Rules.compared_reread test hname h hnames

/-! ## Endings that agree -/

theorem SameAnswer.cases {α : Type} {x y : Except Crash α} (h : SameAnswer x y) :
    (∃ a, x = .ok a ∧ y = .ok a) ∨ ∃ crash crash', x = .error crash ∧ y = .error crash' := by
  unfold SameAnswer at h
  cases x with
  | ok a =>
    cases y with
    | ok b =>
      simp only [Except.toOption, Option.some.injEq] at h
      exact Or.inl ⟨a, rfl, by rw [h]⟩
    | error crash => cases h
  | error crash =>
    cases y with
    | ok b => cases h
    | error crash' => exact Or.inr ⟨crash, crash', rfl, rfl⟩

/-- The same fault; a rule that crashes may be worded otherwise. -/
inductive SameFault : Fault → Fault → Prop where
  | same (fault : Fault) : SameFault fault fault
  | crash (rule written : String) (field : Option String) (args args' : List String)
      (cause cause' : Crash) :
      SameFault (.execution rule written args field cause) (.execution rule written args' field cause')
  | unwritten (rule written : String) (cause cause' : Crash) (obstacle : Obstacle) :
      SameFault (.unwritten rule written cause obstacle) (.unwritten rule written cause' obstacle)

/-- Two endings that agree: results of the same gist, or the same fault. -/
inductive Agree {α β : Type} (gist : α → β) : Except Fault α → Except Fault α → Prop where
  | ok {a b : α} : gist a = gist b → Agree gist (.ok a) (.ok b)
  | error {f g : Fault} : SameFault f g → Agree gist (.error f) (.error g)

theorem Agree.map {α β γ δ : Type} {gist : α → β} {gist' : γ → δ} {f f' : α → γ}
    {x y : Except Fault α} (h : Agree gist x y)
    (hf : ∀ a b, gist a = gist b → gist' (f a) = gist' (f' b)) :
    Agree gist' (x.map f) (y.map f') := by
  cases h with
  | ok hab => exact .ok (hf _ _ hab)
  | error hfg => exact .error hfg

/-- What is told of outcomes: which rules were run, and which of them passed. -/
def marks (outcomes : List Outcome) : List (String × Bool) :=
  outcomes.map fun o => (o.rule, o.passed)

/-- The rule that failed first can be told from the marks. -/
theorem firstFailure_rule (report : Report) :
    report.firstFailure.failure.map Outcome.rule =
      ((marks report.outcomes).find? fun p => !p.2).map Prod.fst := by
  rw [Report.firstFailure, marks, List.find?_map, Option.map_map]
  rfl

/-! ## Steps -/

section Steps

variable {r : Registry} {v : Value} {c : Context} {spec back : Spec}

/-- Steps that differ in nothing but the form of their arguments. -/
structure SameStep (v : Value) (c : Context) (s t : Step) : Prop where
  written : t.written = s.written
  entry : t.entry = s.entry
  stops : t.stops = s.stops
  answer : SameAnswer (s.call v c).result (t.call v c).result
  obstacle : (s.entry.fillArgs s.args).findSome? (Value.obstacle? c.room) =
    (t.entry.fillArgs t.args).findSome? (Value.obstacle? c.room)

/-- If such steps crash, that is reported in the same way. -/
theorem SameStep.crashFault {s t : Step} (h : SameStep v c s t) (crash crash' : Crash) :
    SameFault (s.crashFault c crash) (t.crashFault c crash') := by
  rw [Step.crashFault, Step.crashFault, literalsWithin, literalsWithin, h.obstacle, h.entry, h.written]
  cases (s.entry.fillArgs t.args).findSome? (Value.obstacle? c.room) with
  | none => exact .crash _ _ _ _ _ _ _
  | some obstacle => exact .unwritten _ _ _ _ _

/-- Such steps make the same marks, or the same one of them crashes. -/
theorem runSteps_agree {halts : Step → Bool} {ss ts : List Step}
    (hhalts : ∀ s t, SameStep v c s t → halts s = halts t)
    (h : List.Forall₂ (SameStep v c) ss ts) :
    Agree marks (runSteps halts v c ss).result (runSteps halts v c ts).result := by
  induction h with
  | nil => exact .ok rfl
  | @cons s t ss ts hst _ ih =>
    rw [runSteps_result_cons, runSteps_result_cons, Step.verdict, Step.verdict]
    rcases hst.answer.cases with ⟨answer, hs, ht⟩ | ⟨crash, crash', hs, ht⟩
    · simp only [hs, ht, Step.judge, hst.entry, hhalts s t hst]
      split
      · exact .ok rfl
      · refine ih.map fun a b hab => ?_
        rw [marks, List.map_cons, marks, List.map_cons]
        exact congrArg _ hab
    · simp only [hs, ht, Step.judge]
      exact .error (hst.crashFault crash crash')

/-- Rules that have been looked up and differ in nothing but the form of their arguments. -/
structure SameEntry (v : Value) (c : Context) (p q : Rule Value × Entry) : Prop where
  name : q.1.name = p.1.name
  bail : q.1.bail = p.1.bail
  entry : q.2 = p.2
  answer : SameAnswer (p.2.predicate v (p.2.fillArgs p.1.args) c).result
    (p.2.predicate v (p.2.fillArgs q.1.args) c).result
  obstacle : (p.2.fillArgs p.1.args).findSome? (Value.obstacle? c.room) =
    (p.2.fillArgs q.1.args).findSome? (Value.obstacle? c.room)

theorem markStops_same {ps qs : List (Rule Value × Entry)} (bailing : Bool)
    (h : List.Forall₂ (SameEntry v c) ps qs) :
    List.Forall₂ (SameStep v c) (markStops bailing ps) (markStops bailing qs) := by
  induction h generalizing bailing with
  | nil => exact .nil
  | @cons p q ps qs hpq _ ih =>
    rw [markStops, markStops, hpq.entry, hpq.name, hpq.bail]
    exact .cons ⟨rfl, rfl, rfl, hpq.answer, hpq.obstacle⟩ (ih _)

theorem hasPolicy_same {ps qs : List (Rule Value × Entry)} (policy : Policy)
    (h : List.Forall₂ (SameEntry v c) ps qs) : hasPolicy policy qs = hasPolicy policy ps := by
  induction h with
  | nil => rfl
  | @cons p q ps qs hpq _ ih =>
    simp only [hasPolicy, List.any_cons] at ih ⊢
    rw [hpq.entry, ih]

/-- A rule that means a standard rule and has arguments that it takes. -/
def Rule.Standard (r : Registry) (rule : Rule Value) : Prop :=
  ∃ b ∈ standardRules, r.lookup rule.name = some b.entry ∧ ∀ a ∈ rule.args, Portable b.name a

theorem noNamesake_fillArgs {b : StandardRule} (hb : b ∈ standardRules) {args : List Value}
    (h : NoNamesake c args) : NoNamesake c (b.entry.fillArgs args) := by
  have hdefaults : ∀ b ∈ standardRules, ∀ a ∈ b.defaults, a.momentText? = none := by decide
  intro a ha t ht
  rcases List.mem_append.mp ha with ha | ha
  · exact h a ha t ht
  · rw [hdefaults b hb a (List.mem_of_mem_drop ha)] at ht
    cases ht

/-- A standard rule that was read again means the same, and answers the same. -/
theorem entry_reread {rule other : Rule Value} {b : StandardRule} (hb : b ∈ standardRules)
    (hargs : ∀ a ∈ rule.args, Portable b.name a) (hsame : SameRule rule other)
    (hnames : NoNamesake c rule.args) : SameEntry v c (rule, b.entry) (other, b.entry) where
  name := hsame.name
  bail := hsame.bail
  entry := rfl
  answer := by
    have hfilled := fillArgs_reread b.entry (reread_args hargs hsame.args)
    have hcheck := check_reread (v := v) hb hfilled (noNamesake_fillArgs hb hnames)
    show SameAnswer ((b.check v _ c).map Value.bool) ((b.check v _ c).map Value.bool)
    rcases hcheck.cases with ⟨answer, hx, hy⟩ | ⟨crash, crash', hx, hy⟩
    · rw [hx, hy]
      rfl
    · rw [hx, hy]
      rfl
  obstacle := firstObstacle_reread (fillArgs_reread b.entry (reread_args hargs hsame.args)) c.room

theorem resolve_reread {rules backs : List (Rule Value)} (hrules : ∀ rule ∈ rules, rule.Standard r)
    (hnames : ∀ rule ∈ rules, NoNamesake c rule.args) (h : List.Forall₂ SameRule rules backs) :
    ∃ ps qs, r.resolve rules = .ok ps ∧ r.resolve backs = .ok qs ∧
      List.Forall₂ (SameEntry v c) ps qs := by
  induction h with
  | nil => exact ⟨[], [], rfl, rfl, .nil⟩
  | @cons rule other rules backs hsame _ ih =>
    obtain ⟨⟨b, hb, hlookup, hargs⟩, hrules⟩ := List.forall_mem_cons.mp hrules
    obtain ⟨hname, hnames⟩ := List.forall_mem_cons.mp hnames
    obtain ⟨ps, qs, hps, hqs, hall⟩ := ih hrules hnames
    have hlookup' : r.lookup other.name = some b.entry := by rw [hsame.name, hlookup]
    refine ⟨(rule, b.entry) :: ps, (other, b.entry) :: qs, ?_, ?_, .cons ?_ hall⟩
    · simp only [Registry.resolve, hlookup, hps]
    · simp only [Registry.resolve, hlookup', hqs]
    · exact entry_reread hb hargs hsame hname

theorem names_reread (h : List.Forall₂ SameRule spec.rules back.rules) : back.names = spec.names := by
  unfold Spec.names
  generalize spec.rules = rules at h
  generalize back.rules = backs at h
  induction h with
  | nil => rfl
  | cons hsame _ ih => rw [List.map_cons, List.map_cons, hsame.name, ih]

/-- Both specifications have the same steps, or the same fault of their setup. -/
theorem plan_reread (hrules : ∀ rule ∈ spec.rules, rule.Standard r)
    (hnames : ∀ rule ∈ spec.rules, NoNamesake c rule.args)
    (h : List.Forall₂ SameRule spec.rules back.rules) :
    (∃ fault, r.plan spec v = .error fault ∧ r.plan back v = .error fault) ∨
      ∃ ss ts, r.plan spec v = .ok ss ∧ r.plan back v = .ok ts ∧
        List.Forall₂ (SameStep v (c.about v)) ss ts := by
  obtain ⟨ps, qs, hps, hqs, hall⟩ := resolve_reread (v := v) (c := c.about v) hrules hnames h
  simp only [Registry.plan, hps, hqs, hasPolicy_same _ hall, names_reread h]
  split
  · exact Or.inl ⟨_, rfl, rfl⟩
  · split
    · exact Or.inr ⟨_, _, rfl, rfl, .nil⟩
    · exact Or.inr ⟨_, _, rfl, rfl, markStops_same false hall⟩

/-- Evaluations that stop in the same way make the same marks. -/
theorem evaluateWith_reread {halts : Step → Bool}
    (hhalts : ∀ s t, SameStep v (c.about v) s t → halts s = halts t)
    (hrules : ∀ rule ∈ spec.rules, rule.Standard r)
    (hnames : ∀ rule ∈ spec.rules, NoNamesake c rule.args)
    (h : List.Forall₂ SameRule spec.rules back.rules) :
    Agree (fun report => marks report.outcomes) (evaluateWith halts r spec v c).result
      (evaluateWith halts r back v c).result := by
  by_cases hnil : spec.rules = []
  · have hnil' : back.rules = [] := by
      rw [hnil] at h
      exact List.forall₂_nil_left_iff.mp h
    rw [evaluateWith_of_nil hnil, evaluateWith_of_nil hnil']
    exact .ok rfl
  · have hnil' : back.rules ≠ [] := by
      intro hback
      rw [hback] at h
      exact hnil (List.forall₂_nil_right_iff.mp h)
    rcases plan_reread (v := v) hrules hnames h with ⟨fault, hs, ht⟩ | ⟨ss, ts, hs, ht, hall⟩
    · rw [evaluateWith_of_error hnil hs, evaluateWith_of_error hnil' ht]
      exact .error (.same fault)
    · rw [evaluateWith_result hnil hs, evaluateWith_result hnil' ht]
      exact (runSteps_agree hhalts hall).map fun a b hab => hab

end Steps

/-! ## Written and read again -/

/-- A text that may be written has no comma, unless it stands between slashes. -/
theorem not_closesEarly_of_portable {rule s : String} (h : Portable rule (.text s))
    (hwritten : isPlainArgument s.toList = true) : ¬ClosesEarly s.toList := by
  cases h with
  | text hslashed =>
    simp only [isPlainArgument, Bool.or_eq_true, Bool.and_eq_true, Bool.not_eq_true'] at hwritten
    rcases hwritten with ⟨hbetween, -⟩ | ⟨-, hplain⟩
    · rintro ⟨a, b, htext, -⟩
      exact hslashed ⟨hbetween, by rw [htext]; simp⟩
    · exact not_closesEarly_plain hplain

theorem keepsWhole_of_standard {r : Registry} {spec : Spec} {text : String}
    (hrules : ∀ rule ∈ spec.rules, rule.Standard r) (hwrite : spec.write = .ok text) :
    spec.KeepsWhole := by
  intro rule hrule s hs
  obtain ⟨b, -, -, hargs⟩ := hrules rule hrule
  obtain ⟨fs, hfs, -⟩ := write_ok_iff.mp hwrite
  obtain ⟨f, -, hf⟩ := exists_of_forall₂ hfs hrule
  obtain ⟨ts, hts, -⟩ := writeRule_ok_iff.mp hf
  obtain ⟨t, -, ht⟩ := exists_of_forall₂ hts hs
  rcases argumentForm?_cases ht with ⟨heq, hplain⟩ | ⟨hkind, -⟩
  · cases heq
    refine not_closesEarly_of_portable (hargs _ hs) ?_
    rwa [String.toList_ofList]
  · exact absurd rfl (hkind s)

/-- **A specification of standard rules means the same when it was written and read again.**  The
rules find in the texts the flags, integers, days and moments that stood there before: the verdict is
the same, and so are the rule that fails, the rule that crashes and, where all rules are run, the
marks of all of them.  No field may be named like the text of a day or a moment, as a rule would take
it for that field. -/
theorem written_means_the_same {r : Registry} {spec : Spec} {text : String}
    (hrules : ∀ rule ∈ spec.rules, rule.Standard r) (hwrite : spec.write = .ok text) :
    ∃ back, Spec.ofValue (.text text) = .ok back ∧
      ∀ v c, (∀ rule ∈ spec.rules, NoNamesake c rule.args) →
        Agree (fun result => result.failure.map Outcome.rule) (evaluate r spec v c).result
          (evaluate r back v c).result ∧
        Agree (fun report => marks report.outcomes) (collect r spec v c).result
          (collect r back v c).result := by
  have hproper : ∀ rule ∈ spec.rules, isName rule.name.toList = true := by
    intro rule hrule
    obtain ⟨b, hb, hlookup, -⟩ := hrules rule hrule
    exact isName_of_lookup hb hlookup
  obtain ⟨back, hback, hsame⟩ :=
    (ofText_written_iff hproper hwrite).mpr (keepsWhole_of_standard hrules hwrite)
  refine ⟨back, hback, fun v c hnames => ⟨?_, ?_⟩⟩
  · have hall : Agree (fun report => marks report.outcomes)
        (evaluateWith (fun _ => true) r spec v c).result
        (evaluateWith (fun _ => true) r back v c).result :=
      evaluateWith_reread (fun _ _ _ => rfl) hrules hnames hsame
    unfold evaluate
    rw [Routine.result_map, Routine.result_map]
    refine hall.map fun a b hab => ?_
    rw [firstFailure_rule, firstFailure_rule, hab]
  · exact evaluateWith_reread (fun _ _ hst => hst.stops.symm) hrules hnames hsame

/-- The last minute of a leap day, half an hour off a whole one. -/
def leapStamp : Stamp := ⟨⟨⟨2024, 2, 29⟩, 23, 59, 0, 500⟩, some (-12600)⟩

/-- A flag, an integer, a text and a moment, with a name in another spelling. -/
def mixedSpec : Spec where
  rules :=
    [{ name := "required", args := [.bool true] },
      { name := "min", args := [.int (-5)], bail := true },
      { name := "endsWith", args := [.text "Z"] },
      { name := "after", args := [.stamp leapStamp] }]

theorem mixedSpec_standard : ∀ rule ∈ mixedSpec.rules, rule.Standard Registry.standard := by
  intro rule hrule
  simp only [mixedSpec, List.mem_cons, List.not_mem_nil, or_false] at hrule
  rcases hrule with rfl | rfl | rfl | rfl
  · refine ⟨_, List.mem_of_getElem? (i := 19) rfl, rfl, ?_⟩
    exact List.forall_mem_singleton.mpr (.flag true rfl)
  · refine ⟨_, List.mem_of_getElem? (i := 15) rfl, rfl, ?_⟩
    exact List.forall_mem_singleton.mpr (.bound (by decide) (by decide))
  · refine ⟨_, List.mem_of_getElem? (i := 10) rfl, rfl, ?_⟩
    exact List.forall_mem_singleton.mpr (.text (by decide))
  · refine ⟨_, List.mem_of_getElem? (i := 1) rfl, rfl, ?_⟩
    refine List.forall_mem_singleton.mpr (.moment (by decide) ?_)
    exact ⟨by decide, by decide, by decide, by decide, by decide, by decide⟩

theorem written_means_the_same_mixed :
    (∀ rule ∈ mixedSpec.rules, rule.Standard Registry.standard) ∧
      mixedSpec.write =
        .ok "required:true|^min:-5|endsWith:Z|after:2024-02-29T23:59:00.000500-03:30" ∧
      (∀ rule ∈ mixedSpec.rules, NoNamesake { values := [("2024", .int 1)] } rule.args) ∧
      ∃ back, Spec.ofValue
          (.text "required:true|^min:-5|endsWith:Z|after:2024-02-29T23:59:00.000500-03:30") = .ok back ∧
        Agree (fun result => result.failure.map Outcome.rule)
          (evaluate Registry.standard mixedSpec (.text "2024-03-01T00:00:00Z")
            { values := [("2024", .int 1)] }).result
          (evaluate Registry.standard back (.text "2024-03-01T00:00:00Z")
            { values := [("2024", .int 1)] }).result := by
  have hwrite : mixedSpec.write =
      .ok "required:true|^min:-5|endsWith:Z|after:2024-02-29T23:59:00.000500-03:30" := by
    decide +kernel
  have hnames : ∀ rule ∈ mixedSpec.rules, NoNamesake { values := [("2024", .int 1)] } rule.args := by
    unfold NoNamesake
    decide
  obtain ⟨back, hback, hmeans⟩ := written_means_the_same mixedSpec_standard hwrite
  exact ⟨mixedSpec_standard, hwrite, hnames, back, hback, (hmeans _ _ hnames).1⟩

end FieldCheck
