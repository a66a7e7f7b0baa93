import FieldCheck.Proofs.CalendarEnds
import FieldCheck.Proofs.Calls
import FieldCheck.Proofs.Fields
import FieldCheck.Proofs.Reread
import FieldCheck.Proofs.Sizes

/-!
# Ranges of dates

That one field lies before another can be declared at either of them.

* `instantOf?`, `instant_of_parseMoment` — the instant in universal time that a value is or writes.
* `Sooner` — the order of values by their instants.
* `decides_after`, `decides_before` — the rules as comparisons with another field.
* `evaluate_lone` — a specification of one standard rule.
* `DeclaresRange` — a form that declares a range at both of its ends.
* `DateRange` — the laws of two fields under the two rules.

Principal result: `range_at_either_end`.
-/

set_option autoImplicit false

namespace FieldCheck

namespace Rules

variable {u v w : Value} {found other : Option Moment} {p : String} {c : Context}

/-! ## Instants -/

/-- The instant in universal time that a value is or writes, whatever its kind, its form and its offset
are. -/
def instantOf? (v : Value) : Option Int := (stampOf? v).map Stamp.instant

theorem instant_of_universal {s : Stamp} {m : Moment} (h : universal s = .ok m) :
    m.instant = s.instant := by
  obtain ⟨moment, offset⟩ := s
  unfold universal at h
  cases offset with
  | none =>
    have hm : moment = m := by simpa [Stamp.toUniversal?] using h
    simp [Stamp.instant, hm]
  | some o =>
    cases hm : Moment.ofInstant? (moment.instant - o * 1000000) with
    | none => simp [Stamp.toUniversal?, hm] at h
    | some k =>
      have hk : k = m := by simpa [Stamp.toUniversal?, hm] using h
      rw [← hk]
      exact (Moment.valid_of_ofInstant? hm).2

/-- The moment that is read, if one is, is the instant of the value. -/
theorem instant_of_parseMoment (h : parseMoment v = .ok found) :
    instantOf? v = found.map Moment.instant := by
  rw [parseMoment_of_stampOf?] at h
  unfold instantOf?
  cases hs : stampOf? v with
  | none =>
    rw [hs] at h
    cases h
    rfl
  | some s =>
    rw [hs] at h
    dsimp only at h
    cases hm : universal s with
    | error crash =>
      rw [hm] at h
      cases h
    | ok m =>
      rw [hm] at h
      cases h
      rw [Option.map_some, Option.map_some, instant_of_universal hm]

theorem same_moment_iff {m n : Moment} (hu : u.OnCalendar) (hw : w.OnCalendar)
    (hm : parseMoment u = .ok (some m)) (hn : parseMoment w = .ok (some n)) :
    m.instant = n.instant ↔ m = n := by
  have hvalid {v : Value} {m : Moment} (hv : v.OnCalendar) (h : parseMoment v = .ok (some m)) :
      m.Valid := by
    rcases parseMoment_cases hv with ⟨-, heq⟩ | ⟨s, k, -, -, hk, -, heq⟩ | ⟨-, heq⟩
    · rw [h] at heq
      cases heq
    · rw [h] at heq
      cases heq
      exact hk
    · rw [h] at heq
      cases heq
  constructor
  · intro h
    exact (hvalid hu hm).instant_inj (hvalid hw hn) h
  · rintro rfl
    rfl

/-! ## The order of values -/

/-- Both values have an instant, and that of the first is the earlier one. -/
def Sooner (u w : Value) : Prop := ∃ x ∈ instantOf? u, ∃ y ∈ instantOf? w, x < y

theorem Sooner.trans (h : Sooner u v) (h' : Sooner v w) : Sooner u w := by
  obtain ⟨x, hx, y, hy, hxy⟩ := h
  obtain ⟨y', hy', z, hz, hyz⟩ := h'
  obtain rfl : y = y' := Option.mem_unique hy hy'
  exact ⟨x, hx, z, hz, hxy.trans hyz⟩

theorem Sooner.asymm (h : Sooner u w) : ¬Sooner w u := by
  intro h'
  obtain ⟨x, hx, y, hy, hlt⟩ := h.trans h'
  obtain rfl : x = y := Option.mem_unique hx hy
  exact lt_irrefl x hlt

theorem sooner_iff {x y : Int} (hx : instantOf? u = some x) (hy : instantOf? w = some y) :
    Sooner u w ↔ x < y := by
  simp [Sooner, hx, hy]

theorem not_sooner_of_none (h : instantOf? u = none ∨ instantOf? w = none) : ¬Sooner u w := by
  rintro ⟨x, hx, y, hy, -⟩
  rcases h with h | h
  · exact absurd hx (by simp [h])
  · exact absurd hy (by simp [h])

/-! ## The rules -/

/-- A field that is there is what a value is compared with, also if its name is itself the text of a
date. -/
theorem compared_field (rule : String) (test : Moment → Moment → Bool) (hne : p ≠ "")
    (hfield : c.values.find? p = some u) (hu : parseMoment u = .ok found)
    (hw : parseMoment w = .ok other) :
    compared rule test w [.text p] c =
      .ok (found.any fun r => other.any fun m => test r m) := by
  have hempty : p.isEmpty = false := by simpa using hne
  have hreference : reference rule [.text p] c = .ok found := by
    simp only [reference, hempty, Bool.false_eq_true, if_false, Context.other?, hfield, hu]
  rw [compared, hreference, hw]
  cases found with
  | none => rfl
  | some r => cases other <;> rfl

theorem sooner_iff_any (hu : parseMoment u = .ok found) (hw : parseMoment w = .ok other) :
    (found.any fun r => other.any fun m => r.before m) = true ↔ Sooner u w := by
  have hx := instant_of_parseMoment hu
  have hy := instant_of_parseMoment hw
  cases found with
  | none => simpa using not_sooner_of_none (w := w) (Or.inl hx)
  | some r =>
    cases other with
    | none => simpa using not_sooner_of_none (u := u) (Or.inr hy)
    | some m =>
      rw [Option.map_some] at hx hy
      rw [Option.any_some, Option.any_some, Moment.before, decide_eq_true_iff, sooner_iff hx hy]

theorem any_any_comm {α β : Type} (test : α → β → Bool) (x : Option α) (y : Option β) :
    (x.any fun a => y.any fun b => test a b) = y.any fun b => x.any fun a => test a b := by
  cases x <;> cases y <;> rfl

/-- The two rules as the library has them. -/
def afterRule : StandardRule := { name := "after", check := after }

def beforeRule : StandardRule := { name := "before", check := before }

theorem afterRule_mem : afterRule ∈ standardRules := by
  simp [standardRules, afterRule]

theorem beforeRule_mem : beforeRule ∈ standardRules := by
  simp [standardRules, beforeRule]

theorem decides_after (hne : p ≠ "") (hfield : c.values.find? p = some u)
    (hu : parseMoment u = .ok found) (hw : parseMoment w = .ok other) :
    Decides "after" w [.text p] c (Sooner u w) := by
  have hanswer : standardAnswer? "after" w [.text p] c = some ((after w [.text p] c).map .bool) :=
    standardAnswer?_of_mem afterRule_mem w [.text p] c
  rw [after, compared_field _ _ hne hfield hu hw] at hanswer
  exact decides_of_answer hanswer (sooner_iff_any hu hw)

theorem decides_before (hne : p ≠ "") (hfield : c.values.find? p = some u)
    (hu : parseMoment u = .ok found) (hw : parseMoment w = .ok other) :
    Decides "before" w [.text p] c (Sooner w u) := by
  have hanswer : standardAnswer? "before" w [.text p] c = some ((before w [.text p] c).map .bool) :=
    standardAnswer?_of_mem beforeRule_mem w [.text p] c
  rw [before, compared_field _ _ hne hfield hu hw] at hanswer
  rw [any_any_comm] at hanswer
  exact decides_of_answer hanswer (sooner_iff_any hw hu)

theorem readable_of_after {args : List Value} (h : Passes "after" w args c) :
    ∃ found, parseMoment w = .ok found := by
  have hanswer : standardAnswer? "after" w args c =
      some ((after w (afterRule.entry.fillArgs args) c).map .bool) :=
    standardAnswer?_of_mem afterRule_mem w args c
  rw [Passes, hanswer, after, compared] at h
  cases hw : parseMoment w with
  | ok found => exact ⟨found, rfl⟩
  | error crash =>
    rw [hw] at h
    cases hreference : reference "after" (afterRule.entry.fillArgs args) c with
    | error crash' => simp [hreference, Except.map] at h
    | ok found => simp [hreference, Except.map] at h

end Rules

/-! ## Fields -/

section Fields

variable {form : Form} {values : Values} {f : Field}

/-- A specification of one standard rule lets pass what the rule lets pass. -/
theorem evaluate_lone {b : StandardRule} (hb : b ∈ standardRules) {r : Registry} {spec : Spec}
    {rule : Rule Value} {v : Value} {c : Context} {answer : Bool} (hrules : spec.rules = [rule])
    (hlookup : r.lookup rule.name = some b.entry) (hv : v.isEmpty = false)
    (h : standardAnswer? b.name v rule.args (c.about v) = some (.ok (.bool answer))) :
    ∃ result, (evaluate r spec v c).result = .ok result ∧ result.passed = answer := by
  have hres : r.resolve spec.rules = .ok [(rule, b.entry)] := by
    rw [hrules, resolve_eq_ok_iff]
    simp [hlookup]
  have hmix : (hasPolicy .bypass [(rule, b.entry)] && hasPolicy .run [(rule, b.entry)]) = false := by
    unfold hasPolicy
    cases hpolicy : b.entry.policy <;> simp [hpolicy]
  have hgo : ¬(Vacant v ∧ hasPolicy .run [(rule, b.entry)] = false) := by
    rw [← isEmpty_iff_vacant, hv]
    simp
  have hcall : (ruleCall v c (rule, b.entry)).result = .ok (.bool answer) := by
    rw [standardAnswer?_of_mem hb] at h
    exact Option.some.inj h
  have hrefuses : refuses v c (rule, b.entry) = !answer := by
    rw [refuses, hcall]
    rfl
  rw [evaluate_result hres hmix hgo, List.find?_cons, hrefuses]
  cases answer with
  | true => exact ⟨_, rfl, rfl⟩
  | false =>
    simp only [Bool.not_false, refusal, hcall]
    exact ⟨_, rfl, rfl⟩

/-- The result of a field is among those of the form. -/
theorem result_mem_of_validate {results : Results} {result : Result} (hf : f ∈ form.fields)
    (hplaces : form.config.maxConcurrency ≠ some 0)
    (hvalidate : (form.validate values).result = .ok results)
    (halone : (form.evaluateField f values).result = .ok result) :
    (f.name, some result) ∈ results := by
  obtain ⟨⟨name, found⟩, hmem, hreturned⟩ := exists_of_forall₂ (returned_of_validate hvalidate) hf
  obtain ⟨other, rfl⟩ := Option.isSome_iff_exists.mp (hreturned.there hplaces)
  obtain rfl : other = result := by
    rw [hreturned.alone rfl] at halone
    exact Except.ok.inj halone
  obtain rfl : name = f.name := hreturned.name
  exact hmem

end Fields

/-- A form that declares at both ends that the field `p` lies before the field `q`. -/
structure Form.DeclaresRange (form : Form) (p q : String) (first second : Field) : Prop where
  first_mem : first ∈ form.fields
  first_name : first.name = p
  first_rule : ∃ rule, first.spec.rules = [rule] ∧ rule.name = "before" ∧ rule.args = [.text q]
  second_mem : second ∈ form.fields
  second_name : second.name = q
  second_rule : ∃ rule, second.spec.rules = [rule] ∧ rule.name = "after" ∧ rule.args = [.text p]
  /-- The names mean the rules of the library. -/
  before : form.registry.lookup "before" = some Rules.beforeRule.entry
  after : form.registry.lookup "after" = some Rules.afterRule.entry

namespace Rules

/-- The laws of two fields, `p` with the value `u` and `q` with the value `w`.  What else a context
holds makes no difference. -/
structure DateRange (values : Values) (p q : String) (u w : Value) : Prop where
  /-- Both rules compare the instants. -/
  second : ∀ c : Context, c.values = values → Decides "after" w [.text p] c (Sooner u w)
  first : ∀ c : Context, c.values = values → Decides "before" u [.text q] c (Sooner u w)
  /-- The range can be declared at either end. -/
  either_end : ∀ c d : Context, c.values = values → d.values = values →
    (Passes "after" w [.text p] c ↔ Passes "before" u [.text q] d)
  /-- Both fail if there is no moment in one of the values. -/
  unreadable : parseMoment u = .ok none ∨ parseMoment w = .ok none →
    ∀ c : Context, c.values = values →
      Fails "after" w [.text p] c ∧ Fails "before" w [.text p] c ∧ Fails "before" u [.text q] c
  /-- No value lies on both sides of another. -/
  exclusive : ∀ c d : Context, c.values = values → d.values = values →
    ¬(Passes "after" w [.text p] c ∧ Passes "before" w [.text p] d)
  /-- Only the same instant lies on neither side. -/
  neither : ∀ m n, parseMoment u = .ok (some m) → parseMoment w = .ok (some n) →
    instantOf? u = some m.instant ∧ instantOf? w = some n.instant ∧
      (u.OnCalendar → w.OnCalendar → (m.instant = n.instant ↔ m = n)) ∧
      ∀ c d : Context, c.values = values → d.values = values →
        (Fails "after" w [.text p] c ∧ Fails "before" w [.text p] d ↔ m.instant = n.instant)
  /-- A third value that is later than the second one is later than the first. -/
  trans : ∀ (t : Value) (c d e : Context), c.values = values → d.values = values →
    e.values = values → Passes "after" w [.text p] c → Passes "after" t [.text q] d →
      Passes "after" t [.text p] e
  /-- In a form both fields pass or both fail. -/
  declared : ∀ (form : Form) (first second : Field), form.DeclaresRange p q first second →
    u.isEmpty = false → w.isEmpty = false →
    ∃ a b : Result, (form.evaluateField first values).result = .ok a ∧
      (form.evaluateField second values).result = .ok b ∧
      a.passed = b.passed ∧ (a.passed = true ↔ Sooner u w) ∧
      ∀ results, (form.validate values).result = .ok results →
        form.config.maxConcurrency ≠ some 0 → (p, some a) ∈ results ∧ (q, some b) ∈ results

section Range

variable {values : Values} {p q : String} {u w : Value}

theorem evaluateField_lone {b : StandardRule} (hb : b ∈ standardRules) {form : Form} {f : Field}
    {rule : Rule Value} {v : Value} {holds : Prop} (hrules : f.spec.rules = [rule])
    (hlookup : form.registry.lookup rule.name = some b.entry) (hvalue : values.find? f.name = some v)
    (hv : v.isEmpty = false)
    (h : Decides b.name v rule.args ((form.contextOf f values).about v) holds) :
    ∃ result, (form.evaluateField f values).result = .ok result ∧ (result.passed = true ↔ holds) := by
  have hown : (form.contextOf f values).value = v := by
    show (values.find? f.name).getD .absent = v
    rw [hvalue, Option.getD_some]
  rw [Form.evaluateField, hown]
  by_cases hholds : holds
  · obtain ⟨result, hresult, hpassed⟩ := evaluate_lone hb hrules hlookup hv (h.passes.mpr hholds)
    exact ⟨result, hresult, by simp [hpassed, hholds]⟩
  · obtain ⟨result, hresult, hpassed⟩ := evaluate_lone hb hrules hlookup hv (h.fails.mpr hholds)
    exact ⟨result, hresult, by simp [hpassed, hholds]⟩

/-- **A range of dates may be declared at either end**, for any two fields that are there and that the
reader of moments does not crash on. -/
theorem range_at_either_end (hp : p ≠ "") (hq : q ≠ "") (hfirst : values.find? p = some u)
    (hsecond : values.find? q = some w) (hu : ∃ found, parseMoment u = .ok found)
    (hw : ∃ found, parseMoment w = .ok found) : DateRange values p q u w := by
  obtain ⟨found, hu⟩ := hu
  obtain ⟨other, hw⟩ := hw
  have hafter : ∀ c : Context, c.values = values → Decides "after" w [.text p] c (Sooner u w) :=
    fun c hc => decides_after hp (hc ▸ hfirst) hu hw
  have hbefore : ∀ c : Context, c.values = values → Decides "before" w [.text p] c (Sooner w u) :=
    fun c hc => decides_before hp (hc ▸ hfirst) hu hw
  have hbefore' : ∀ c : Context, c.values = values → Decides "before" u [.text q] c (Sooner u w) :=
    fun c hc => decides_before hq (hc ▸ hsecond) hw hu
  refine ⟨hafter, hbefore', ?_, ?_, ?_, ?_, ?_, ?_⟩
  · intro c d hc hd
    rw [(hafter c hc).passes, (hbefore' d hd).passes]
  · intro hnone c hc
    have hinstant : instantOf? u = none ∨ instantOf? w = none := by
      rcases hnone with h | h
      · exact Or.inl (instant_of_parseMoment h)
      · exact Or.inr (instant_of_parseMoment h)
    rw [(hafter c hc).fails, (hbefore c hc).fails, (hbefore' c hc).fails]
    exact ⟨not_sooner_of_none hinstant, not_sooner_of_none hinstant.symm,
      not_sooner_of_none hinstant⟩
  · rintro c d hc hd ⟨hlater, hearlier⟩
    exact ((hafter c hc).passes.mp hlater).asymm ((hbefore d hd).passes.mp hearlier)
  · intro m n hm hn
    have hx := instant_of_parseMoment hm
    have hy := instant_of_parseMoment hn
    rw [Option.map_some] at hx hy
    refine ⟨hx, hy, fun hu hw => same_moment_iff hu hw hm hn, fun c d hc hd => ?_⟩
    rw [(hafter c hc).fails, (hbefore d hd).fails, sooner_iff hx hy, sooner_iff hy hx]
    omega
  · intro t c d e hc hd he hfirst' hthird
    obtain ⟨last, ht⟩ := readable_of_after hthird
    rw [(hafter c hc).passes] at hfirst'
    rw [(decides_after hq (hd ▸ hsecond) hw ht).passes] at hthird
    rw [(decides_after hp (he ▸ hfirst) hu ht).passes]
    exact hfirst'.trans hthird
  · intro form first second h hue hwe
    obtain ⟨early, hearly, hname, hargs⟩ := h.first_rule
    obtain ⟨late, hlate, hname', hargs'⟩ := h.second_rule
    obtain ⟨a, ha, hapassed⟩ := evaluateField_lone beforeRule_mem hearly (hname ▸ h.before)
      (h.first_name ▸ hfirst) hue (hargs ▸ hbefore' _ rfl)
    obtain ⟨b, hb, hbpassed⟩ := evaluateField_lone afterRule_mem hlate (hname' ▸ h.after)
      (h.second_name ▸ hsecond) hwe (hargs' ▸ hafter _ rfl)
    refine ⟨a, b, ha, hb, ?_, hapassed, ?_⟩
    · rw [Bool.eq_iff_iff, hapassed, hbpassed]
    · intro results hresults hplaces
      have hamem := result_mem_of_validate h.first_mem hplaces hresults ha
      have hbmem := result_mem_of_validate h.second_mem hplaces hresults hb
      rw [h.first_name] at hamem
      rw [h.second_name] at hbmem
      exact ⟨hamem, hbmem⟩

/-- The last half hour of February, by a clock that is one hour behind. -/
def nightStamp : Stamp := ⟨⟨⟨2024, 2, 29⟩, 23, 30, 0, 0⟩, some (-3600)⟩

/-- Two fields, of which the first is named like a day. -/
def rangeValues : Values :=
  [("2024-06-01", .text nightStamp.isoText), ("end", .date ⟨2024, 3, 2⟩)]

/-- The text of a moment and a day. -/
theorem range_at_either_end_mixed :
    ("2024-06-01" : String) ≠ "" ∧ ("end" : String) ≠ "" ∧
      rangeValues.find? "2024-06-01" = some (.text nightStamp.isoText) ∧
      rangeValues.find? "end" = some (.date ⟨2024, 3, 2⟩) ∧
      (∃ found, parseMoment (.text nightStamp.isoText) = .ok found) ∧
      (∃ found, parseMoment (.date ⟨2024, 3, 2⟩) = .ok found) ∧
      DateRange rangeValues "2024-06-01" "end" (.text nightStamp.isoText) (.date ⟨2024, 3, 2⟩) := by
  have hregular : nightStamp.Regular :=
    ⟨by decide, by decide, by decide, by decide, by decide, by decide⟩
  have hfirst : rangeValues.find? "2024-06-01" = some (.text nightStamp.isoText) := rfl
  have hsecond : rangeValues.find? "end" = some (.date ⟨2024, 3, 2⟩) := rfl
  have hu : ∃ found, parseMoment (.text nightStamp.isoText) = .ok found := by
    rw [parseMoment_stampText hregular]
    exact ⟨_, rfl⟩
  have hw : ∃ found, parseMoment (.date ⟨2024, 3, 2⟩) = .ok found := ⟨_, rfl⟩
  exact ⟨by decide, by decide, hfirst, hsecond, hu, hw,
    range_at_either_end (by decide) (by decide) hfirst hsecond hu hw⟩

end Range

end Rules

end FieldCheck
