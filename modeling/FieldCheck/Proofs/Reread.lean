import FieldCheck.Proofs.Forms
import FieldCheck.Proofs.Segment
import Mathlib.Data.List.Forall2

/-!
# Specifications, written and read again

A structured specification that has a text is read again from it.  Names, flags and arguments come
back exactly if no text among the arguments could end early as a regular expression.

* `TextForm`, `SameRule` — what an argument and a rule should look like when they were read again.
* `Spec.KeepsWhole` — no text among the arguments closes early.
* `write_ok_iff`, `ofText_written` — writing and reading, rule by rule.
* `Rule.Parsed`, `ofElements_parsed` — what is known of the rules of a structured specification.
* `structured_readsBack_iff` — the two together, and what follows for specifications of texts.
-/

set_option autoImplicit false

namespace FieldCheck

open Text

/-! ## What should come back -/

/-- The text form of an argument. -/
inductive TextForm : Value → String → Prop
  | text (s : String) : TextForm (.text s) s
  | bool (b : Bool) : TextForm (.bool b) (if b then "true" else "false")
  | int (n : Int) : TextForm (.int n) (Value.int n).literalText
  | float (x : Double) : TextForm (.float x) (Value.float x).literalText
  | date (d : Date) : TextForm (.date d) d.isoText
  | stamp (s : Stamp) : TextForm (.stamp s) s.isoText

/-- Whether an argument that was read again is the text form of the one that was written. -/
def SameArgument (arg back : Value) : Prop := ∃ s, TextForm arg s ∧ back = .text s

/-- A rule that was read again: name and flag as they were, arguments one for one in text form. -/
structure SameRule (rule back : Rule Value) : Prop where
  name : back.name = rule.name
  bail : back.bail = rule.bail
  args : List.Forall₂ SameArgument rule.args back.args

/-- No text among arguments could end early as a regular expression. -/
def KeepWhole (args : List Value) : Prop :=
  ∀ s, Value.text s ∈ args → ¬ClosesEarly s.toList

/-- The same of all rules of a specification. -/
def Spec.KeepsWhole (spec : Spec) : Prop := ∀ r ∈ spec.rules, KeepWhole r.args

/-! ## Arguments -/

section Arguments

variable {v : Value} {t : List Char} {args : List Value} {ts : List (List Char)}

theorem textForm_of_form (h : v.argumentForm? = some t) : TextForm v (String.ofList t) := by
  cases v with
  | bool b =>
    simp only [Value.argumentForm?, Option.some.injEq] at h
    subst h
    have hform := TextForm.bool b
    cases b with
    | false => simpa using hform
    | true => simpa using hform
  | int n =>
    simp only [Value.argumentForm?, Option.some.injEq] at h
    subst h
    exact TextForm.int n
  | float x =>
    simp only [Value.argumentForm?, Option.some.injEq] at h
    subst h
    exact TextForm.float x
  | stamp s =>
    simp only [Value.argumentForm?, Option.some.injEq] at h
    subst h
    rw [String.ofList_toList]
    exact TextForm.stamp s
  | date d =>
    simp only [Value.argumentForm?, Option.some.injEq] at h
    subst h
    rw [String.ofList_toList]
    exact TextForm.date d
  | text s =>
    rcases argumentForm?_cases h with ⟨heq, -⟩ | ⟨hkind, -⟩
    · rw [heq]
      exact TextForm.text _
    · exact absurd rfl (hkind s)
  | _ => simp [Value.argumentForm?] at h

/-- An argument has one text form. -/
theorem TextForm.unique {s s' : String} (h : TextForm v s) (h' : TextForm v s') : s = s' := by
  cases h <;> cases h' <;> rfl

/-- Only the written form of a text can close early. -/
theorem keepWhole_iff (h : List.Forall₂ (fun a t => Value.argumentForm? a = some t) args ts) :
    KeepWhole args ↔ ∀ t ∈ ts, ¬ClosesEarly t := by
  induction h with
  | nil => simp [KeepWhole]
  | @cons a t args ts ha _ ih =>
    rw [List.forall_mem_cons, ← ih]
    have hhead : (∀ s, a = .text s → ¬ClosesEarly s.toList) ↔ ¬ClosesEarly t := by
      rcases argumentForm?_cases ha with ⟨rfl, -⟩ | ⟨hkind, -, hsolid⟩
      · constructor
        · intro hs
          simpa using hs _ rfl
        · rintro ht s hs
          cases hs
          simpa using ht
      · refine ⟨fun _ => not_closesEarly_plain ?_, fun _ s hs => absurd hs (hkind s)⟩
        rw [List.any_eq_false]
        intro c hc
        have := List.all_eq_true.mp hsolid c hc
        simp only [isSolid, Bool.and_eq_true, Bool.not_eq_true'] at this
        simp [this.1.2]
    rw [← hhead]
    constructor
    · intro h
      exact ⟨fun s hs => h s (by rw [hs]; exact List.mem_cons_self),
        fun s hs => h s (List.mem_cons_of_mem _ hs)⟩
    · rintro ⟨hfirst, hrest⟩ s hs
      rcases List.mem_cons.mp hs with rfl | hs
      · exact hfirst s rfl
      · exact hrest s hs

/-- Texts that are the text forms of arguments are their written forms. -/
theorem sameArguments_iff (h : List.Forall₂ (fun a t => Value.argumentForm? a = some t) args ts)
    (us : List (List Char)) :
    List.Forall₂ SameArgument args (us.map fun u => .text (String.ofList u)) ↔ us = ts := by
  induction h generalizing us with
  | nil => simp
  | @cons a t args ts ha _ ih =>
    have hform := textForm_of_form ha
    cases us with
    | nil => simp
    | cons u us =>
      rw [List.map_cons, List.forall₂_cons, ih, List.cons.injEq]
      refine and_congr_left fun _ => ?_
      constructor
      · rintro ⟨s, hs, heq⟩
        cases heq
        exact String.ofList_injective (hs.unique hform)
      · rintro rfl
        exact ⟨_, hform, rfl⟩

end Arguments

/-! ## Writing -/

/-- A traversal succeeds exactly if each of its steps does. -/
theorem mapM_ok_iff {ε α β : Type} {f : α → Except ε β} {xs : List α} {ys : List β} :
    xs.mapM f = .ok ys ↔ List.Forall₂ (fun x y => f x = .ok y) xs ys := by
  induction xs generalizing ys with
  | nil => simp [pure, Except.pure, eq_comm]
  | cons x xs ih =>
    rw [List.mapM_cons, List.forall₂_cons_left_iff]
    simp only [← ih]
    cases hx : f x with
    | error e => simp [bind, Except.bind]
    | ok y =>
      cases hxs : xs.mapM f with
      | error e => simp [bind, Except.bind]
      | ok more => simp [bind, Except.bind, pure, Except.pure, eq_comm]

theorem exists_of_forall₂ {α β : Type} {R : α → β → Prop} {xs : List α} {ys : List β}
    (h : List.Forall₂ R xs ys) {x : α} (hx : x ∈ xs) : ∃ y ∈ ys, R x y := by
  induction h with
  | nil => cases hx
  | cons hfirst _ ih =>
    rcases List.mem_cons.mp hx with rfl | hx
    · exact ⟨_, List.mem_cons_self, hfirst⟩
    · obtain ⟨y, hy, hxy⟩ := ih hx
      exact ⟨y, List.mem_cons_of_mem _ hy, hxy⟩

theorem map_ok_iff {ε α β : Type} {f : α → β} {x : Except ε α} {b : β} :
    x.map f = .ok b ↔ ∃ a, x = .ok a ∧ f a = b := by
  cases x with
  | error e => simp [Except.map]
  | ok a => simp [Except.map]

theorem writeArgument_ok_iff {name : String} {arg : Value} {t : List Char} :
    Spec.writeArgument name arg = .ok t ↔ arg.argumentForm? = some t := by
  unfold Spec.writeArgument
  cases arg.argumentForm? with
  | none => simp
  | some s => simp

theorem writeRule_ok_iff {r : Rule Value} {f : List Char} :
    Spec.writeRule r = .ok f ↔
      ∃ ts, List.Forall₂ (fun a t => Value.argumentForm? a = some t) r.args ts ∧
        ruleForm r.name r.bail ts = f := by
  rw [Spec.writeRule, map_ok_iff]
  simp only [mapM_ok_iff, writeArgument_ok_iff]

theorem write_ok_iff {spec : Spec} {text : String} :
    spec.write = .ok text ↔
      ∃ fs, List.Forall₂ (fun r f => Spec.writeRule r = .ok f) spec.rules fs ∧
        String.ofList (['|'].intercalate fs) = text := by
  rw [Spec.write, map_ok_iff]
  simp only [mapM_ok_iff]

/-- The arguments of a written rule are written as arguments may be. -/
theorem forms_plain {args : List Value} {ts : List (List Char)}
    (h : List.Forall₂ (fun a t => Value.argumentForm? a = some t) args ts) :
    ∀ t ∈ ts, isPlainArgument t = true := by
  induction h with
  | nil => simp
  | cons ha _ ih => exact List.forall_mem_cons.mpr ⟨isPlainArgument_of_form ha, ih⟩

/-! ## Reading -/

theorem readSegments_ok_iff (source : String) (index : Nat) {segments : List (List Char)}
    {rs : List (Rule Value)} :
    readSegments source index segments = .ok rs ↔
      List.Forall₂ (fun s r => Rule.read s = .ok r) segments rs := by
  induction segments generalizing index rs with
  | nil => simp [readSegments, eq_comm]
  | cons s segments ih =>
    rw [readSegments, List.forall₂_cons_left_iff]
    simp only [← ih (index + 1)]
    cases hs : Rule.read s with
    | error e => simp
    | ok r =>
      cases hrest : readSegments source (index + 1) segments with
      | error e => simp
      | ok more => simp [eq_comm]

/-- Joined texts are read one by one. -/
theorem ofText_written {fs : List (List Char)} (htrim : ∀ f ∈ fs, Trimmed f)
    (hbar : ∀ f ∈ fs, '|' ∉ f) {text : String}
    (htext : String.ofList (['|'].intercalate fs) = text) {back : Spec} :
    Spec.ofText text = .ok back ↔
      List.Forall₂ (fun f r => Rule.read f = .ok r) fs back.rules ∧ back.source = some text := by
  have hlist : text.toList = ['|'].intercalate fs := by rw [← htext, String.toList_ofList]
  rw [← readSegments_ok_iff text 0]
  cases fs with
  | nil =>
    rw [Spec.ofText, hlist]
    cases back
    simp [trim, trimLeft, trimRight, readSegments, eq_comm]
  | cons f fs =>
    have hjoined : Trimmed (['|'].intercalate (f :: fs)) :=
      Trimmed.intercalate (List.cons_ne_nil f fs) htrim
    rw [Spec.ofText, hlist]
    simp only [hjoined.trim_eq, pieces_intercalate_of_not_mem (List.cons_ne_nil f fs) hbar]
    rw [if_neg (by simpa using hjoined.ne_nil), map_ok_iff]
    constructor
    · rintro ⟨rules, hrules, rfl⟩
      exact ⟨hrules, rfl⟩
    · rintro ⟨hrules, hsource⟩
      refine ⟨back.rules, hrules, ?_⟩
      cases back
      cases hsource
      rfl

/-! ## Both -/

/-- A written rule comes back exactly if its texts are kept whole. -/
theorem read_written_iff {r : Rule Value} {f : List Char} (hname : isName r.name.toList = true)
    (hwrite : Spec.writeRule r = .ok f) :
    (∃ back, Rule.read f = .ok back ∧ SameRule r back) ↔ KeepWhole r.args := by
  obtain ⟨ts, hts, rfl⟩ := writeRule_ok_iff.mp hwrite
  rw [keepWhole_iff hts, ← splitArguments_intercalate_iff (forms_plain hts),
    Rule.read_ruleForm hname (forms_plain hts)]
  cases splitArguments ([','].intercalate ts) with
  | none =>
    constructor
    · rintro ⟨back, hback, -⟩
      cases hback
    · intro h
      cases h
  | some us =>
    rw [Option.some.injEq, ← sameArguments_iff hts us]
    constructor
    · rintro ⟨back, hback, hsame⟩
      cases hback
      exact hsame.args
    · intro hargs
      exact ⟨_, rfl, ⟨rfl, rfl, hargs⟩⟩

section Rules

variable {rules : List (Rule Value)} {fs : List (List Char)}

/-- Written rules can be told apart where they are joined. -/
theorem written_shape (hnames : ∀ r ∈ rules, isName r.name.toList = true)
    (hwrite : List.Forall₂ (fun r f => Spec.writeRule r = .ok f) rules fs) :
    ∀ f ∈ fs, Trimmed f ∧ '|' ∉ f := by
  induction hwrite with
  | nil => simp
  | @cons r f rules fs hr _ ih =>
    obtain ⟨hname, hnames⟩ := List.forall_mem_cons.mp hnames
    obtain ⟨ts, hts, rfl⟩ := writeRule_ok_iff.mp hr
    refine List.forall_mem_cons.mpr ⟨⟨?_, ?_⟩, ih hnames⟩
    · exact trimmed_ruleForm hname (forms_plain hts)
    · exact bar_not_mem_ruleForm hname (forms_plain hts)

/-- Written rules come back one by one exactly if the texts of all of them are kept whole. -/
theorem read_all_iff (hnames : ∀ r ∈ rules, isName r.name.toList = true)
    (hwrite : List.Forall₂ (fun r f => Spec.writeRule r = .ok f) rules fs) :
    (∃ backs, List.Forall₂ (fun f r => Rule.read f = .ok r) fs backs ∧
        List.Forall₂ SameRule rules backs) ↔
      ∀ r ∈ rules, KeepWhole r.args := by
  induction hwrite with
  | nil => simp
  | @cons r f rules fs hr _ ih =>
    obtain ⟨hname, hnames⟩ := List.forall_mem_cons.mp hnames
    rw [List.forall_mem_cons, ← ih hnames, ← read_written_iff hname hr]
    constructor
    · rintro ⟨backs, hread, hsame⟩
      obtain ⟨back, backs, hback, hbacks, rfl⟩ := List.forall₂_cons_left_iff.mp hread
      obtain ⟨hfirst, hrest⟩ := List.forall₂_cons.mp hsame
      exact ⟨⟨back, hback, hfirst⟩, ⟨backs, hbacks, hrest⟩⟩
    · rintro ⟨⟨back, hback, hfirst⟩, ⟨backs, hbacks, hrest⟩⟩
      exact ⟨back :: backs, .cons hback hbacks, .cons hfirst hrest⟩

end Rules

section Spec

variable {spec other : Spec} {text : String}

/-- A written specification comes back exactly if its texts are kept whole. -/
theorem ofText_written_iff (hnames : ∀ r ∈ spec.rules, isName r.name.toList = true)
    (hwrite : spec.write = .ok text) :
    (∃ back, Spec.ofText text = .ok back ∧ List.Forall₂ SameRule spec.rules back.rules) ↔
      spec.KeepsWhole := by
  obtain ⟨fs, hfs, htext⟩ := write_ok_iff.mp hwrite
  have hshape := written_shape hnames hfs
  rw [Spec.KeepsWhole, ← read_all_iff hnames hfs]
  simp only [ofText_written (fun f hf => (hshape f hf).1) (fun f hf => (hshape f hf).2) htext]
  constructor
  · rintro ⟨back, ⟨hread, -⟩, hsame⟩
    exact ⟨back.rules, hread, hsame⟩
  · rintro ⟨backs, hread, hsame⟩
    exact ⟨⟨backs, some text⟩, ⟨hread, rfl⟩, hsame⟩

end Spec

/-! ## Structured specifications -/

/-- A rule with a proper name that is marked exactly if one of its arguments is a regular
expression. -/
structure Rule.Parsed (r : Rule Value) : Prop where
  name : isName r.name.toList = true
  isRegex : r.isRegex = r.args.any Value.isRegex

/-- A rule given as a name and arguments in a row. -/
def Value.isRow : Value → Bool
  | .list _ | .tuple _ => true
  | _ => false

theorem ofParts_parsed {index : Nat} {element : Value} {parts : List Value} {r : Rule Value}
    (h : Rule.ofParts index element parts = .ok r) : r.Parsed := by
  unfold Rule.ofParts at h
  split at h
  · cases h
  · dsimp only at h
    split at h
    · cases h
    · rename_i hname
      cases h
      exact ⟨by simpa using requireName_ok_iff.mp hname, rfl⟩
  · cases h

theorem readElements_parsed {index : Nat} {items : List Value} {rules : List (Rule Value)}
    (hitems : ∀ v ∈ items, v.isRow = true) (h : readElements index items = .ok rules) :
    ∀ r ∈ rules, r.Parsed := by
  induction items generalizing index rules with
  | nil =>
    cases h
    simp
  | cons v items ih =>
    obtain ⟨hv, hitems⟩ := List.forall_mem_cons.mp hitems
    rw [readElements] at h
    split at h
    · cases h
    · rename_i r hr
      have hparsed : r.Parsed := by
        cases v with
        | list parts => exact ofParts_parsed hr
        | tuple parts => exact ofParts_parsed hr
        | _ => cases hv
      split at h
      · cases h
      · rename_i more hmore
        cases h
        exact List.forall_mem_cons.mpr ⟨hparsed, ih hitems hmore⟩

/-- The rules of a structured specification have proper names and the right marks. -/
theorem ofElements_parsed {items : List Value} {spec : Spec}
    (hitems : ∀ v ∈ items, v.isRow = true) (h : Spec.ofElements items = .ok spec) :
    (∀ r ∈ spec.rules, r.Parsed) ∧ spec.source = none := by
  obtain ⟨rules, hrules, rfl⟩ := map_ok_iff.mp h
  exact ⟨readElements_parsed hitems hrules, rfl⟩

/-! ## Different specifications -/

/-- All arguments of a specification are texts. -/
def Spec.OnlyTexts (spec : Spec) : Prop := ∀ r ∈ spec.rules, ∀ a ∈ r.args, ∃ s, a = .text s

/-- Texts come back as they were. -/
theorem texts_unchanged {args backs : List Value} (htexts : ∀ a ∈ args, ∃ s, a = .text s)
    (h : List.Forall₂ SameArgument args backs) : backs = args := by
  induction h with
  | nil => rfl
  | @cons a back args backs ha _ ih =>
    obtain ⟨⟨s, rfl⟩, hrest⟩ := List.forall_mem_cons.mp htexts
    obtain ⟨s', hform, rfl⟩ := ha
    rw [hform.unique (TextForm.text s), ih hrest]

/-- Rules with nothing but texts are known once they were read again. -/
theorem rules_eq_of_same {rules rules' backs : List (Rule Value)}
    (hparsed : ∀ r ∈ rules, r.Parsed) (hparsed' : ∀ r ∈ rules', r.Parsed)
    (htexts : ∀ r ∈ rules, ∀ a ∈ r.args, ∃ s, a = .text s)
    (htexts' : ∀ r ∈ rules', ∀ a ∈ r.args, ∃ s, a = .text s)
    (h : List.Forall₂ SameRule rules backs) (h' : List.Forall₂ SameRule rules' backs) :
    rules = rules' := by
  induction h generalizing rules' with
  | nil => exact (List.forall₂_nil_right_iff.mp h').symm
  | @cons r back rules backs hr _ ih =>
    obtain ⟨r', rules', hr', hrules', rfl⟩ := List.forall₂_cons_right_iff.mp h'
    obtain ⟨hp, hparsed⟩ := List.forall_mem_cons.mp hparsed
    obtain ⟨hp', hparsed'⟩ := List.forall_mem_cons.mp hparsed'
    obtain ⟨ht, htexts⟩ := List.forall_mem_cons.mp htexts
    obtain ⟨ht', htexts'⟩ := List.forall_mem_cons.mp htexts'
    have hargs : r.args = r'.args :=
      (texts_unchanged ht hr.args).symm.trans (texts_unchanged ht' hr'.args)
    have hregex : r.isRegex = r'.isRegex := by rw [hp.isRegex, hp'.isRegex, hargs]
    have hrule : r = r' := by
      cases r
      cases r'
      simp only [Rule.mk.injEq]
      exact ⟨hr.name.symm.trans hr'.name, hargs, hregex, hr.bail.symm.trans hr'.bail⟩
    rw [hrule, ih hparsed hparsed' htexts htexts' hrules']

/-- **A structured specification that has a text comes back from it exactly if its texts are kept
whole.**  Two such specifications with nothing but texts have different texts unless they are the
same. -/
theorem structured_readsBack_iff {items : List Value} {spec : Spec} {text : String}
    (hitems : ∀ v ∈ items, v.isRow = true) (hspec : Spec.ofElements items = .ok spec)
    (hwrite : spec.write = .ok text) :
    ((∃ back, Spec.ofValue (.text text) = .ok back ∧ List.Forall₂ SameRule spec.rules back.rules) ↔
      spec.KeepsWhole) ∧
    ∀ items' other, (∀ v ∈ items', v.isRow = true) → Spec.ofElements items' = .ok other →
      other.write = .ok text → spec.OnlyTexts → other.OnlyTexts →
      spec.KeepsWhole → other.KeepsWhole → spec = other := by
  obtain ⟨hparsed, hsource⟩ := ofElements_parsed hitems hspec
  have hback := ofText_written_iff (fun r hr => (hparsed r hr).name) hwrite
  refine ⟨hback, ?_⟩
  intro items' other hitems' hother hwrite' htexts htexts' hwhole hwhole'
  obtain ⟨hparsed', hsource'⟩ := ofElements_parsed hitems' hother
  obtain ⟨back, hread, hsame⟩ := hback.mpr hwhole
  obtain ⟨back', hread', hsame'⟩ :=
    (ofText_written_iff (fun r hr => (hparsed' r hr).name) hwrite').mpr hwhole'
  rw [hread] at hread'
  cases hread'
  have hrules := rules_eq_of_same hparsed hparsed' htexts htexts' hsame hsame'
  cases spec
  cases other
  simp only [Spec.mk.injEq]
  exact ⟨hrules, hsource.trans hsource'.symm⟩

/-- Two rows, with a flag, a number and a comma between slashes, and their rules. -/
def slashedRows : List Value :=
  [.tuple [.text "^min", .int 3], .list [.text "matches", .text "/a,b/"]]

def slashedSpec : Spec where
  rules :=
    [{ name := "min", args := [.int 3], bail := true },
      { name := "matches", args := [.text "/a,b/"], isRegex := true }]

theorem slashedSpec_keepsWhole : slashedSpec.KeepsWhole := by
  intro r hr s hs
  have hs : s = "/a,b/" := by
    simp only [slashedSpec, List.mem_cons, List.not_mem_nil, or_false] at hr
    rcases hr with rfl | rfl
    · simp at hs
    · simpa using hs
  rw [hs]
  decide

theorem structured_readsBack_slashed :
    (∀ v ∈ slashedRows, v.isRow = true) ∧ Spec.ofElements slashedRows = .ok slashedSpec ∧
      slashedSpec.write = .ok "^min:3|matches:/a,b/" ∧
      ∃ back, Spec.ofValue (.text "^min:3|matches:/a,b/") = .ok back ∧
        List.Forall₂ SameRule slashedSpec.rules back.rules := by
  have hrows : ∀ v ∈ slashedRows, v.isRow = true := by decide
  refine ⟨hrows, rfl, rfl, ?_⟩
  exact (structured_readsBack_iff hrows rfl rfl).1.mpr slashedSpec_keepsWhole

/-- One text between slashes, and the same with its comma between two arguments. -/
def joinedSpec : Spec where
  rules := [{ name := "matches", args := [.text "/a/,b/"], isRegex := true }]

def partedSpec : Spec where
  rules := [{ name := "matches", args := [.text "/a/", .text "b/"], isRegex := true }]

/-- A comma behind a slash is lost, and with it the difference between two specifications. -/
theorem joined_not_readBack :
    Spec.ofElements [.list [.text "matches", .text "/a/,b/"]] = .ok joinedSpec ∧
      Spec.ofElements [.list [.text "matches", .text "/a/", .text "b/"]] = .ok partedSpec ∧
      joinedSpec.write = .ok "matches:/a/,b/" ∧ partedSpec.write = .ok "matches:/a/,b/" ∧
      joinedSpec ≠ partedSpec ∧
      ¬∃ back, Spec.ofValue (.text "matches:/a/,b/") = .ok back ∧
        List.Forall₂ SameRule joinedSpec.rules back.rules := by
  have hnames : ∀ r ∈ joinedSpec.rules, isName r.name.toList = true := by
    intro r hr
    rw [List.mem_singleton.mp hr]
    decide
  have hwrite : joinedSpec.write = .ok "matches:/a/,b/" := rfl
  refine ⟨rfl, rfl, hwrite, rfl, ?_, ?_⟩
  · intro h
    have := congrArg (fun spec => spec.rules.map fun r => r.args.length) h
    exact absurd this (by decide)
  · intro hback
    have hwhole := (ofText_written_iff hnames hwrite).mp hback
    have hlate := hwhole _ List.mem_cons_self "/a/,b/" List.mem_cons_self
    exact hlate (by decide)

end FieldCheck
