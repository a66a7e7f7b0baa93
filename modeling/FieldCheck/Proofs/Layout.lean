import FieldCheck.Proofs.Grouping
import FieldCheck.Proofs.ParsedRules
import Mathlib.Logic.Relation

/-!
# Layout

Blanks may stand around rules, behind a leading mark, around the colon of a rule and around the commas between
its arguments.  They do not count there, and inside an argument they do.

* `Rule.read_colon_iff` — a rule with a colon is read from what stands in front of it and from its arguments.
* `RuleEdit`, `LayoutEdit` — blanks are put in the place of others, in a rule and in a text.
* `RuleEdit.read`, `LayoutEdit.ofText` — what such a change leaves as it is.
* `InnerComma` — a comma inside an argument of a text; `InnerComma.Occurs.inside`, where it may stand;
  `InnerComma.Occurs.ofText`, what blanks at it change.

Principal result: `layout_does_not_count`.
-/

set_option autoImplicit false

namespace FieldCheck

open Text

/-! ## One rule -/

section Rules

variable {head rest : List Char} {r : Rule Value}

theorem takeBail_of_ne {c : Char} (h : c ≠ '^') (s : List Char) : takeBail (c :: s) = (false, c :: s) := by
  rw [takeBail]
  rintro rest heq
  exact h (List.cons.inj heq).1

/-- The name and the mark in front of a colon, and the text of the arguments behind it. -/
theorem takeBail_colon (hcolon : ':' ∉ head) (rest : List Char) :
    ∃ name, takeBail (trim (head ++ ':' :: rest)) =
        ((takeBail (trim head)).1, name ++ ':' :: trimRight rest) ∧
      ':' ∉ name ∧ trim name = trim (takeBail (trim head)).2 := by
  have hblank : isBlank ':' = false := by decide
  have hleft : ':' ∉ trimLeft head := fun h => hcolon ((List.dropWhile_suffix _).subset h)
  have hhead : trim head = trimRight (trimLeft head) := rfl
  rw [trim_around hblank, hhead]
  cases htext : trimLeft head with
  | nil => exact ⟨[], takeBail_of_ne (by decide) _, List.not_mem_nil, rfl⟩
  | cons c name =>
    rw [htext, List.mem_cons, not_or] at hleft
    have hc : isBlank c = false := by
      have hfirst := List.head?_dropWhile_not isBlank head
      rw [← trimLeft, htext] at hfirst
      simpa using hfirst
    rw [List.cons_append, trimRight_cons hc]
    by_cases hbail : c = '^'
    · subst hbail
      refine ⟨trimLeft name, ?_, fun h => hleft.2 ((List.dropWhile_suffix _).subset h), ?_⟩
      · rw [takeBail, takeBail, trim_around hblank, trimRight_trimRight]
      · rw [takeBail, trim_trimLeft, trim_trim, trim_trimRight]
    · refine ⟨c :: name, ?_, by simpa using hleft, ?_⟩
      · rw [takeBail_of_ne hbail, takeBail_of_ne hbail, List.cons_append]
      · rw [takeBail_of_ne hbail, ← trimRight_cons hc, trim_trimRight]

/-- A rule with a colon is read from what stands in front of it and from the arguments behind it. -/
theorem Rule.read_colon_iff (hcolon : ':' ∉ head) :
    Rule.read (head ++ ':' :: rest) = .ok r ↔
      ∃ args, splitArguments rest = some args ∧ isName (trim (takeBail (trim head)).2) = true ∧
        r =
          { name := String.ofList (trim (takeBail (trim head)).2)
            args := args.map fun a => .text (String.ofList a)
            isRegex := args.any isSlashed
            bail := (takeBail (trim head)).1 } := by
  obtain ⟨name, hbail, hname, htrim⟩ := takeBail_colon hcolon rest
  simp only [Rule.read, hbail, splitColon_append hname, Option.elim_some, splitArguments_trimRight, htrim,
    ← requireName_ok_iff]
  cases splitArguments rest with
  | none => simp
  | some args =>
    cases requireName (trim (takeBail (trim head)).2) with
    | error fault => simp
    | ok checked => simp [eq_comm]

/-- Rules with colons are read alike if both sides of the colon are. -/
theorem Rule.read_colon_congr {head' rest' : List Char} (hcolon : ':' ∉ head) (hcolon' : ':' ∉ head')
    (hhead : trim head = trim head') (hrest : splitArguments rest = splitArguments rest')
    (h : Rule.read (head ++ ':' :: rest) = .ok r) : Rule.read (head' ++ ':' :: rest') = .ok r := by
  rw [Rule.read_colon_iff hcolon, hhead, hrest] at h
  exact (Rule.read_colon_iff hcolon').mpr h

theorem Rule.read_blank {s : List Char} (h : trim s = []) : Rule.read s = .error .emptyName := by
  rw [← Rule.read_trim, h]
  rfl

end Rules

/-! ## Changes of blanks -/

/-- Nothing but blanks. -/
def Blanks (w : List Char) : Prop := ∀ c ∈ w, isBlank c = true

/-- Blanks are put in the place of others, at a place of a rule where they do not count. -/
inductive RuleEdit : List Char → List Char → Prop
  | start {w w' s : List Char} (hw : Blanks w) (hw' : Blanks w') : RuleEdit (w ++ s) (w' ++ s)
  | finish {w w' s : List Char} (hw : Blanks w) (hw' : Blanks w') : RuleEdit (s ++ w) (s ++ w')
  | behindMark {w w' lead s : List Char} (hw : Blanks w) (hw' : Blanks w') (hlead : Blanks lead) :
      RuleEdit (lead ++ '^' :: (w ++ s)) (lead ++ '^' :: (w' ++ s))
  | beforeColon {w w' head s : List Char} (hw : Blanks w) (hw' : Blanks w') (hcolon : ':' ∉ head) :
      RuleEdit (head ++ w ++ ':' :: s) (head ++ w' ++ ':' :: s)
  | behindColon {w w' head s : List Char} (hw : Blanks w) (hw' : Blanks w') (hcolon : ':' ∉ head) :
      RuleEdit (head ++ ':' :: (w ++ s)) (head ++ ':' :: (w' ++ s))
  /-- The comma behind an argument that is not the last one. -/
  | beforeComma {w w' head a y : List Char} {xs ys : List (List Char)} (hw : Blanks w) (hw' : Blanks w')
      (hcolon : ':' ∉ head)
      (hargs : groups? (pieces ',' ([','].intercalate (xs ++ (a ++ w) :: y :: ys))) =
        some (xs ++ (a ++ w) :: y :: ys)) :
      RuleEdit (head ++ ':' :: [','].intercalate (xs ++ (a ++ w) :: y :: ys))
        (head ++ ':' :: [','].intercalate (xs ++ (a ++ w') :: y :: ys))
  /-- The comma in front of an argument that is not the first one. -/
  | behindComma {w w' head x a : List Char} {xs ys : List (List Char)} (hw : Blanks w) (hw' : Blanks w')
      (hcolon : ':' ∉ head)
      (hargs : groups? (pieces ',' ([','].intercalate (xs ++ x :: (w ++ a) :: ys))) =
        some (xs ++ x :: (w ++ a) :: ys)) :
      RuleEdit (head ++ ':' :: [','].intercalate (xs ++ x :: (w ++ a) :: ys))
        (head ++ ':' :: [','].intercalate (xs ++ x :: (w' ++ a) :: ys))

/-- The same in a text, in one of its rules.  A rule starts and finishes at an end of the text or at a bar. -/
def LayoutEdit (s s' : String) : Prop :=
  ∃ front segment segment' behind, pieces '|' s.toList = front ++ segment :: behind ∧
    pieces '|' s'.toList = front ++ segment' :: behind ∧ RuleEdit segment segment'

section Edits

variable {w w' segment segment' : List Char} {r : Rule Value} {s s' : String} {spec : Spec}

theorem Blanks.colon (h : Blanks w) : ':' ∉ w := fun hmem => absurd (h _ hmem) (by decide)

theorem not_mem_append_blanks {head : List Char} (h : ':' ∉ head) (hw : Blanks w) : ':' ∉ head ++ w := by
  rw [List.mem_append, not_or]
  exact ⟨h, hw.colon⟩

/-- **A rule with other blanks is read as the same rule.** -/
theorem RuleEdit.read (h : RuleEdit segment segment') (hread : Rule.read segment = .ok r) :
    Rule.read segment' = .ok r := by
  cases h with
  | start hw hw' =>
    rwa [← Rule.read_trim, trim_append_of_blank hw', ← trim_append_of_blank hw, Rule.read_trim]
  | finish hw hw' =>
    rwa [← Rule.read_trim, trim_append_blank hw', ← trim_append_blank hw, Rule.read_trim]
  | @behindMark w w' lead s hw hw' hlead =>
    have hmark {w : List Char} (hw : Blanks w) :
        takeBail (trim (lead ++ '^' :: (w ++ s))) = (true, trim s) := by
      rw [trim_append_of_blank hlead, trim_cons (by decide), takeBail, trim_trimRight,
        trim_append_of_blank hw]
    rw [Rule.read, hmark hw] at hread
    rw [Rule.read, hmark hw']
    exact hread
  | beforeColon hw hw' hcolon =>
    refine Rule.read_colon_congr (not_mem_append_blanks hcolon hw) (not_mem_append_blanks hcolon hw') ?_ rfl hread
    rw [trim_append_blank hw, trim_append_blank hw']
  | behindColon hw hw' hcolon =>
    refine Rule.read_colon_congr hcolon hcolon rfl ?_ hread
    rw [splitArguments_blank_left hw, splitArguments_blank_left hw']
  | beforeComma hw hw' hcolon hargs =>
    refine Rule.read_colon_congr hcolon hcolon rfl (splitArguments_congr (groups?_eq _ ▸ hargs) ?_).symm hread
    simp [trim_append_blank hw, trim_append_blank hw']
  | behindComma hw hw' hcolon hargs =>
    refine Rule.read_colon_congr hcolon hcolon rfl (splitArguments_congr (groups?_eq _ ▸ hargs) ?_).symm hread
    simp [trim_append_of_blank hw, trim_append_of_blank hw']

theorem RuleEdit.blank (h : RuleEdit segment segment') (hblank : trim segment = []) : trim segment' = [] := by
  have habsurd {c : Char} (hc : isBlank c = false) (hmem : c ∈ segment) : trim segment' = [] := by
    rw [trim_eq_nil_iff.mp hblank c hmem] at hc
    cases hc
  cases h with
  | start hw hw' => rwa [trim_append_of_blank hw', ← trim_append_of_blank hw]
  | finish hw hw' => rwa [trim_append_blank hw', ← trim_append_blank hw]
  | behindMark => exact habsurd (c := '^') (by decide) (by simp)
  | beforeColon => exact habsurd (c := ':') (by decide) (by simp)
  | behindColon => exact habsurd (c := ':') (by decide) (by simp)
  | beforeComma => exact habsurd (c := ':') (by decide) (by simp)
  | behindComma => exact habsurd (c := ':') (by decide) (by simp)

/-- A text is accepted if it is blank, or if each of its parts between bars is a rule. -/
theorem ofText_ok_iff : Spec.ofText s = .ok spec ↔
    spec.source = some s ∧
      if trim s.toList = [] then spec.rules = []
      else (pieces '|' s.toList).map Rule.read = spec.rules.map Except.ok := by
  obtain ⟨rules, source⟩ := spec
  unfold Spec.ofText
  dsimp only
  by_cases hblank : trim s.toList = []
  · rw [if_pos (by simp [hblank]), if_pos hblank]
    simp [eq_comm, and_comm]
  · rw [if_neg (by simpa using hblank), if_neg hblank, map_ok_iff, ← readings_trim, ← forall₂_read_iff]
    simp only [← readSegments_ok_iff s 0, Spec.mk.injEq]
    constructor
    · rintro ⟨found, hfound, rfl, rfl⟩
      exact ⟨rfl, hfound⟩
    · rintro ⟨rfl, hread⟩
      exact ⟨rules, hread, rfl, rfl⟩

/-- A blank text has one part, which is no rule. -/
theorem not_blank_of_readings {t : List Char} {rules : List (Rule Value)}
    (h : (pieces '|' t).map Rule.read = rules.map Except.ok) : trim t ≠ [] := by
  intro hblank
  have hbar : '|' ∉ t := fun hmem => absurd (trim_eq_nil_iff.mp hblank _ hmem) (by decide)
  rw [pieces_of_not_mem hbar, List.map_singleton, Rule.read_blank hblank] at h
  cases rules <;> cases h

/-- **A text with other blanks in one of its rules has the same rules.** -/
theorem LayoutEdit.ofText (h : LayoutEdit s s') (hs : Spec.ofText s = .ok spec) :
    Spec.ofText s' = .ok { spec with source := some s' } := by
  obtain ⟨front, segment, segment', behind, hpieces, hpieces', hedit⟩ := h
  have hread := (ofText_ok_iff.mp hs).2
  refine ofText_ok_iff.mpr ⟨rfl, ?_⟩
  by_cases hblank : trim s.toList = []
  · -- a blank text is one rule for the edit, and remains blank
    have hbar : '|' ∉ s.toList := fun hmem => absurd (trim_eq_nil_iff.mp hblank _ hmem) (by decide)
    rw [pieces_of_not_mem hbar, eq_comm, List.append_eq_singleton_iff] at hpieces
    obtain ⟨rfl, hsegment⟩ | ⟨-, hnone⟩ := hpieces
    · obtain ⟨rfl, rfl⟩ := List.cons.inj hsegment
      have hs' : s'.toList = segment' := by
        rw [← intercalate_pieces '|' s'.toList, hpieces', List.nil_append, List.intercalate_singleton]
      rw [if_pos hblank] at hread
      rw [if_pos (by rw [hs']; exact hedit.blank hblank)]
      exact hread
    · cases hnone
  · rw [if_neg hblank, hpieces, List.map_append, List.map_cons] at hread
    obtain ⟨r, -, hr⟩ : ∃ r ∈ spec.rules, Except.ok r = Rule.read segment :=
      List.mem_map.mp (hread ▸ by simp)
    have hread' : (pieces '|' s'.toList).map Rule.read = spec.rules.map Except.ok := by
      rw [hpieces', List.map_append, List.map_cons, hedit.read hr.symm, ← hread, hr]
    rwa [if_neg (not_blank_of_readings hread')]

end Edits

/-! ## Blanks inside an argument -/

/-- A comma inside an argument of a text: the rules in front of it and behind it, what stands in front of the
colon, the arguments in front of it and behind it, and the text of the argument on both its sides. -/
structure InnerComma where
  front : List (List Char)
  head : List Char
  before : List (List Char)
  left : List Char
  right : List Char
  after : List (List Char)
  behind : List (List Char)

namespace InnerComma

variable (p : InnerComma) (w u : List Char)

/-- The argument with blanks in front of the comma and behind it. -/
def argument : List Char := p.left ++ (w ++ ',' :: u) ++ p.right

/-- The argument as the rule has it: trimmed at its ends, with all that stands at the comma. -/
def kept : List Char := trimLeft p.left ++ (w ++ ',' :: u) ++ trimRight p.right

/-- All arguments of its rule. -/
def arguments : List (List Char) := p.before ++ p.argument w u :: p.after

/-- Its rule. -/
def rule : List Char := p.head ++ ':' :: [','].intercalate (p.arguments w u)

/-- All rules. -/
def segments : List (List Char) := p.front ++ p.rule w u :: p.behind

/-- The whole text. -/
def text : String := String.ofList (['|'].intercalate (p.segments w u))

/-- The text is read as these rules, and the text behind the colon as these arguments. -/
structure Occurs : Prop where
  segments : pieces '|' (p.text w u).toList = p.segments w u
  colon : ':' ∉ p.head
  arguments : groups? (pieces ',' ([','].intercalate (p.arguments w u))) = some (p.arguments w u)

/-- The comma is one of a regular expression between slashes, or a bracket is open at it. -/
def Grouped : Prop := isSlashed (trim (p.argument w u)) = true ∨ 0 < bracketDepth p.left

end InnerComma

section Inner

variable {p : InnerComma} {w u w' u' : List Char} {r : Rule Value} {spec : Spec}

theorem alike_comma {a a' b b' : List Char} (ha : Alike a a') (hb : Alike b b') :
    Alike (a ++ ',' :: b) (a' ++ ',' :: b') := by
  rw [Alike, pieces_append, pieces_append, List.map_append, List.map_append, ha, hb]

theorem InnerComma.argument_eq (p : InnerComma) (w u : List Char) :
    p.argument w u = (p.left ++ w) ++ ',' :: (u ++ p.right) := by
  simp [InnerComma.argument]

/-- Other blanks at the comma make alike arguments. -/
theorem InnerComma.alike (p : InnerComma) (hw : Blanks w) (hu : Blanks u) (hw' : Blanks w') (hu' : Blanks u') :
    List.Forall₂ Alike (p.arguments w u) (p.arguments w' u') := by
  have hargument : Alike (p.argument w u) (p.argument w' u') := by
    rw [p.argument_eq, p.argument_eq]
    refine alike_comma (Alike.of_trim ?_) (Alike.of_trim ?_)
    · rw [trim_append_blank hw, trim_append_blank hw']
    · rw [trim_append_of_blank hu, trim_append_of_blank hu']
  rw [Alike] at hargument
  simp only [forall₂_alike_iff, InnerComma.arguments, List.map_append, List.map_cons, hargument]

/-- There is something on both sides of the comma, which is inside slashes or brackets. -/
theorem InnerComma.Occurs.inside (h : p.Occurs w u) (hw : Blanks w) (hu : Blanks u) :
    p.Grouped w u ∧ trim p.left ≠ [] ∧ trim p.right ≠ [] := by
  have hmem : p.argument w u ∈ p.arguments w u := by simp [InnerComma.arguments]
  obtain ⟨-, rest, behind, hend⟩ := mem_scanArguments? (groups?_eq _ ▸ h.arguments) hmem
  obtain ⟨hinside, hleft, hright⟩ := inside_of_endOfArgument? hend (p.argument_eq w u)
  rw [trim_append_blank hw] at hleft
  rw [trim_append_of_blank hu] at hright
  refine ⟨hinside.imp_right fun hdepth => ?_, hleft, hright⟩
  have hnone : bracketDepth w = 0 := by
    by_contra hdepth
    exact not_blank_of_bracketDepth hdepth (trim_eq_nil_iff.mpr hw)
  rwa [bracketDepth_append, hnone, Int.add_zero] at hdepth

theorem exists_not_blank {s : List Char} (h : trim s ≠ []) : ∃ x c y, s = x ++ c :: y ∧ isBlank c = false := by
  obtain ⟨x, c, y, hs, hc, -⟩ := exists_last h
  exact ⟨x, c, y, hs, hc⟩

theorem trimLeft_append {a : List Char} (h : trim a ≠ []) (b : List Char) :
    trimLeft (a ++ b) = trimLeft a ++ b := by
  obtain ⟨x, c, y, rfl, hc⟩ := exists_not_blank h
  rw [List.append_assoc, List.cons_append, trimLeft_around hc, trimLeft_around hc]
  simp

theorem trimRight_append {b : List Char} (h : trim b ≠ []) (a : List Char) :
    trimRight (a ++ b) = a ++ trimRight b := by
  obtain ⟨x, c, y, rfl, hc⟩ := exists_not_blank h
  rw [← List.append_assoc, trimRight_around hc, trimRight_around hc]
  simp

/-- All that stands at the comma is kept. -/
theorem InnerComma.trim_argument (hleft : trim p.left ≠ []) (hright : trim p.right ≠ []) (w u : List Char) :
    trim (p.argument w u) = p.kept w u := by
  rw [p.argument_eq, trim_around (by decide), trimLeft_append hleft, trimRight_append hright, InnerComma.kept]
  simp

theorem isSlashed_between {x m y : List Char} (hx : x ≠ []) (hm : m ≠ []) (hy : y ≠ []) :
    isSlashed (x ++ m ++ y) = (x.head? == some '/' && y.getLast? == some '/') := by
  have hlong : 2 < (x ++ m ++ y).length := by
    have := List.length_pos_of_ne_nil hx
    have := List.length_pos_of_ne_nil hm
    have := List.length_pos_of_ne_nil hy
    rw [List.length_append, List.length_append]
    omega
  rw [isSlashed, decide_eq_true hlong, Bool.true_and, List.append_assoc, List.head?_append_of_ne_nil _ hx,
    ← List.append_assoc, List.getLast?_append_of_ne_nil _ hy]

/-- Whether the argument is a regular expression does not depend on the blanks at the comma. -/
theorem InnerComma.isSlashed_kept (hleft : trim p.left ≠ []) (hright : trim p.right ≠ []) (w u w' u' : List Char) :
    isSlashed (p.kept w u) = isSlashed (p.kept w' u') := by
  have hleft' : trimLeft p.left ≠ [] := by
    intro hnil
    rw [trim, hnil] at hleft
    exact hleft rfl
  have hright' : trimRight p.right ≠ [] := by
    intro hnil
    rw [← trim_trimRight, hnil] at hright
    exact hright rfl
  rw [InnerComma.kept, InnerComma.kept, isSlashed_between hleft' (by simp) hright',
    isSlashed_between hleft' (by simp) hright']

/-- **The rule keeps the blanks at the comma in its argument**, and all else in it is as it was. -/
theorem InnerComma.Occurs.read (h : p.Occurs w u) (hw : Blanks w) (hu : Blanks u) (hw' : Blanks w')
    (hu' : Blanks u') (hread : Rule.read (p.rule w u) = .ok r) :
    r.args[p.before.length]? = some (.text (String.ofList (p.kept w u))) ∧
      Rule.read (p.rule w' u') =
        .ok { r with args := r.args.set p.before.length (.text (String.ofList (p.kept w' u'))) } := by
  obtain ⟨-, hleft, hright⟩ := h.inside hw hu
  have hscan := groups?_eq _ ▸ h.arguments
  have hmem : p.argument w u ∈ p.arguments w u := by simp [InnerComma.arguments]
  have hblank : trim ([','].intercalate (p.arguments w u)) ≠ [] := by
    intro hnil
    have hcomma : ',' ∈ [','].intercalate (p.arguments w u) :=
      (mem_scanArguments? hscan hmem).1 (by simp [InnerComma.argument])
    exact absurd (trim_eq_nil_iff.mp hnil _ hcomma) (by decide)
  have hargs := splitArguments_of_scan hscan
  have hargs' := splitArguments_intercalate hscan (p.alike hw hu hw' hu')
  have htrim (w u : List Char) : (p.arguments w u).map trim =
      p.before.map trim ++ p.kept w u :: p.after.map trim := by
    rw [InnerComma.arguments, List.map_append, List.map_cons, InnerComma.trim_argument hleft hright]
  rw [if_neg hblank, htrim] at hargs hargs'
  obtain ⟨args, hsplit, hname, rfl⟩ := (Rule.read_colon_iff h.colon).mp hread
  obtain rfl := Option.some.inj (hargs.symm.trans hsplit)
  refine ⟨by simp, (Rule.read_colon_iff h.colon).mpr ⟨_, hargs', hname, ?_⟩⟩
  simp [InnerComma.isSlashed_kept hleft hright w u w' u']

/-- With other blanks at the comma the text is still read as these rules. -/
theorem InnerComma.Occurs.pieces_eq (h : p.Occurs w u) (hw' : Blanks w') (hu' : Blanks u') :
    pieces '|' (p.text w' u').toList = p.segments w' u' := by
  have hnoBar : ∀ t ∈ p.segments w u, '|' ∉ t := fun t ht => not_mem_of_mem_pieces (h.segments ▸ ht)
  have hrule : '|' ∉ p.rule w u := hnoBar _ (by simp [InnerComma.segments])
  have hargument : ∀ t ∈ p.arguments w u, '|' ∉ t := by
    intro t ht hbar
    have hsubset := (mem_scanArguments? (groups?_eq _ ▸ h.arguments) ht).1
    exact hrule (by simp [InnerComma.rule, hsubset hbar])
  have hblank {b : List Char} (hb : Blanks b) : '|' ∉ b := fun hbar => absurd (hb _ hbar) (by decide)
  have hargument' : ∀ t ∈ p.arguments w' u', '|' ∉ t := by
    rw [InnerComma.arguments, List.forall_mem_append, List.forall_mem_cons] at hargument ⊢
    obtain ⟨hbefore, hinner, hafter⟩ := hargument
    refine ⟨hbefore, ?_, hafter⟩
    simp only [InnerComma.argument, List.mem_append, List.mem_cons, not_or] at hinner ⊢
    exact ⟨⟨hinner.1.1, hblank hw', by decide, hblank hu'⟩, hinner.2⟩
  have hrule' : '|' ∉ p.rule w' u' := by
    intro hbar
    rcases List.mem_append.mp hbar with hhead | hrest
    · exact hrule (List.mem_append_left _ hhead)
    · rcases List.mem_cons.mp hrest with hcolon | hjoined
      · cases hcolon
      · rcases mem_intercalate hjoined with hcomma | ⟨t, ht, hbar⟩
        · simp at hcomma
        · exact hargument' t ht hbar
  have hsegments : ∀ t ∈ p.segments w' u', '|' ∉ t := by
    simp only [InnerComma.segments, List.forall_mem_append, List.forall_mem_cons] at hnoBar ⊢
    exact ⟨hnoBar.1, hrule', hnoBar.2.2⟩
  rw [InnerComma.text, String.toList_ofList, pieces_intercalate_of_not_mem (by simp [InnerComma.segments]) hsegments]

/-- **A text with other blanks at a comma inside an argument** has the same rules, but for that argument. -/
theorem InnerComma.Occurs.ofText (h : p.Occurs w u) (hw : Blanks w) (hu : Blanks u) (hw' : Blanks w')
    (hu' : Blanks u') (hs : Spec.ofText (p.text w u) = .ok spec) :
    ∃ r, spec.rules[p.front.length]? = some r ∧
      r.args[p.before.length]? = some (.text (String.ofList (p.kept w u))) ∧
      Spec.ofText (p.text w' u') = .ok
        { rules := spec.rules.set p.front.length
            { r with args := r.args.set p.before.length (.text (String.ofList (p.kept w' u'))) }
          source := some (p.text w' u') } := by
  have hpieces' := h.pieces_eq hw' hu'
  have hread := (ofText_ok_iff.mp hs).2
  have hnotBlank : trim (p.text w u).toList ≠ [] := by
    intro hnil
    have hblank := trim_eq_nil_iff.mp hnil
    have hbar : '|' ∉ (p.text w u).toList := fun hmem => absurd (hblank _ hmem) (by decide)
    have hrule : p.rule w u ∈ [(p.text w u).toList] := by
      rw [← pieces_of_not_mem hbar, h.segments]
      simp [InnerComma.segments]
    rw [← List.mem_singleton.mp hrule] at hblank
    exact absurd (hblank ':' (by simp [InnerComma.rule])) (by decide)
  rw [if_neg hnotBlank, h.segments, InnerComma.segments, List.map_append, List.map_cons, eq_comm,
    List.map_eq_append_iff] at hread
  obtain ⟨front, others, hrules, hfront, hothers⟩ := hread
  obtain ⟨r, behind, rfl, hr, hbehind⟩ := List.map_eq_cons_iff.mp hothers
  obtain ⟨harg, hread'⟩ := h.read hw hu hw' hu' hr.symm
  have hlength : front.length = p.front.length := by simpa using congrArg List.length hfront
  refine ⟨r, by simp [hrules, ← hlength], harg, ofText_ok_iff.mpr ⟨rfl, ?_⟩⟩
  have hreadings : (pieces '|' (p.text w' u').toList).map Rule.read =
      (spec.rules.set p.front.length
        { r with args := r.args.set p.before.length (.text (String.ofList (p.kept w' u'))) }).map Except.ok := by
    rw [hpieces', InnerComma.segments, List.map_append, List.map_cons, hread', hrules, ← hlength, ← hfront,
      ← hbehind]
    simp
  rwa [if_neg (not_blank_of_readings hreadings)]

end Inner

/-- **Layout does not count.**  A text keeps its rules whatever blanks are put, in the place of others, at its
ends or at a bar, behind a leading mark, at the first colon of a rule or at a comma between two arguments.
A comma that is inside an argument is inside slashes or brackets; blanks put there are kept in the
argument, and nothing else changes. -/
theorem layout_does_not_count {s : String} {spec : Spec} (h : Spec.ofText s = .ok spec) :
    (∀ s', Relation.ReflTransGen LayoutEdit s s' → Spec.ofText s' = .ok { spec with source := some s' }) ∧
    ∀ (p : InnerComma) (w u w' u' : List Char), s = p.text w u → p.Occurs w u →
      Blanks w → Blanks u → Blanks w' → Blanks u' →
        p.Grouped w u ∧
        ∃ r, spec.rules[p.front.length]? = some r ∧
          r.args[p.before.length]? = some (.text (String.ofList (p.kept w u))) ∧
          Spec.ofText (p.text w' u') = .ok
            { rules := spec.rules.set p.front.length
                { r with args := r.args.set p.before.length (.text (String.ofList (p.kept w' u'))) }
              source := some (p.text w' u') } := by
  constructor
  · intro s' hedits
    induction hedits with
    | refl =>
      rw [h, ← (ofText_ok_iff.mp h).1]
    | tail _ hedit ih =>
      have hnext := hedit.ofText ih
      exact hnext
  · rintro p w u w' u' rfl hoccurs hw hu hw' hu'
    exact ⟨(hoccurs.inside hw hu).1, hoccurs.ofText hw hu hw' hu' h⟩

/-- The comma of the regular expression in `gappedText`. -/
def gappedComma : InnerComma where
  front := [" ^min: 3 ,5 ".toList]
  head := " matches".toList
  before := []
  left := " /a".toList
  right := "[b/ ".toList
  after := ["c ".toList]
  behind := []

/-- `gappedText` with a blank behind its mark, and none in front of its last comma. -/
def regappedText : String := " ^ min: 3 ,5 | matches: /a,[b/,c "

theorem groups?_gapped :
    groups? (pieces ',' " /a,[b/ ,c ".toList) = some [" /a,[b/ ".toList, "c ".toList] := by
  have hpieces : pieces ',' " /a,[b/ ,c ".toList = [" /a".toList, "[b/ ".toList, "c ".toList] := rfl
  have hfirst : firstGroup? [" /a".toList, "[b/ ".toList, "c ".toList] =
      some (" /a,[b/ ".toList, ["c ".toList]) := rfl
  have hlast : firstGroup? ["c ".toList] = some ("c ".toList, []) := rfl
  rw [hpieces, groups?_cons (by simp) hfirst, groups?_cons (by simp) hlast]
  simp [groups?]

theorem gappedComma_occurs : gappedComma.Occurs [] [] where
  segments := by decide
  colon := by decide
  arguments := groups?_gapped

theorem layout_does_not_count_gapped :
    Spec.ofText gappedText = .ok gappedSpec ∧
      Relation.ReflTransGen LayoutEdit gappedText regappedText ∧
      Spec.ofText regappedText = .ok { gappedSpec with source := some regappedText } ∧
      gappedText = gappedComma.text [] [] ∧ gappedComma.Occurs [] [] ∧
      Spec.ofText (gappedComma.text [' '] ['\t']) = .ok
        { rules :=
            [{ name := "min", args := [.text "3", .text "5"], bail := true },
              { name := "matches", args := [.text "/a ,\t[b/", .text "c"], isRegex := true }]
          source := some (gappedComma.text [' '] ['\t']) } := by
  have hblank {c : Char} (hc : isBlank c = true) : Blanks [c] := by simpa [Blanks] using hc
  have hnone : Blanks [] := by simp [Blanks]
  have hmark : LayoutEdit gappedText " ^ min: 3 ,5 | matches: /a,[b/ ,c " :=
    ⟨[], _, _, [" matches: /a,[b/ ,c ".toList], rfl, rfl,
      @RuleEdit.behindMark [] [' '] [' '] "min: 3 ,5 ".toList hnone (hblank (by decide)) (hblank (by decide))⟩
  have hcomma : LayoutEdit " ^ min: 3 ,5 | matches: /a,[b/ ,c " regappedText :=
    ⟨[" ^ min: 3 ,5 ".toList], _, _, [], rfl, rfl,
      @RuleEdit.beforeComma [' '] [] " matches".toList " /a,[b/".toList "c ".toList [] []
        (hblank (by decide)) hnone (by decide) groups?_gapped⟩
  have hedits : Relation.ReflTransGen LayoutEdit gappedText regappedText :=
    .tail (.single hmark) hcomma
  have htext : gappedText = gappedComma.text [] [] := by decide
  have hlayout := layout_does_not_count ofText_gappedText
  obtain ⟨-, r, hr, -, hkept⟩ := hlayout.2 gappedComma [] [] [' '] ['\t'] htext gappedComma_occurs hnone hnone
    (hblank (by decide)) (hblank (by decide))
  obtain rfl := Option.some.inj hr
  exact ⟨ofText_gappedText, hedits, hlayout.1 _ hedits, htext, gappedComma_occurs, hkept⟩

end FieldCheck
