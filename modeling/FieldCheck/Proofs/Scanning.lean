import FieldCheck.Proofs.Arguments
import FieldCheck.Spec.Basic
import Mathlib.Data.List.Infix

/-!
# Arguments read from left to right

Arguments are split by joining the pieces between commas.  Here the same is read off the characters:
an argument goes on to the first comma, or the end of the text, at which it may end.

* `Cut`, `cuts` — the commas of a text and its end, from left to right; `mem_cuts_iff`.
* `firstCut?` — the first of them at which a test holds of the text in front of it.
* `bracketDepth`, `overcloses`, `levelCut?` — brackets counted from the start of an argument.
* `endOfArgument?`, `scanArguments?` — the scanner.
* `firstGroup?_eq`, `groups?_eq` — the pieces that form an argument are those up to its end.
* `Balanced`, `scanArguments?_isSome_iff` — where no piece begins with a slash only brackets matter.

Principal result: `splitArguments_scans`.
-/

set_option autoImplicit false

-- a sum starts at the numeral zero, not at that of a semiring
attribute [local instance (1100)] Zero.ofOfNat0

namespace FieldCheck

open Text

/-! ## Where an argument may end -/

/-- A comma of a text, or its end: the text in front, and at a comma the text behind it. -/
structure Cut where
  front : List Char
  behind : Option (List Char)

namespace Cut

/-- The text that is cut. -/
def text (cut : Cut) : List Char := cut.front ++ cut.behind.elim [] (',' :: ·)

/-- The same cut of a text with one more character in front. -/
def push (c : Char) (cut : Cut) : Cut := { cut with front := c :: cut.front }

end Cut

/-- The commas of a text and its end, from left to right. -/
def cuts : List Char → List Cut
  | [] => [⟨[], none⟩]
  | c :: rest => (if c = ',' then [⟨[], some rest⟩] else []) ++ (cuts rest).map (Cut.push c)

/-- The first cut at which a test holds of the text in front of it. -/
def firstCut? (stop : List Char → Bool) (s : List Char) : Option Cut :=
  (cuts s).find? fun cut => stop cut.front

section Cuts

variable {stop : List Char → Bool} {c : Char} {s : List Char} {cut : Cut}

/-- The cuts of a text are all that there are. -/
theorem mem_cuts_iff : cut ∈ cuts s ↔ cut.text = s := by
  induction s generalizing cut with
  | nil =>
    obtain ⟨front, behind⟩ := cut
    cases behind with
    | none => simp [cuts, Cut.text]
    | some rest => simp [cuts, Cut.text]
  | cons c s ih =>
    rw [cuts, List.mem_append, List.mem_map]
    constructor
    · rintro (hcomma | ⟨cut, hcut, rfl⟩)
      · split at hcomma
        · rename_i hc
          rw [List.mem_singleton.mp hcomma, hc]
          rfl
        · cases hcomma
      · rw [← ih.mp hcut]
        rfl
    · intro htext
      obtain ⟨front, behind⟩ := cut
      cases front with
      | nil =>
        left
        cases behind with
        | none => cases htext
        | some rest =>
          obtain ⟨rfl, rfl⟩ := List.cons.inj htext
          simp
      | cons d front =>
        right
        obtain ⟨rfl, hrest⟩ := List.cons.inj htext
        exact ⟨⟨front, behind⟩, ih.mpr hrest, rfl⟩

theorem firstCut?_nil : firstCut? stop [] = if stop [] then some ⟨[], none⟩ else none := by
  cases h : stop [] <;> simp [firstCut?, cuts, h]

theorem firstCut?_comma : firstCut? stop (',' :: s) =
    if stop [] then some ⟨[], some s⟩
    else (firstCut? (fun t => stop (',' :: t)) s).map (Cut.push ',') := by
  cases h : stop [] <;> simp [firstCut?, cuts, h, List.find?_map, Function.comp_def, Cut.push]

theorem firstCut?_cons (hc : c ≠ ',') : firstCut? stop (c :: s) =
    (firstCut? (fun t => stop (c :: t)) s).map (Cut.push c) := by
  simp [firstCut?, cuts, hc, List.find?_map, Function.comp_def, Cut.push]

theorem firstCut?_eq_some (h : firstCut? stop s = some cut) :
    cut.text = s ∧ stop cut.front = true := by
  have hstop := List.find?_some h
  exact ⟨mem_cuts_iff.mp (List.mem_of_find?_eq_some h), hstop⟩

/-- Where the whole text passes the test, there is such a cut. -/
theorem firstCut?_of_stop (h : stop s = true) : ∃ cut, firstCut? stop s = some cut := by
  have hend : (⟨s, none⟩ : Cut) ∈ cuts s := mem_cuts_iff.mpr (List.append_nil s)
  exact Option.isSome_iff_exists.mp (List.find?_isSome.mpr ⟨_, hend, h⟩)

end Cuts

/-! ## Brackets -/

/-- What a character adds to the brackets that are open. -/
def bracketWeight (c : Char) : Int := if c = '[' then 1 else if c = ']' then -1 else 0

/-- The brackets that a text opens, less those that it closes. -/
def bracketDepth (s : List Char) : Int := (s.map bracketWeight).sum

/-- Whether a text closes a bracket too many on its way, when so many are open in front of it. -/
def overcloses (depth : Int) (s : List Char) : Bool :=
  s.inits.any fun part => depth + bracketDepth part < 0

/-- The first cut at which no bracket is open, when so many are open at the start; nothing if one is
closed too many in front of it. -/
def levelCut? (depth : Int) (s : List Char) : Option Cut :=
  (firstCut? (fun t => depth + bracketDepth t = 0) s).filter fun cut => !overcloses depth cut.front

section Brackets

variable {c : Char} {s t : List Char} {depth : Int} {cut : Cut}

@[simp] theorem bracketDepth_nil : bracketDepth [] = 0 := rfl

@[simp] theorem bracketDepth_cons (c : Char) (s : List Char) :
    bracketDepth (c :: s) = bracketWeight c + bracketDepth s := by
  simp [bracketDepth]

@[simp] theorem bracketDepth_append (s t : List Char) :
    bracketDepth (s ++ t) = bracketDepth s + bracketDepth t := by
  simp [bracketDepth]

theorem overcloses_cons (h : 0 ≤ depth) (c : Char) (s : List Char) :
    overcloses depth (c :: s) = overcloses (depth + bracketWeight c) s := by
  have hfirst : ¬depth < 0 := by omega
  simp only [overcloses, List.inits_cons, List.any_cons, bracketDepth_nil, Int.add_zero, hfirst,
    decide_false, Bool.false_or, List.any_map]
  congr 1
  funext part
  simp only [Function.comp_apply]
  rw [bracketDepth_cons, Int.add_assoc]

theorem overcloses_of_negative (h : depth < 0) (s : List Char) : overcloses depth s = true := by
  refine List.any_eq_true.mpr ⟨[], (List.mem_inits _ _).mpr List.nil_prefix, ?_⟩
  simpa using h

theorem levelCut?_of_negative (h : depth < 0) (s : List Char) : levelCut? depth s = none := by
  simp [levelCut?, overcloses_of_negative h]

theorem levelCut?_nil (h : 0 ≤ depth) :
    levelCut? depth [] = if depth = 0 then some ⟨[], none⟩ else none := by
  have hlevel : overcloses depth [] = false := by simp [overcloses, h]
  by_cases hzero : depth = 0
  · simp [levelCut?, firstCut?_nil, hzero, ← hzero ▸ hlevel]
  · simp [levelCut?, firstCut?_nil, hzero]

/-- Behind a character the brackets are counted on. -/
theorem filter_push (h : 0 ≤ depth) (c : Char) (s : List Char) :
    ((firstCut? (fun t => depth + bracketDepth (c :: t) = 0) s).map (Cut.push c)).filter
        (fun cut => !overcloses depth cut.front) =
      (levelCut? (depth + bracketWeight c) s).map (Cut.push c) := by
  rw [Option.filter_map, levelCut?]
  simp only [Function.comp_def, Cut.push, overcloses_cons h, bracketDepth_cons, Int.add_assoc]

theorem levelCut?_comma (h : 0 ≤ depth) (s : List Char) : levelCut? depth (',' :: s) =
    if depth = 0 then some ⟨[], some s⟩ else (levelCut? depth s).map (Cut.push ',') := by
  rw [levelCut?, firstCut?_comma]
  by_cases hzero : depth = 0
  · subst hzero
    rfl
  · simp only [bracketDepth_nil, Int.add_zero, hzero, decide_false, Bool.false_eq_true, if_false]
    rw [filter_push h, show bracketWeight ',' = 0 from rfl, Int.add_zero]

theorem levelCut?_cons (h : 0 ≤ depth) (hc : c ≠ ',') (s : List Char) :
    levelCut? depth (c :: s) = (levelCut? (depth + bracketWeight c) s).map (Cut.push c) := by
  rw [levelCut?, firstCut?_cons hc, filter_push h]

end Brackets

/-! ## The scanner -/

/-- Whether the first character in front of the next comma that is not blank is a slash. -/
def opensSlashed (s : List Char) : Bool :=
  (s.takeWhile (· ≠ ',')).find? (fun c => !isBlank c) == some '/'

/-- Where the argument that begins a text ends: one that begins with a slash where it can be a regular
expression, if there is such a place, and else any where no bracket is open. -/
def endOfArgument? (s : List Char) : Option Cut :=
  let slashed := if opensSlashed s then firstCut? (fun t => closesSlashed (trim t)) s else none
  slashed.or (levelCut? 0 s)

section Groups

variable {s : List Char} {cut : Cut}

theorem text_of_levelCut? {depth : Int} (h : levelCut? depth s = some cut) : cut.text = s :=
  (firstCut?_eq_some (Option.filter_eq_some_iff.mp h).1).1

theorem text_of_endOfArgument? (h : endOfArgument? s = some cut) : cut.text = s := by
  rcases Option.or_eq_some_iff.mp h with hslashed | ⟨-, hlevel⟩
  · split at hslashed
    · exact (firstCut?_eq_some hslashed).1
    · cases hslashed
  · exact text_of_levelCut? hlevel

/-- The text behind the comma that ends an argument is shorter. -/
theorem endOfArgument?_length {front rest : List Char}
    (h : endOfArgument? s = some ⟨front, some rest⟩) : rest.length < s.length := by
  rw [← text_of_endOfArgument? h]
  simp only [Cut.text, Option.elim_some, List.length_append, List.length_cons]
  omega

/-- The first piece goes on to the first comma. -/
theorem pieces_eq_takeWhile (s : List Char) :
    ∃ more, pieces ',' s = s.takeWhile (· ≠ ',') :: more := by
  induction s with
  | nil => exact ⟨[], rfl⟩
  | cons c s ih =>
    by_cases hc : c = ','
    · subst hc
      exact ⟨pieces ',' s, by rw [pieces_cons_separator]; rfl⟩
    · obtain ⟨more, hmore⟩ := ih
      exact ⟨more, by simp [pieces_cons_of_ne hc, hmore, hc]⟩

theorem startsSlashed_eq (s : List Char) :
    startsSlashed s = (s.find? (fun c => !isBlank c) == some '/') := by
  rw [startsSlashed]
  congr 1
  induction s with
  | nil => rfl
  | cons c s ih =>
    cases hc : isBlank c with
    | true => simp [trim_cons_blank hc, ih, hc]
    | false => simp [trim_cons hc, hc]

/-- Pieces that together form a regular expression reach up to the first cut where it can end. -/
theorem slashedGroup?_eq (before s : List Char) :
    slashedGroup? before (pieces ',' s) =
      (firstCut? (fun t => closesSlashed (trim (before ++ t))) s).map fun cut =>
        (before ++ cut.front, cut.behind.elim [] (pieces ',')) := by
  induction s generalizing before with
  | nil =>
    rw [firstCut?_nil, List.append_nil]
    simp only [pieces, slashedGroup?, List.append_nil]
    split <;> simp
  | cons c s ih =>
    by_cases hc : c = ','
    · subst hc
      rw [pieces_cons_separator, slashedGroup?, firstCut?_comma, ih]
      simp only [List.append_nil, List.append_assoc, List.singleton_append]
      split
      · simp
      · simp [Function.comp_def, Cut.push]
    · obtain ⟨first, more, hpieces⟩ := List.exists_cons_of_ne_nil (pieces_ne_nil ',' s)
      have hstep : slashedGroup? before ((c :: first) :: more) =
          slashedGroup? (before ++ [c]) (first :: more) := by
        simp [slashedGroup?]
      rw [pieces_cons_of_ne hc, firstCut?_cons hc, hpieces, List.modifyHead_cons, hstep, ← hpieces,
        ih]
      simp [Function.comp_def, Cut.push]

theorem depthAfter?_cons {depth next : Nat} {c : Char} (h : (depth : Int) + bracketWeight c = next)
    (s : List Char) : depthAfter? depth (c :: s) = depthAfter? next s := by
  by_cases hopen : c = '['
  · subst hopen
    obtain rfl : next = depth + 1 := by
      rw [show bracketWeight '[' = 1 from rfl] at h
      omega
    rfl
  · by_cases hclose : c = ']'
    · subst hclose
      obtain rfl : depth = next + 1 := by
        rw [show bracketWeight ']' = -1 from rfl] at h
        omega
      rfl
    · obtain rfl : depth = next := by
        simp only [bracketWeight, hopen, hclose, if_false] at h
        omega
      simp [depthAfter?, hopen, hclose]

theorem depthAfter?_of_negative {depth : Nat} {c : Char} (h : (depth : Int) + bracketWeight c < 0)
    (s : List Char) : depthAfter? depth (c :: s) = none := by
  unfold bracketWeight at h
  split at h
  · omega
  · split at h
    · rename_i hclose
      obtain rfl : depth = 0 := by omega
      rw [hclose]
      rfl
    · omega

/-- Pieces that together leave no bracket open reach up to the first cut where none is. -/
theorem balancedGroup?_eq (depth : Nat) (before s : List Char) :
    balancedGroup? depth before (pieces ',' s) =
      (levelCut? depth s).map fun cut =>
        (before ++ cut.front, cut.behind.elim [] (pieces ',')) := by
  induction s generalizing depth before with
  | nil =>
    rw [levelCut?_nil (Int.natCast_nonneg depth)]
    cases depth with
    | zero => simp [pieces, balancedGroup?, depthAfter?]
    | succ depth =>
      have hopen : ¬(depth : Int) + 1 = 0 := by omega
      simp [pieces, balancedGroup?, depthAfter?, hopen]
  | cons c s ih =>
    have hdepth : 0 ≤ (depth : Int) := Int.natCast_nonneg depth
    by_cases hc : c = ','
    · subst hc
      rw [pieces_cons_separator, levelCut?_comma hdepth]
      cases depth with
      | zero => simp [balancedGroup?, depthAfter?]
      | succ depth =>
        have hopen : ¬((depth + 1 : Nat) : Int) = 0 := by omega
        rw [if_neg hopen, Option.map_map]
        simp [balancedGroup?, depthAfter?, ih, Function.comp_def, Cut.push]
    · obtain ⟨first, more, hpieces⟩ := List.exists_cons_of_ne_nil (pieces_ne_nil ',' s)
      rw [pieces_cons_of_ne hc, levelCut?_cons hdepth hc, hpieces, List.modifyHead_cons]
      rcases Int.lt_or_le ((depth : Int) + bracketWeight c) 0 with hneg | hnext
      · rw [levelCut?_of_negative hneg, balancedGroup?, depthAfter?_of_negative hneg]
        rfl
      · obtain ⟨next, hnext⟩ := Int.eq_ofNat_of_zero_le hnext
        have hstep : balancedGroup? depth before ((c :: first) :: more) =
            balancedGroup? next (before ++ [c]) (first :: more) := by
          simp only [balancedGroup?, depthAfter?_cons hnext, List.append_assoc,
            List.singleton_append]
        rw [hstep, ← hpieces, ih, hnext, Option.map_map]
        simp [Function.comp_def, Cut.push]

/-- The pieces that form an argument reach up to its end. -/
theorem firstGroup?_eq (s : List Char) :
    firstGroup? (pieces ',' s) =
      (endOfArgument? s).map fun cut => (cut.front, cut.behind.elim [] (pieces ',')) := by
  obtain ⟨more, hpieces⟩ := pieces_eq_takeWhile s
  have hslashed := slashedGroup?_eq [] s
  have hlevel := balancedGroup?_eq 0 [] s
  simp only [List.nil_append, Int.natCast_zero] at hslashed hlevel
  have hopens : startsSlashed (s.takeWhile (· ≠ ',')) = opensSlashed s := startsSlashed_eq _
  rw [hpieces] at hslashed hlevel ⊢
  simp only [firstGroup?, endOfArgument?, hopens, hslashed, hlevel]
  cases opensSlashed s with
  | false => simp
  | true => cases firstCut? (fun t => closesSlashed (trim t)) s <;> simp

end Groups

/-- The arguments of a text from left to right, untrimmed: each goes on to its end, and the next one
begins behind the comma there. -/
def scanArguments? (s : List Char) : Option (List (List Char)) :=
  match _h : endOfArgument? s with
  | none => none
  | some ⟨front, none⟩ => some [front]
  | some ⟨front, some rest⟩ => (scanArguments? rest).map (front :: ·)
termination_by s.length
decreasing_by exact endOfArgument?_length (by assumption)

/-- The groups of pieces are the arguments that are scanned. -/
theorem groups?_eq (s : List Char) : groups? (pieces ',' s) = scanArguments? s := by
  fun_induction scanArguments? s with
  | case1 s hend =>
    have hgroup := firstGroup?_eq s
    rw [hend] at hgroup
    rw [groups?, if_neg (by simpa using pieces_ne_nil ',' s)]
    split
    · rfl
    · rename_i hsome
      rw [hgroup] at hsome
      cases hsome
  | case2 s front hend =>
    have hgroup := firstGroup?_eq s
    rw [hend] at hgroup
    rw [groups?_cons (pieces_ne_nil ',' s) hgroup]
    simp [groups?]
  | case3 s front rest hend ih =>
    have hgroup := firstGroup?_eq s
    rw [hend] at hgroup
    rw [groups?_cons (pieces_ne_nil ',' s) hgroup, ← ih]
    rfl

theorem scanArguments?_ne_nil {s : List Char} {raw : List (List Char)}
    (h : scanArguments? s = some raw) : raw ≠ [] := by
  unfold scanArguments? at h
  split at h
  · cases h
  · cases h
    exact List.cons_ne_nil _ _
  · obtain ⟨more, -, rfl⟩ := Option.map_eq_some_iff.mp h
    exact List.cons_ne_nil _ _

/-- With the commas between them the arguments are the text again. -/
theorem intercalate_scanArguments? {s : List Char} {raw : List (List Char)}
    (h : scanArguments? s = some raw) : [','].intercalate raw = s := by
  fun_induction scanArguments? s generalizing raw with
  | case1 s hend => cases h
  | case2 s front hend =>
    cases h
    have htext := text_of_endOfArgument? hend
    simpa [Cut.text] using htext
  | case3 s front rest hend ih =>
    obtain ⟨more, hmore, rfl⟩ := Option.map_eq_some_iff.mp h
    obtain ⟨second, others, rfl⟩ := List.exists_cons_of_ne_nil (scanArguments?_ne_nil hmore)
    have htext := text_of_endOfArgument? hend
    rw [List.intercalate_cons_cons, ih hmore, ← htext]
    simp [Cut.text]

/-! ## Texts in which only brackets matter -/

/-- A text whose brackets match: none is closed before it is opened, and none stays open. -/
structure Balanced (s : List Char) : Prop where
  level : bracketDepth s = 0
  opened {part : List Char} : part <+: s → 0 ≤ bracketDepth part

section Balance

variable {s a b : List Char} {cut : Cut}

theorem overcloses_eq_false_iff :
    overcloses 0 s = false ↔ ∀ part, part <+: s → 0 ≤ bracketDepth part := by
  simp [overcloses, List.mem_inits]

/-- In front of a level cut the brackets match. -/
theorem balanced_of_levelCut? (h : levelCut? 0 s = some cut) : Balanced cut.front := by
  obtain ⟨hfirst, hlevel⟩ := Option.filter_eq_some_iff.mp h
  have hdepth := (firstCut?_eq_some hfirst).2
  refine ⟨by simpa using hdepth, fun {part} => ?_⟩
  exact overcloses_eq_false_iff.mp (by simpa using hlevel) part

/-- A text whose brackets match has a level cut. -/
theorem Balanced.levelCut? (h : Balanced s) : ∃ cut, levelCut? 0 s = some cut := by
  obtain ⟨cut, hcut⟩ : ∃ cut, firstCut? (fun t => 0 + bracketDepth t = 0) s = some cut :=
    firstCut?_of_stop (by simp [h.level])
  have hprefix : cut.front <+: s := ⟨_, (firstCut?_eq_some hcut).1⟩
  have hlevel : overcloses 0 cut.front = false :=
    overcloses_eq_false_iff.mpr fun part hpart => h.opened (hpart.trans hprefix)
  exact ⟨cut, Option.filter_eq_some_iff.mpr ⟨hcut, by simp [hlevel]⟩⟩

theorem Balanced.comma_iff (ha : Balanced a) : Balanced (a ++ ',' :: b) ↔ Balanced b := by
  have hcomma : bracketWeight ',' = 0 := rfl
  have hdepth (part : List Char) : bracketDepth (a ++ ',' :: part) = bracketDepth part := by
    rw [bracketDepth_append, ha.level, bracketDepth_cons, hcomma]
    omega
  constructor
  · intro h
    refine ⟨by rw [← hdepth, h.level], fun {part} hpart => ?_⟩
    rw [← hdepth]
    exact h.opened ((List.prefix_append_right_inj a).mpr (List.cons_prefix_cons.mpr ⟨rfl, hpart⟩))
  · intro h
    refine ⟨by rw [hdepth, h.level], fun {part} hpart => ?_⟩
    -- the part ends within the first text, or goes on behind the comma
    rcases List.prefix_or_prefix_of_prefix hpart (List.prefix_append a _) with hfirst | ⟨more, rfl⟩
    · exact ha.opened hfirst
    · cases more with
      | nil => simp [ha.level]
      | cons c more =>
        obtain ⟨rfl, hmore⟩ := List.cons_prefix_cons.mp ((List.prefix_append_right_inj a).mp hpart)
        rw [hdepth]
        exact h.opened hmore

/-- Where the first piece does not begin with a slash, an argument ends at a level cut. -/
theorem endOfArgument?_plain (h : ∀ piece ∈ pieces ',' s, startsSlashed piece = false) :
    endOfArgument? s = levelCut? 0 s := by
  obtain ⟨more, hpieces⟩ := pieces_eq_takeWhile s
  have hopens : startsSlashed (s.takeWhile (· ≠ ',')) = opensSlashed s := startsSlashed_eq _
  rw [h _ (hpieces ▸ List.mem_cons_self)] at hopens
  simp [endOfArgument?, ← hopens]

/-- **Where no piece begins with a slash, the arguments are found exactly if the brackets match.** -/
theorem scanArguments?_isSome_iff (h : ∀ piece ∈ pieces ',' s, startsSlashed piece = false) :
    (scanArguments? s).isSome = true ↔ Balanced s := by
  fun_induction scanArguments? s with
  | case1 s hend =>
    rw [endOfArgument?_plain h] at hend
    refine ⟨nofun, fun hbalanced => ?_⟩
    obtain ⟨cut, hcut⟩ := hbalanced.levelCut?
    rw [hend] at hcut
    cases hcut
  | case2 s front hend =>
    rw [endOfArgument?_plain h] at hend
    have htext : front ++ [] = s := text_of_levelCut? hend
    rw [List.append_nil] at htext
    exact ⟨fun _ => htext ▸ balanced_of_levelCut? hend, fun _ => rfl⟩
  | case3 s front rest hend ih =>
    rw [endOfArgument?_plain h] at hend
    have htext : front ++ ',' :: rest = s := text_of_levelCut? hend
    have hrest : ∀ piece ∈ pieces ',' rest, startsSlashed piece = false := by
      intro piece hpiece
      refine h piece ?_
      rw [← htext, pieces_append]
      exact List.mem_append_right _ hpiece
    rw [Option.isSome_map, ih hrest, ← htext]
    exact (balanced_of_levelCut? hend).comma_iff.symm

end Balance

theorem requireName_ne_unbalanced (name : List Char) :
    requireName name ≠ .error .unbalanced := by
  unfold requireName
  split
  · simp
  · split
    · simp
    · simp

/-- A rule is refused for its brackets exactly if its arguments cannot be split. -/
theorem Rule.read_unbalanced_iff {segment argText : List Char}
    (h : (splitColon (takeBail (trim segment)).2).2 = some argText) :
    Rule.read segment = .error .unbalanced ↔ splitArguments argText = none := by
  simp only [Rule.read, h, Option.elim_some]
  cases splitArguments argText with
  | none => simp
  | some args =>
    have hname := requireName_ne_unbalanced
      (trim (splitColon (takeBail (trim segment)).2).1)
    cases hread : requireName (trim (splitColon (takeBail (trim segment)).2).1) with
    | ok checked => simp
    | error fault => simpa [hread] using hname

/-- **Splitting arguments reads them from left to right.**  A blank text has none.  Any other has those
that are scanned, trimmed, and is refused where they cannot be; before they are trimmed, they are the
text cut at some of its commas.  Where no piece begins with a slash, all that is refused are brackets
that do not match. -/
theorem splitArguments_scans (s : List Char) :
    splitArguments s = (if (trim s).isEmpty then some [] else (scanArguments? s).map (·.map trim)) ∧
    (∀ raw, scanArguments? s = some raw → [','].intercalate raw = s) ∧
    (∀ segment, (splitColon (takeBail (trim segment)).2).2 = some s →
      (Rule.read segment = .error .unbalanced ↔
        (trim s).isEmpty = false ∧ scanArguments? s = none)) ∧
    ((trim s).isEmpty = false → (∀ piece ∈ pieces ',' s, startsSlashed piece = false) →
      ((splitArguments s).isSome = true ↔ Balanced s)) := by
  have hsplit : splitArguments s =
      if (trim s).isEmpty then some [] else (scanArguments? s).map (·.map trim) := by
    rw [splitArguments, groups?_eq]
  refine ⟨hsplit, fun raw => intercalate_scanArguments?, fun segment hsegment => ?_,
    fun hblank hplain => ?_⟩
  · rw [Rule.read_unbalanced_iff hsegment, hsplit]
    cases (trim s).isEmpty <;> simp
  · rw [hsplit, hblank]
    simpa using scanArguments?_isSome_iff hplain

/-- A regular expression keeps its commas, and so do brackets. -/
example : splitArguments "/a,b/, [c,d],e".toList =
    some ["/a,b/".toList, "[c,d]".toList, "e".toList] := by cbv

end FieldCheck
