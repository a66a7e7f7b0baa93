import FieldCheck.Proofs.NormalForm

/-!
# Blanks and the commas between arguments

Which commas separate arguments is told from the pieces between them, and blanks at the ends of these pieces
tell nothing.

* `closesSlashed_comma`, `depthAfter?_trim` — the tests that end an argument do not see such blanks.
* `firstGroup?_trim` — nor does the search for the first argument.
* `Alike` — the pieces of two texts are the same, trimmed; `Alike.of_trim`, `alike_around_comma`.
* `scanArguments?_of_alike`, `scanArguments?_intercalate` — alike texts have alike arguments, so that blanks
  at the commas may be changed.
* `splitArguments_blank_left`, `splitArguments_trimRight` — nor do blanks around all arguments count.
* `inside_slashes`, `inside_brackets`, `inside_of_endOfArgument?` — a comma inside an argument is inside
  slashes or brackets.

Principal result: `splitArguments_intercalate`.
-/

set_option autoImplicit false

namespace FieldCheck

open Text

/-! ## The tests -/

section Tests

variable {b s : List Char}

theorem bracketWeight_of_blank {c : Char} (h : isBlank c = true) : bracketWeight c = 0 := by
  unfold bracketWeight
  split
  · rename_i hopen
    rw [hopen] at h
    exact absurd h (by decide)
  · split
    · rename_i hclose
      rw [hclose] at h
      exact absurd h (by decide)
    · rfl

theorem depthAfter?_blank (h : ∀ c ∈ b, isBlank c = true) (depth : Nat) (s : List Char) :
    depthAfter? depth (b ++ s) = depthAfter? depth s := by
  induction b with
  | nil => rfl
  | cons c b ih =>
    rw [List.forall_mem_cons] at h
    rw [List.cons_append, depthAfter?_cons (by rw [bracketWeight_of_blank h.1, Int.add_zero]), ih h.2]

theorem depthAfter?_blank_right (h : ∀ c ∈ b, isBlank c = true) (depth : Nat) (s : List Char) :
    depthAfter? depth (s ++ b) = depthAfter? depth s := by
  induction s generalizing depth with
  | nil => simpa using depthAfter?_blank h depth []
  | cons c s ih =>
    cases depth with
    | zero => simp only [List.cons_append, depthAfter?, ih]
    | succ depth => simp only [List.cons_append, depthAfter?, ih]

/-- Blanks around a text open no bracket and close none. -/
theorem depthAfter?_trim (depth : Nat) (s : List Char) :
    depthAfter? depth (trim s) = depthAfter? depth s := by
  obtain ⟨a, b, hs, ha, hb⟩ := Text.eq_append_trim s
  conv_rhs => rw [hs]
  rw [depthAfter?_blank ha, depthAfter?_blank_right hb]

theorem trim_eq_nil_iff : trim s = [] ↔ ∀ c ∈ s, isBlank c = true := by
  constructor
  · intro h
    obtain ⟨a, b, hs, ha, hb⟩ := Text.eq_append_trim s
    rw [hs, h, List.nil_append]
    exact List.forall_mem_append.mpr ⟨ha, hb⟩
  · intro h
    have hnil := trim_append_of_blank h []
    rwa [List.append_nil] at hnil

theorem trimRight_blank (h : ∀ c ∈ s, isBlank c = true) : trimRight s = [] := by
  simpa [trimRight, List.dropWhile_eq_nil_iff] using h

/-- A text that is not blank ends, blanks aside, in a character that is not blank. -/
theorem exists_last (h : trim s ≠ []) :
    ∃ a c b, s = a ++ c :: b ∧ isBlank c = false ∧ (∀ d ∈ b, isBlank d = true) ∧
      (trim s).getLast? = some c := by
  obtain ⟨x, y, hs, -, hy⟩ := Text.eq_append_trim s
  obtain ⟨t, c, ht⟩ := List.eq_nil_or_concat (trim s) |>.resolve_left h
  rw [List.concat_eq_append] at ht
  have hlast : (trim s).getLast? = some c := by rw [ht, List.getLast?_concat]
  refine ⟨x ++ t, c, y, ?_, ?_, hy, hlast⟩
  · conv_lhs => rw [hs, ht]
    simp
  · exact (trim_eq_self_iff.mp (trim_trim s)).2 c hlast

/-- Behind a comma only the last character that is not blank tells whether a regular expression ends. -/
theorem closesSlashed_comma (a s : List Char) :
    closesSlashed (trim (a ++ ',' :: s)) = ((trim s).getLast? == some '/') := by
  rw [trim_around (by decide)]
  by_cases hs : trim s = []
  · rw [trimRight_blank (trim_eq_nil_iff.mp hs), hs]
    simp [closesSlashed]
  · obtain ⟨x, c, y, rfl, hc, hy, hlast⟩ := exists_last hs
    have htext : trimLeft a ++ ',' :: (x ++ [c]) = (trimLeft a ++ ',' :: x) ++ [c] := by simp
    have hlong : 1 < (trimLeft a ++ ',' :: (x ++ [c])).length := by
      simp only [List.length_append, List.length_cons, List.length_nil]
      omega
    rw [hlast, trimRight_around hc, trimRight_blank hy, closesSlashed, decide_eq_true hlong, htext,
      List.getLast?_concat, Bool.true_and]

end Tests

/-! ## The first argument -/

section FirstGroup

variable (depth : Nat) (before before' : List Char) (ps : List (List Char))

/-- What is left behind a regular expression that began in front of a comma, whatever stood there. -/
theorem slashedGroup?_trim :
    (slashedGroup? (before ++ [',']) ps).map (fun g => g.2.map trim) =
      (slashedGroup? (before' ++ [',']) (ps.map trim)).map Prod.snd := by
  induction ps generalizing before before' with
  | nil => rfl
  | cons p ps ih =>
    have htext (b q : List Char) : b ++ [','] ++ q = b ++ ',' :: q := by simp
    simp only [List.map_cons, slashedGroup?, htext, closesSlashed_comma, trim_trim]
    split
    · rfl
    · exact ih _ _

theorem balancedGroup?_trim :
    (balancedGroup? depth before ps).map (fun g => g.2.map trim) =
      (balancedGroup? depth before' (ps.map trim)).map Prod.snd := by
  induction ps generalizing depth before before' with
  | nil => rfl
  | cons p ps ih =>
    simp only [List.map_cons, balancedGroup?, depthAfter?_trim]
    split
    · rfl
    · rfl
    · exact ih _ _ _

/-- What is left behind the first argument is told from the trimmed pieces. -/
theorem firstGroup?_trim :
    (firstGroup? ps).map (fun g => g.2.map trim) = (firstGroup? (ps.map trim)).map Prod.snd := by
  cases ps with
  | nil => rfl
  | cons p ps =>
    have hslashed : (slashedGroup? [] (p :: ps)).map (fun g => g.2.map trim) =
        (slashedGroup? [] ((p :: ps).map trim)).map Prod.snd := by
      simp only [List.map_cons, slashedGroup?, List.nil_append, trim_trim]
      split
      · rfl
      · exact slashedGroup?_trim p (trim p) ps
    have hbalanced := balancedGroup?_trim 0 [] [] (p :: ps)
    have hopens : startsSlashed (trim p) = startsSlashed p := by rw [startsSlashed, trim_trim, startsSlashed]
    rw [List.map_cons] at hslashed hbalanced ⊢
    simp only [firstGroup?, hopens]
    cases startsSlashed p with
    | false => exact hbalanced
    | true =>
      cases hleft : slashedGroup? [] (p :: ps) with
      | none =>
        rw [hleft, Option.map_none, eq_comm, Option.map_eq_none_iff] at hslashed
        simp only [hslashed, if_true]
        exact hbalanced
      | some g =>
        rw [hleft, Option.map_some, eq_comm, Option.map_eq_some_iff] at hslashed
        obtain ⟨g', hright, hrest⟩ := hslashed
        simp only [hright, if_true, Option.map_some, hrest]

end FirstGroup

/-! ## Alike texts -/

/-- The pieces between commas are the same, but for blanks at their ends. -/
def Alike (s t : List Char) : Prop := (pieces ',' s).map trim = (pieces ',' t).map trim

section Alike

variable {s t : List Char} {raws raws' : List (List Char)}

theorem Alike.symm (h : Alike s t) : Alike t s := Eq.symm h

/-- Blanks around a text do not count. -/
theorem Alike.of_trim (h : trim s = trim t) : Alike s t := by
  rw [Alike, ← map_trim_pieces_trim (by decide) s, h, map_trim_pieces_trim (by decide) t]

theorem forall₂_alike_iff : List.Forall₂ Alike raws raws' ↔
    (raws.map fun s => (pieces ',' s).map trim) = raws'.map fun s => (pieces ',' s).map trim := by
  rw [← List.forall₂_eq_eq_eq, List.forall₂_map_left_iff, List.forall₂_map_right_iff]
  rfl

/-- Texts that are joined with commas are alike if they are so one by one. -/
theorem alike_intercalate (h : List.Forall₂ Alike raws raws') :
    Alike ([','].intercalate raws) ([','].intercalate raws') := by
  have hpieces : (raws.flatMap (pieces ',')).map trim = (raws'.flatMap (pieces ',')).map trim := by
    rw [List.map_flatMap, List.map_flatMap, List.flatMap_def, List.flatMap_def, forall₂_alike_iff.mp h]
  cases h with
  | nil => rfl
  | cons => rwa [Alike, pieces_intercalate (List.cons_ne_nil _ _), pieces_intercalate (List.cons_ne_nil _ _)]

/-- A cut divides the pieces of a text. -/
theorem pieces_cut (cut : Cut) :
    pieces ',' cut.text = pieces ',' cut.front ++ cut.behind.elim [] (pieces ',') := by
  obtain ⟨front, behind⟩ := cut
  cases behind with
  | none => simp [Cut.text]
  | some rest => exact pieces_append front rest

/-- The first arguments of alike texts are alike, and so is what comes behind them. -/
theorem endOfArgument?_of_alike {cut : Cut} (h : Alike s t) (hcut : endOfArgument? s = some cut) :
    ∃ cut', endOfArgument? t = some cut' ∧ Alike cut.front cut'.front ∧
      Option.Rel Alike cut.behind cut'.behind := by
  have hgroups := firstGroup?_trim (pieces ',' s)
  rw [h, ← firstGroup?_trim, firstGroup?_eq, firstGroup?_eq, hcut, Option.map_some, Option.map_some, eq_comm,
    Option.map_map, Option.map_eq_some_iff] at hgroups
  obtain ⟨cut', hcut', hbehind⟩ := hgroups
  have hbehind : (cut'.behind.elim [] (pieces ',')).map trim = (cut.behind.elim [] (pieces ',')).map trim :=
    hbehind
  refine ⟨cut', hcut', ?_, ?_⟩
  · rw [Alike, ← text_of_endOfArgument? hcut, ← text_of_endOfArgument? hcut', pieces_cut, pieces_cut,
      List.map_append, List.map_append, hbehind] at h
    exact List.append_cancel_right h
  · revert hbehind
    cases cut.behind with
    | none =>
      cases cut'.behind with
      | none => exact fun _ => .none
      | some rest' => exact fun hnil => absurd (List.map_eq_nil_iff.mp hnil) (pieces_ne_nil ',' rest')
    | some rest =>
      cases cut'.behind with
      | none => exact fun hnil => absurd (List.map_eq_nil_iff.mp hnil.symm) (pieces_ne_nil ',' rest)
      | some rest' => exact fun hbehind => .some hbehind.symm

theorem scanArguments?_last {front : List Char} (h : endOfArgument? s = some ⟨front, none⟩) :
    scanArguments? s = some [front] := by
  have hgroup := firstGroup?_eq s
  rw [h] at hgroup
  rw [← groups?_eq, groups?_cons (pieces_ne_nil ',' s) hgroup]
  simp [groups?]

theorem scanArguments?_comma {front rest : List Char} (h : endOfArgument? s = some ⟨front, some rest⟩) :
    scanArguments? s = (scanArguments? rest).map (front :: ·) := by
  have hgroup := firstGroup?_eq s
  rw [h] at hgroup
  rw [← groups?_eq, ← groups?_eq, groups?_cons (pieces_ne_nil ',' s) hgroup]
  rfl

/-- **Alike texts have alike arguments.** -/
theorem scanArguments?_of_alike (h : Alike s t) (hs : scanArguments? s = some raws) :
    ∃ raws', scanArguments? t = some raws' ∧ List.Forall₂ Alike raws raws' := by
  fun_induction scanArguments? s generalizing t raws with
  | case1 s hend => cases hs
  | case2 s front hend =>
    cases hs
    obtain ⟨⟨front', behind'⟩, hend', hfront, hbehind⟩ := endOfArgument?_of_alike h hend
    cases hbehind
    exact ⟨[front'], scanArguments?_last hend', .cons hfront .nil⟩
  | case3 s front rest hend ih =>
    obtain ⟨more, hmore, rfl⟩ := Option.map_eq_some_iff.mp hs
    obtain ⟨⟨front', behind'⟩, hend', hfront, hbehind⟩ := endOfArgument?_of_alike h hend
    cases hbehind with
    | some hrest =>
      obtain ⟨more', hmore', hmores⟩ := ih hrest hmore
      exact ⟨front' :: more', by rw [scanArguments?_comma hend', hmore']; rfl, .cons hfront hmores⟩

/-- Alike texts that are the same when they are joined are the same one by one. -/
theorem eq_of_intercalate_eq (h : List.Forall₂ Alike raws raws')
    (heq : [','].intercalate raws = [','].intercalate raws') : raws = raws' := by
  have hpieces : raws.flatMap (pieces ',') = raws'.flatMap (pieces ',') := by
    cases h with
    | nil => rfl
    | cons =>
      rw [← pieces_intercalate (List.cons_ne_nil _ _), heq, pieces_intercalate (List.cons_ne_nil _ _)]
  clear heq
  induction h with
  | nil => rfl
  | @cons a a' _ _ hfirst _ ih =>
    rw [List.flatMap_cons, List.flatMap_cons] at hpieces
    have hlength : (pieces ',' a).length = (pieces ',' a').length := by
      simpa using congrArg List.length hfirst
    obtain ⟨hsame, hrest⟩ := List.append_inj hpieces hlength
    rw [← intercalate_pieces ',' a, hsame, intercalate_pieces, ih hrest]

/-- Where arguments are changed at their blanks, each remains an argument. -/
theorem scanArguments?_intercalate (hs : scanArguments? s = some raws) (h : List.Forall₂ Alike raws raws') :
    scanArguments? ([','].intercalate raws') = some raws' := by
  have halike : Alike s ([','].intercalate raws') := by
    rw [← intercalate_scanArguments? hs]
    exact alike_intercalate h
  obtain ⟨found, hfound, hraws⟩ := scanArguments?_of_alike halike hs
  have hsame : List.Forall₂ Alike found raws' :=
    forall₂_alike_iff.mpr ((forall₂_alike_iff.mp hraws).symm.trans (forall₂_alike_iff.mp h))
  rw [hfound, eq_of_intercalate_eq hsame (intercalate_scanArguments? hfound)]

end Alike

/-! ## All arguments -/

section Arguments

variable {s t w : List Char} {raws raws' : List (List Char)}

/-- What is alike to a blank text is blank. -/
theorem Alike.blank (h : Alike s t) (hs : trim s = []) : trim t = [] := by
  have hcomma : ',' ∉ s := fun hmem => absurd (trim_eq_nil_iff.mp hs _ hmem) (by decide)
  rw [Alike, pieces_of_not_mem hcomma, List.map_singleton, hs, eq_comm, List.map_eq_singleton_iff] at h
  obtain ⟨piece, hpieces, hpiece⟩ := h
  rw [← intercalate_pieces ',' t, hpieces, List.intercalate_singleton, hpiece]

theorem Alike.blank_iff (h : Alike s t) : trim s = [] ↔ trim t = [] := ⟨h.blank, h.symm.blank⟩

/-- **Arguments that are changed at their blanks come back as they are changed**, trimmed. -/
theorem splitArguments_intercalate (hs : scanArguments? s = some raws) (h : List.Forall₂ Alike raws raws') :
    splitArguments ([','].intercalate raws') = if trim s = [] then some [] else some (raws'.map trim) := by
  have halike : Alike s ([','].intercalate raws') := by
    rw [← intercalate_scanArguments? hs]
    exact alike_intercalate h
  rw [splitArguments, groups?_eq, scanArguments?_intercalate hs h]
  simp only [List.isEmpty_iff, halike.blank_iff, Option.map_some]

theorem splitArguments_of_scan (hs : scanArguments? s = some raws) :
    splitArguments s = if trim s = [] then some [] else some (raws.map trim) := by
  rw [splitArguments, groups?_eq, hs]
  simp only [List.isEmpty_iff, Option.map_some]

/-- Blanks at the ends of arguments do not count. -/
theorem splitArguments_congr (hs : scanArguments? s = some raws) (h : raws.map trim = raws'.map trim) :
    splitArguments ([','].intercalate raws') = splitArguments s := by
  have halike : List.Forall₂ Alike raws raws' := by
    rw [← List.forall₂_eq_eq_eq, List.forall₂_map_left_iff, List.forall₂_map_right_iff] at h
    exact h.imp fun _ _ => Alike.of_trim
  rw [splitArguments_intercalate hs halike, splitArguments_of_scan hs, h]

/-- A text that is cut in vain is so with other blanks around it. -/
theorem splitArguments_of_scan_none (hs : scanArguments? s = none) (h : trim s = trim t) :
    splitArguments t = splitArguments s := by
  have ht : scanArguments? t = none := by
    cases ht : scanArguments? t with
    | none => rfl
    | some found =>
      obtain ⟨found', hfound, -⟩ := scanArguments?_of_alike (Alike.of_trim h.symm) ht
      rw [hs] at hfound
      cases hfound
  rw [splitArguments, splitArguments, groups?_eq, groups?_eq, hs, ht, h]

theorem splitArguments_blank_left (hw : ∀ c ∈ w, isBlank c = true) (s : List Char) :
    splitArguments (w ++ s) = splitArguments s := by
  cases hs : scanArguments? s with
  | none => exact splitArguments_of_scan_none hs (trim_append_of_blank hw s).symm
  | some raws =>
    obtain ⟨first, more, rfl⟩ := List.exists_cons_of_ne_nil (scanArguments?_ne_nil hs)
    have htext : w ++ s = [','].intercalate ((w ++ first) :: more) := by
      rw [← intercalate_scanArguments? hs]
      cases more <;> simp [List.intercalate_cons_cons]
    rw [htext, splitArguments_congr hs]
    simp [trim_append_of_blank hw]

theorem intercalate_append_right (front : List (List Char)) (last w : List Char) :
    [','].intercalate (front ++ [last ++ w]) = [','].intercalate (front ++ [last]) ++ w := by
  induction front with
  | nil => simp
  | cons first front ih =>
    have hne (u : List Char) : front ++ [u] ≠ [] := by simp
    rw [List.cons_append, List.cons_append, List.intercalate_cons_of_ne_nil (hne _), ih,
      List.intercalate_cons_of_ne_nil (hne _)]
    simp only [List.append_assoc]

theorem splitArguments_blank_right (hw : ∀ c ∈ w, isBlank c = true) (s : List Char) :
    splitArguments (s ++ w) = splitArguments s := by
  cases hs : scanArguments? s with
  | none => exact splitArguments_of_scan_none hs (trim_append_blank hw s).symm
  | some raws =>
    obtain ⟨front, last, rfl⟩ := (List.eq_nil_or_concat raws).resolve_left (scanArguments?_ne_nil hs)
    rw [List.concat_eq_append] at hs
    have htext : s ++ w = [','].intercalate (front ++ [last ++ w]) := by
      rw [← intercalate_scanArguments? hs, intercalate_append_right]
    rw [htext, splitArguments_congr hs]
    simp [trim_append_blank hw]

theorem splitArguments_trimRight (s : List Char) : splitArguments (trimRight s) = splitArguments s := by
  have hs : s = trimRight s ++ (s.reverse.takeWhile isBlank).reverse := by
    rw [trimRight, ← List.reverse_append, List.takeWhile_append_dropWhile, List.reverse_reverse]
  have hblank : ∀ c ∈ (s.reverse.takeWhile isBlank).reverse, isBlank c = true :=
    fun c hc => List.mem_takeWhile_imp (List.mem_reverse.mp hc)
  conv_rhs => rw [hs]
  rw [splitArguments_blank_right hblank]

end Arguments

/-! ## Commas inside an argument -/

section Inside

variable {s a b : List Char} {cut : Cut}

/-- A text with a bracket in it is not blank. -/
theorem not_blank_of_bracketDepth (h : bracketDepth s ≠ 0) : trim s ≠ [] := by
  intro hs
  have hblank := trim_eq_nil_iff.mp hs
  exact h (bracketDepth_of_not_mem (fun hc => absurd (hblank _ hc) (by decide))
    (fun hc => absurd (hblank _ hc) (by decide)))

/-- A regular expression that goes on behind a comma has something on either side of it. -/
theorem inside_slashes (hhead : (trim s).head? = some '/') (hcloses : closesSlashed (trim s) = true)
    (hcut : s = a ++ ',' :: b) : isSlashed (trim s) = true ∧ trim a ≠ [] ∧ trim b ≠ [] := by
  have hlast : (trim s).getLast? = some '/' := by
    rw [closesSlashed, Bool.and_eq_true, beq_iff_eq] at hcloses
    exact hcloses.2
  rw [hcut, closesSlashed_comma, beq_iff_eq] at hcloses
  have hb : trim b ≠ [] := by
    intro hnil
    rw [hnil] at hcloses
    cases hcloses
  have ha : trim a ≠ [] := by
    intro hnil
    rw [hcut, trim_append_of_blank (trim_eq_nil_iff.mp hnil), trim_cons (by decide)] at hhead
    cases hhead
  refine ⟨isSlashed_iff.mpr ⟨?_, hhead, hlast⟩, ha, hb⟩
  have hlong := List.length_pos_of_ne_nil ha
  have hlong' := List.length_pos_of_ne_nil hb
  have hleft : (trim a).length ≤ (trimLeft a).length := trimRight_length_le (trimLeft a)
  have hright : (trim b).length ≤ (trimRight b).length := by
    rw [← trim_trimRight]
    exact trim_length_le _
  rw [hcut, trim_around (by decide), List.length_append, List.length_cons]
  omega

/-- A balanced text that goes on behind a comma with a bracket open has one on either side of it. -/
theorem inside_brackets (hbalanced : Balanced s) (hcut : s = a ++ ',' :: b) (hopen : bracketDepth a ≠ 0) :
    0 < bracketDepth a ∧ trim a ≠ [] ∧ trim b ≠ [] := by
  have hdepth : bracketDepth a + bracketDepth b = 0 := by
    have hlevel := hbalanced.level
    rwa [hcut, bracketDepth_append, bracketDepth_cons, show bracketWeight ',' = 0 from rfl,
      Int.zero_add] at hlevel
  have hpositive : 0 ≤ bracketDepth a := hbalanced.opened ⟨',' :: b, hcut.symm⟩
  exact ⟨by omega, not_blank_of_bracketDepth hopen, not_blank_of_bracketDepth (by omega)⟩

/-- An argument goes on behind a comma only where it is a regular expression between slashes, or where a
bracket is open; and there is something on either side of the comma. -/
theorem inside_of_endOfArgument? (h : endOfArgument? s = some cut) (hcut : cut.front = a ++ ',' :: b) :
    (isSlashed (trim cut.front) = true ∨ 0 < bracketDepth a) ∧ trim a ≠ [] ∧ trim b ≠ [] := by
  rcases Option.or_eq_some_iff.mp h with hslashed | ⟨-, hlevel⟩
  · split at hslashed
    · rename_i hopens
      obtain ⟨htext, hcloses⟩ := firstCut?_eq_some hslashed
      have hhead := startsSlashed_iff_head?.mp (startsSlashed_of_opensSlashed htext hopens)
      obtain ⟨hregex, hsides⟩ := inside_slashes hhead hcloses hcut
      exact ⟨.inl hregex, hsides⟩
    · cases hslashed
  · have hopen : bracketDepth a ≠ 0 := by
      simpa using firstCut?_first (Option.filter_eq_some_iff.mp hlevel).1 hcut
    obtain ⟨hpositive, hsides⟩ := inside_brackets (balanced_of_levelCut? hlevel) hcut hopen
    exact ⟨.inr hpositive, hsides⟩

end Inside

end FieldCheck
