import FieldCheck.Evaluation.Fault
import FieldCheck.Proofs.Reread
import FieldCheck.Proofs.Scanning

/-!
# The normal form of a text

A text that is read and written again has a normal form: the written text gives the same rules, and is
written as itself.

* `Text.eq_append_trim`, `closesEarly_of_trim` — what trimming takes off decides nothing.
* `ReadArgument` — all that is to be known of an argument as the reader leaves it;
  `readArgument_of_splitArguments`.
* `Rule.ReadFromText`, `ofText_readFromText` — the same of the rules of a text.
* `IsWritable` — the texts that may be written; `ReadArgument.isPlainArgument_iff`.
* `write_eq_error` — what is wrong where nothing is written.

Principal result: `text_normalForm`.
-/

set_option autoImplicit false

namespace FieldCheck

open Text

/-! ## Blanks around a text -/

section Blanks

variable {s : List Char} {c : Char}

/-- Trimming takes off blanks on both sides and nothing else. -/
theorem Text.eq_append_trim (s : List Char) :
    ∃ a b, s = a ++ (trim s ++ b) ∧ (∀ c ∈ a, isBlank c = true) ∧ ∀ c ∈ b, isBlank c = true := by
  have hright (t : List Char) : t = trimRight t ++ (t.reverse.takeWhile isBlank).reverse := by
    rw [trimRight, ← List.reverse_append, List.takeWhile_append_dropWhile, List.reverse_reverse]
  refine ⟨s.takeWhile isBlank, ((trimLeft s).reverse.takeWhile isBlank).reverse, ?_, ?_, ?_⟩
  · rw [trim, ← hright, trimLeft, List.takeWhile_append_dropWhile]
  · exact fun c hc => List.mem_takeWhile_imp hc
  · exact fun c hc => List.mem_takeWhile_imp (List.mem_reverse.mp hc)

theorem Text.mem_of_mem_trim (h : c ∈ trim s) : c ∈ s := by
  obtain ⟨a, b, hs, -⟩ := eq_append_trim s
  rw [hs]
  exact List.mem_append_right _ (List.mem_append_left _ h)

/-- What trimming leaves cannot end earlier than the text itself. -/
theorem closesEarly_of_trim (h : ClosesEarly (trim s)) : ClosesEarly s := by
  obtain ⟨x, y, hxy, hclose⟩ := h
  obtain ⟨a, b, hs, ha, -⟩ := Text.eq_append_trim s
  refine ⟨a ++ x, y ++ b, ?_, by rwa [trim_append_of_blank ha]⟩
  rw [hs, hxy]
  simp

end Blanks

/-! ## Arguments as the reader leaves them -/

/-- No cut in front of the first one passes the test. -/
theorem firstCut?_first {stop : List Char → Bool} {s a b : List Char} {cut : Cut}
    (h : firstCut? stop s = some cut) (hcut : cut.front = a ++ ',' :: b) : stop a = false := by
  induction s generalizing stop a cut with
  | nil =>
    rw [firstCut?_nil] at h
    split at h
    · cases h
      simp at hcut
    · cases h
  | cons c s ih =>
    -- the cut is that of the rest with the character in front, unless it stands at the very start
    have hpush {cut' : Cut} (hrest : firstCut? (fun t => stop (c :: t)) s = some cut')
        (hfront : c :: cut'.front = a ++ ',' :: b) (hstart : c = ',' → stop [] = false) :
        stop a = false := by
      cases a with
      | nil => exact hstart (List.cons.inj hfront).1
      | cons d a =>
        obtain ⟨rfl, hlater⟩ := List.cons.inj hfront
        have hnot := ih hrest hlater
        exact hnot
    by_cases hc : c = ','
    · subst hc
      rw [firstCut?_comma] at h
      split at h
      · cases h
        simp at hcut
      · rename_i hstart
        obtain ⟨cut', hrest, rfl⟩ := Option.map_eq_some_iff.mp h
        exact hpush hrest hcut fun _ => Bool.eq_false_iff.mpr hstart
    · rw [firstCut?_cons hc] at h
      obtain ⟨cut', hrest, rfl⟩ := Option.map_eq_some_iff.mp h
      exact hpush hrest hcut fun heq => absurd heq hc

section Ends

variable {s : List Char} {cut : Cut}

theorem bracketDepth_of_not_mem {t : List Char} (hopen : '[' ∉ t) (hclose : ']' ∉ t) :
    bracketDepth t = 0 := by
  induction t with
  | nil => rfl
  | cons c t ih =>
    simp only [List.mem_cons, not_or] at hopen hclose
    rw [bracketDepth_cons, ih hopen.2 hclose.2, bracketWeight, if_neg (Ne.symm hopen.1),
      if_neg (Ne.symm hclose.1)]
    rfl

/-- A cut has the first piece of the text in front of it, or more. -/
theorem Cut.front_cases (h : cut.text = s) :
    cut.front = s.takeWhile (· ≠ ',') ∨ ∃ b, cut.front = s.takeWhile (· ≠ ',') ++ ',' :: b := by
  have htake {p : List Char} (hp : ',' ∉ p) (rest : List Char) :
      (p ++ rest).takeWhile (· ≠ ',') = p ++ rest.takeWhile (· ≠ ',') := by
    refine List.takeWhile_append_of_pos fun c hc => decide_eq_true fun heq => hp (heq ▸ hc)
  obtain ⟨front, behind⟩ := cut
  subst h
  by_cases hc : ',' ∈ front
  · obtain ⟨p, b, rfl, hp⟩ := List.eq_append_cons_of_mem hc
    refine Or.inr ⟨b, ?_⟩
    rw [Cut.text, List.append_assoc, htake hp]
    simp
  · left
    rw [Cut.text, htake hc]
    cases behind <;> simp

/-- What opens as a regular expression does so in front of each cut. -/
theorem startsSlashed_of_opensSlashed (hcut : cut.text = s) (h : opensSlashed s = true) :
    startsSlashed cut.front = true := by
  rw [opensSlashed, beq_iff_eq] at h
  rw [startsSlashed_eq, beq_iff_eq]
  rcases Cut.front_cases hcut with hfront | ⟨b, hfront⟩
  · rw [hfront, h]
  · rw [hfront, List.find?_append, h, Option.some_or]

/-- Where a text is cut with no bracket open, a slash at the start belongs to the first piece: a first
piece of blanks would be a part of its own. -/
theorem opensSlashed_of_startsSlashed (hcut : levelCut? 0 s = some cut)
    (h : startsSlashed cut.front = true) : opensSlashed s = true := by
  rw [startsSlashed_eq, beq_iff_eq] at h
  rw [opensSlashed, beq_iff_eq]
  rcases Cut.front_cases (text_of_levelCut? hcut) with hfront | ⟨b, hfront⟩
  · rw [← hfront, h]
  · have hdepth := firstCut?_first (Option.filter_eq_some_iff.mp hcut).1 hfront
    rw [hfront, List.find?_append] at h
    cases hfind : (s.takeWhile (· ≠ ',')).find? fun c => !isBlank c with
    | some c =>
      rw [hfind, Option.some_or] at h
      exact h
    | none =>
      have hblank : ∀ c ∈ s.takeWhile (· ≠ ','), isBlank c = true := by
        simpa using List.find?_eq_none.mp hfind
      have hzero : bracketDepth (s.takeWhile (· ≠ ',')) = 0 :=
        bracketDepth_of_not_mem (fun hc => absurd (hblank _ hc) (by decide))
          (fun hc => absurd (hblank _ hc) (by decide))
      rw [hzero] at hdepth
      cases hdepth

end Ends

/-- What is known of an argument as the reader leaves it. -/
structure ReadArgument (t : List Char) : Prop where
  trim_eq : trim t = t
  /-- It belongs to one rule. -/
  bar : '|' ∉ t
  /-- A regular expression goes on to the first comma at which it can end. -/
  late : isSlashed t = true → ¬ClosesEarly t
  /-- Only a regular expression and brackets keep commas together. -/
  comma : t.head? ≠ some '/' → '[' ∉ t → ']' ∉ t → ',' ∉ t

theorem isSlashed_iff {t : List Char} : isSlashed t = true ↔
    2 < t.length ∧ t.head? = some '/' ∧ t.getLast? = some '/' := by
  simp [isSlashed, and_assoc]

section Arguments

variable {s t front : List Char} {cut : Cut}

theorem startsSlashed_iff_head? : startsSlashed s = true ↔ (trim s).head? = some '/' := by
  simp [startsSlashed]

theorem closesSlashed_of_isSlashed (h : isSlashed t = true) : closesSlashed t = true := by
  obtain ⟨hlen, -, hlast⟩ := isSlashed_iff.mp h
  simp only [closesSlashed, hlast, beq_self_eq_true, Bool.and_true, decide_eq_true_eq]
  omega

/-- A regular expression that ends an argument could not have ended earlier. -/
theorem late_of_endOfArgument? (h : endOfArgument? s = some cut)
    (hslashed : isSlashed (trim cut.front) = true) : ¬ClosesEarly (trim cut.front) := by
  intro hearly
  obtain ⟨a, b, hab, hclose⟩ := closesEarly_of_trim hearly
  have hends : closesSlashed (trim cut.front) = true := closesSlashed_of_isSlashed hslashed
  rcases Option.or_eq_some_iff.mp h with hfirst | ⟨hnone, hlevel⟩
  · split at hfirst
    · have hnot := firstCut?_first hfirst hab
      rw [hclose] at hnot
      cases hnot
    · cases hfirst
  · -- the search for the end of a regular expression would have found this cut at the latest
    have hopens : opensSlashed s = true := opensSlashed_of_startsSlashed hlevel
      (startsSlashed_iff_head?.mpr (isSlashed_iff.mp hslashed).2.1)
    rw [if_pos hopens, firstCut?, List.find?_eq_none] at hnone
    exact hnone cut (mem_cuts_iff.mpr (text_of_levelCut? hlevel)) hends

/-- An argument that is no regular expression and holds no bracket ends at the first comma. -/
theorem comma_of_endOfArgument? (h : endOfArgument? s = some cut)
    (hhead : (trim cut.front).head? ≠ some '/') (hopen : '[' ∉ trim cut.front)
    (hclose : ']' ∉ trim cut.front) : ',' ∉ trim cut.front := by
  intro hcomma
  rcases Option.or_eq_some_iff.mp h with hfirst | ⟨-, hlevel⟩
  · split at hfirst
    · rename_i hopens
      exact hhead (startsSlashed_iff_head?.mp
        (startsSlashed_of_opensSlashed (firstCut?_eq_some hfirst).1 hopens))
    · cases hfirst
  · obtain ⟨p, b, hfront, -⟩ := List.eq_append_cons_of_mem (mem_of_mem_trim hcomma)
    have hdepth := firstCut?_first (Option.filter_eq_some_iff.mp hlevel).1 hfront
    -- a bracket is not blank, so that trimming takes none off
    have hbracket {c : Char} (hblank : isBlank c = false) (hc : c ∈ p) : c ∈ trim cut.front := by
      obtain ⟨before, behind, hs, hbefore, hbehind⟩ := Text.eq_append_trim cut.front
      have hmem : c ∈ cut.front := by simp [hfront, hc]
      rw [hs, List.mem_append, List.mem_append] at hmem
      rcases hmem with hmem | hmem | hmem
      · rw [hbefore c hmem] at hblank
        cases hblank
      · exact hmem
      · rw [hbehind c hmem] at hblank
        cases hblank
    have hzero : bracketDepth p = 0 :=
      bracketDepth_of_not_mem (fun hc => hopen (hbracket (by decide) hc))
        (fun hc => hclose (hbracket (by decide) hc))
    rw [hzero] at hdepth
    cases hdepth

/-- Each argument that is scanned is a part of the text and ends where an argument may. -/
theorem mem_scanArguments? {raw : List (List Char)} (h : scanArguments? s = some raw)
    (hfront : front ∈ raw) :
    front ⊆ s ∧ ∃ rest behind, endOfArgument? rest = some ⟨front, behind⟩ := by
  fun_induction scanArguments? s generalizing raw with
  | case1 s hend => cases h
  | case2 s last hend =>
    cases h
    obtain rfl := List.mem_singleton.mp hfront
    exact ⟨by simp [← text_of_endOfArgument? hend, Cut.text], s, none, hend⟩
  | case3 s first rest hend ih =>
    obtain ⟨more, hmore, rfl⟩ := Option.map_eq_some_iff.mp h
    have htext : first ++ ',' :: rest = s := text_of_endOfArgument? hend
    rcases List.mem_cons.mp hfront with rfl | hfront
    · exact ⟨by simp [← htext], s, some rest, hend⟩
    · obtain ⟨hsubset, hends⟩ := ih hmore hfront
      refine ⟨fun c hc => ?_, hends⟩
      rw [← htext]
      exact List.mem_append_right _ (List.mem_cons_of_mem _ (hsubset hc))

theorem readArgument_of_splitArguments {args : List (List Char)} (hbar : '|' ∉ s)
    (h : splitArguments s = some args) : ∀ t ∈ args, ReadArgument t := by
  intro t ht
  rw [splitArguments, groups?_eq] at h
  split at h
  · cases h
    cases ht
  · obtain ⟨raw, hraw, rfl⟩ := Option.map_eq_some_iff.mp h
    obtain ⟨front, hfront, rfl⟩ := List.mem_map.mp ht
    obtain ⟨hsubset, rest, behind, hend⟩ := mem_scanArguments? hraw hfront
    exact
      { trim_eq := trim_trim front
        bar := fun hc => hbar (hsubset (mem_of_mem_trim hc))
        late := late_of_endOfArgument? hend
        comma := comma_of_endOfArgument? hend }

end Arguments

/-! ## Rules read from a text -/

/-- What is known of a rule that was read from a text. -/
structure Rule.ReadFromText (r : Rule Value) : Prop where
  parsed : r.Parsed
  args : ∀ a ∈ r.args, ∃ s : String, a = .text s ∧ ReadArgument s.toList

section Rules

variable {s segment argText : List Char} {r : Rule Value} {c : Char}

theorem mem_of_mem_takeBail (h : c ∈ (takeBail s).2) : c ∈ s := by
  unfold takeBail at h
  split at h
  · exact List.mem_cons_of_mem _ (mem_of_mem_trim h)
  · exact h

theorem splitColon_subset (h : (splitColon s).2 = some argText) : argText ⊆ s := by
  induction s with
  | nil => cases h
  | cons c s ih =>
    rw [splitColon] at h
    split at h
    · cases h
      exact List.subset_cons_self _ _
    · exact List.subset_cons_of_subset _ (ih h)

theorem Rule.readFromText_of_read (hbar : '|' ∉ segment) (h : Rule.read segment = .ok r) :
    r.ReadFromText := by
  unfold Rule.read at h
  dsimp only at h
  split at h
  · cases h
  · rename_i args hargs
    split at h
    · cases h
    · rename_i hname
      cases h
      have hread : ∀ t ∈ args, ReadArgument t := by
        cases hcolon : (splitColon (takeBail (trim segment)).2).2 with
        | none =>
          rw [hcolon] at hargs
          cases hargs
          exact fun t ht => nomatch ht
        | some argText =>
          rw [hcolon] at hargs
          refine readArgument_of_splitArguments (fun hc => hbar ?_) hargs
          exact mem_of_mem_trim (mem_of_mem_takeBail (splitColon_subset hcolon hc))
      refine ⟨⟨by simpa using requireName_ok_iff.mp hname, ?_⟩, fun a ha => ?_⟩
      · simp [List.any_map, Function.comp_def, Value.isRegex]
      · obtain ⟨t, ht, rfl⟩ := List.mem_map.mp ha
        exact ⟨_, rfl, by simpa using hread t ht⟩

end Rules

theorem ofText_readFromText {s : String} {spec : Spec} (h : Spec.ofText s = .ok spec) :
    ∀ r ∈ spec.rules, r.ReadFromText := by
  unfold Spec.ofText at h
  dsimp only at h
  split at h
  · cases h
    exact fun r hr => nomatch hr
  · obtain ⟨rules, hrules, rfl⟩ := map_ok_iff.mp h
    intro r hr
    obtain ⟨segment, hsegment, hread⟩ :=
      exists_of_forall₂ ((readSegments_ok_iff s 0).mp hrules).flip hr
    exact Rule.readFromText_of_read (not_mem_of_mem_pieces hsegment) hread

/-! ## Texts that may be written -/

/-- A text between slashes of more than two characters, or one that is not empty, does not begin with a
slash and holds no bracket. -/
def IsWritable (t : List Char) : Prop :=
  (2 < t.length ∧ t.head? = some '/' ∧ t.getLast? = some '/') ∨
    (t ≠ [] ∧ t.head? ≠ some '/' ∧ '[' ∉ t ∧ ']' ∉ t)

namespace ReadArgument

variable {t : List Char}

/-- Of what the reader leaves, just these texts have a written form. -/
theorem isPlainArgument_iff (h : ReadArgument t) : isPlainArgument t = true ↔ IsWritable t := by
  constructor
  · intro hplain
    rw [isPlainArgument, Bool.or_eq_true, Bool.and_eq_true, isSlashed_iff] at hplain
    rcases hplain with ⟨hslashed, -⟩ | hplain
    · exact Or.inl hslashed
    · simp only [Bool.and_eq_true, Bool.not_eq_true', List.isEmpty_eq_false_iff, bne_iff_ne] at hplain
      obtain ⟨⟨⟨hne, -⟩, hhead⟩, hreserved⟩ := hplain
      have hnot := List.any_eq_false.mp hreserved
      exact Or.inr ⟨hne, hhead, fun hc => hnot _ hc (by decide), fun hc => hnot _ hc (by decide)⟩
  · rintro (hslashed | ⟨hne, hhead, hopen, hclose⟩)
    · simp [isPlainArgument, isSlashed_iff.mpr hslashed, h.bar]
    · have hcomma := h.comma hhead hopen hclose
      have hreserved : t.any isReserved = false := by
        refine List.any_eq_false.mpr fun c hc => ?_
        have hbar : c ≠ '|' := fun heq => h.bar (heq ▸ hc)
        have hcomma : c ≠ ',' := fun heq => hcomma (heq ▸ hc)
        have hopen : c ≠ '[' := fun heq => hopen (heq ▸ hc)
        have hclose : c ≠ ']' := fun heq => hclose (heq ▸ hc)
        simp [isReserved, hbar, hcomma, hopen, hclose]
      simp [isPlainArgument, hne, h.trim_eq, hhead, hreserved]

/-- A written form of what the reader leaves is kept whole. -/
theorem not_closesEarly (h : ReadArgument t) (hplain : isPlainArgument t = true) :
    ¬ClosesEarly t := by
  rw [isPlainArgument, Bool.or_eq_true, Bool.and_eq_true] at hplain
  rcases hplain with ⟨hslashed, -⟩ | hplain
  · exact h.late hslashed
  · rw [Bool.and_eq_true, Bool.not_eq_true'] at hplain
    exact not_closesEarly_plain hplain.2

end ReadArgument

/-! ## Writing -/

theorem mapM_eq_error {ε α β : Type} {f : α → Except ε β} {xs : List α} {e : ε}
    (h : xs.mapM f = .error e) : ∃ x ∈ xs, f x = .error e := by
  induction xs with
  | nil => cases h
  | cons x xs ih =>
    rw [List.mapM_cons] at h
    cases hx : f x with
    | error e' =>
      rw [hx] at h
      cases h
      exact ⟨x, List.mem_cons_self, hx⟩
    | ok y =>
      rw [hx] at h
      cases hxs : xs.mapM f with
      | error e' =>
        rw [hxs] at h
        cases h
        obtain ⟨x', hx', hfault⟩ := ih hxs
        exact ⟨x', List.mem_cons_of_mem _ hx', hfault⟩
      | ok ys =>
        rw [hxs] at h
        cases h

theorem map_eq_error {ε α β : Type} {f : α → β} {x : Except ε α} {e : ε}
    (h : x.map f = .error e) : x = .error e := by
  cases x with
  | error e' =>
    cases h
    rfl
  | ok a => cases h

/-- Where nothing is written, some argument has no written form. -/
theorem write_eq_error {spec : Spec} {fault : SpecFault} (h : spec.write = .error fault) :
    ∃ r ∈ spec.rules, ∃ a ∈ r.args, a.argumentForm? = none ∧ fault = .noForm r.name a.literalText := by
  obtain ⟨r, hr, hrule⟩ := mapM_eq_error (map_eq_error h)
  obtain ⟨a, ha, hargument⟩ := mapM_eq_error (map_eq_error hrule)
  refine ⟨r, hr, a, ha, ?_⟩
  unfold Spec.writeArgument at hargument
  split at hargument
  · cases hargument
  · rename_i hform
    cases hargument
    exact ⟨hform, rfl⟩

theorem argumentForm?_text {s : String} :
    (∃ t, Value.argumentForm? (.text s) = some t) ↔ isPlainArgument s.toList = true := by
  rw [Value.argumentForm?]
  split <;> simp_all

section Written

variable {s text : String} {spec : Spec} {fault : SpecFault} {r : Rule Value} {a : Value}

/-- Where something is written, every argument has a written form. -/
theorem argumentForm?_of_write (h : spec.write = .ok text) (hr : r ∈ spec.rules) (ha : a ∈ r.args) :
    ∃ t, a.argumentForm? = some t := by
  obtain ⟨fs, hfs, -⟩ := write_ok_iff.mp h
  obtain ⟨f, -, hrule⟩ := exists_of_forall₂ hfs hr
  obtain ⟨ts, hts, -⟩ := writeRule_ok_iff.mp hrule
  obtain ⟨t, -, hform⟩ := exists_of_forall₂ hts ha
  exact ⟨t, hform⟩

theorem readArgument_of_write (h : Spec.ofText s = .ok spec) (hwrite : spec.write = .ok text)
    (hr : r ∈ spec.rules) (ha : a ∈ r.args) :
    ∃ t : String, a = .text t ∧ ReadArgument t.toList ∧ isPlainArgument t.toList = true := by
  obtain ⟨t, rfl, ht⟩ := (ofText_readFromText h r hr).args a ha
  exact ⟨t, rfl, ht, argumentForm?_text.mp (argumentForm?_of_write hwrite hr ha)⟩

/-- Where a text has been read and nothing is written, an argument is to blame that may not be. -/
theorem not_isWritable_of_write (h : Spec.ofText s = .ok spec) (herror : spec.write = .error fault) :
    ∃ r ∈ spec.rules, ∃ t, Value.text t ∈ r.args ∧ ¬IsWritable t.toList ∧
      fault = .noForm r.name (Value.text t).literalText := by
  obtain ⟨r, hr, a, ha, hform, rfl⟩ := write_eq_error herror
  obtain ⟨t, rfl, ht⟩ := (ofText_readFromText h r hr).args a ha
  refine ⟨r, hr, t, ha, fun hwritable => ?_, rfl⟩
  obtain ⟨u, hu⟩ := argumentForm?_text.mpr (ht.isPlainArgument_iff.mpr hwritable)
  rw [hform] at hu
  cases hu

theorem keepsWhole_of_write (h : Spec.ofText s = .ok spec) (hwrite : spec.write = .ok text) :
    spec.KeepsWhole := by
  intro r hr t ht
  obtain ⟨u, heq, hu, hplain⟩ := readArgument_of_write h hwrite hr ht
  cases heq
  exact hu.not_closesEarly hplain

/-- Two texts whose rules are the same but for what a written text cannot tell have the same rules. -/
theorem rules_eq_of_ofText {s' : String} {spec' : Spec} (h : Spec.ofText s = .ok spec)
    (h' : Spec.ofText s' = .ok spec') (hsame : List.Forall₂ SameRule spec'.rules spec.rules) :
    spec.rules = spec'.rules := by
  have hread := ofText_readFromText h
  have hread' := ofText_readFromText h'
  have htexts {rules : List (Rule Value)} (hrules : ∀ r ∈ rules, r.ReadFromText) :
      ∀ r ∈ rules, ∀ a ∈ r.args, ∃ t, a = .text t := by
    intro r hr a ha
    obtain ⟨t, ht, -⟩ := (hrules r hr).args a ha
    exact ⟨t, ht⟩
  have hself : List.Forall₂ SameRule spec.rules spec.rules := by
    refine List.forall₂_same.mpr fun r hr => ⟨rfl, rfl, List.forall₂_same.mpr fun a ha => ?_⟩
    obtain ⟨t, rfl⟩ := htexts hread r hr a ha
    exact ⟨t, .text t, rfl⟩
  exact rules_eq_of_same (fun r hr => (hread r hr).parsed) (fun r hr => (hread' r hr).parsed)
    (htexts hread) (htexts hread') hself hsame

end Written

/-- **A text that is read and written again is in normal form.**  It is written exactly if all its
arguments may be, and else some argument is to blame; the written text has the same rules and is
written as itself. -/
theorem text_normalForm {s : String} {spec : Spec} (h : Spec.ofValue (.text s) = .ok spec) :
    ((∃ text, spec.write = .ok text) ↔
      ∀ r ∈ spec.rules, ∀ a ∈ r.args, ∃ t : String, a = .text t ∧ IsWritable t.toList) ∧
    (∀ fault, spec.write = .error fault → (Fault.spec fault).record.kind = .parse ∧
      ∃ r ∈ spec.rules, ∃ t, Value.text t ∈ r.args ∧ ¬IsWritable t.toList ∧
        fault = .noForm r.name (Value.text t).literalText) ∧
    ∀ text, spec.write = .ok text → ∃ back, Spec.ofValue (.text text) = .ok back ∧
      back.rules = spec.rules ∧ back.write = .ok text := by
  refine ⟨⟨?_, fun hall => ?_⟩, fun fault herror => ⟨rfl, not_isWritable_of_write h herror⟩,
    fun text hwrite => ?_⟩
  · rintro ⟨text, hwrite⟩ r hr a ha
    obtain ⟨t, rfl, ht, hplain⟩ := readArgument_of_write h hwrite hr ha
    exact ⟨t, rfl, ht.isPlainArgument_iff.mp hplain⟩
  · cases hwrite : spec.write with
    | ok text => exact ⟨text, rfl⟩
    | error fault =>
      obtain ⟨r, hr, t, ht, hnot, -⟩ := not_isWritable_of_write h hwrite
      obtain ⟨u, heq, hu⟩ := hall r hr _ ht
      cases heq
      exact absurd hu hnot
  · have hnames : ∀ r ∈ spec.rules, isName r.name.toList = true := fun r hr =>
      (ofText_readFromText h r hr).parsed.name
    obtain ⟨back, hback, hsame⟩ :=
      (ofText_written_iff hnames hwrite).mpr (keepsWhole_of_write h hwrite)
    have hrules : back.rules = spec.rules := rules_eq_of_ofText hback h hsame
    refine ⟨back, hback, hrules, ?_⟩
    rw [Spec.write, hrules]
    exact hwrite

/-- A rule is read part by part. -/
theorem Rule.read_of_splitArguments {segment body name argText : List Char} {bail : Bool}
    {args : List (List Char)} (hbail : takeBail (trim segment) = (bail, body))
    (hcolon : splitColon body = (name, some argText)) (hname : requireName (trim name) = .ok ())
    (hargs : splitArguments argText = some args) :
    Rule.read segment =
      .ok
        { name := String.ofList (trim name)
          args := args.map fun a => .text (String.ofList a)
          isRegex := args.any isSlashed
          bail } := by
  simp only [Rule.read, hbail, hcolon, Option.elim_some, hargs, hname]

/-- A regular expression with a comma and an open bracket in it, and blanks around everything. -/
def gappedText : String := " ^min: 3 ,5 | matches: /a,[b/ ,c "

def gappedSpec : Spec where
  rules :=
    [{ name := "min", args := [.text "3", .text "5"], bail := true },
     { name := "matches", args := [.text "/a,[b/", .text "c"], isRegex := true }]
  source := some gappedText

theorem ofText_gappedText : Spec.ofText gappedText = .ok gappedSpec := by
  have hend : groups? [] = some [] := by simp [groups?]
  have hbounds : splitArguments " 3 ,5".toList = some [['3'], ['5']] := by
    have hfirst : firstGroup? [" 3 ".toList, ['5']] = some (" 3 ".toList, [['5']]) := rfl
    have hlast : firstGroup? [['5']] = some (['5'], []) := rfl
    have hgroups : groups? [" 3 ".toList, ['5']] = some [" 3 ".toList, ['5']] := by
      rw [groups?_cons (by simp) hfirst, groups?_cons (by simp) hlast, hend]
      rfl
    exact congrArg (Option.map (List.map trim)) hgroups
  have hpatterns : splitArguments " /a,[b/ ,c".toList = some ["/a,[b/".toList, ['c']] := by
    have hfirst : firstGroup? [" /a".toList, "[b/ ".toList, ['c']] =
        some (" /a,[b/ ".toList, [['c']]) := rfl
    have hlast : firstGroup? [['c']] = some (['c'], []) := rfl
    have hgroups : groups? [" /a".toList, "[b/ ".toList, ['c']] =
        some [" /a,[b/ ".toList, ['c']] := by
      rw [groups?_cons (by simp) hfirst, groups?_cons (by simp) hlast, hend]
      rfl
    exact congrArg (Option.map (List.map trim)) hgroups
  have hfirst : Rule.read "^min: 3 ,5 ".toList =
      .ok { name := "min", args := [.text "3", .text "5"], bail := true } := by
    rw [Rule.read_of_splitArguments rfl rfl rfl hbounds]
    rfl
  have hsecond : Rule.read " matches: /a,[b/ ,c".toList =
      .ok { name := "matches", args := [.text "/a,[b/", .text "c"], isRegex := true } := by
    rw [Rule.read_of_splitArguments rfl rfl rfl hpatterns]
    rfl
  have hread : readSegments gappedText 0 (pieces '|' (trim gappedText.toList)) =
      .ok gappedSpec.rules := by
    have hpieces : pieces '|' (trim gappedText.toList) =
        ["^min: 3 ,5 ".toList, " matches: /a,[b/ ,c".toList] := rfl
    rw [hpieces]
    simp only [readSegments, hfirst, hsecond, gappedSpec]
  have hblank : (trim gappedText.toList).isEmpty = false := rfl
  simp only [Spec.ofText, hblank, hread]
  rfl

theorem text_normalForm_gapped :
    Spec.ofValue (.text gappedText) = .ok gappedSpec ∧
      gappedSpec.write = .ok "^min:3,5|matches:/a,[b/,c" ∧
      (∀ r ∈ gappedSpec.rules, ∀ a ∈ r.args, ∃ t : String, a = .text t ∧ IsWritable t.toList) ∧
      ∃ back, Spec.ofValue (.text "^min:3,5|matches:/a,[b/,c") = .ok back ∧
        back.rules = gappedSpec.rules ∧ back.write = .ok "^min:3,5|matches:/a,[b/,c" := by
  have hread : Spec.ofValue (.text gappedText) = .ok gappedSpec := ofText_gappedText
  have hwrite : gappedSpec.write = .ok "^min:3,5|matches:/a,[b/,c" := rfl
  obtain ⟨hwritable, -, hback⟩ := text_normalForm hread
  exact ⟨hread, hwrite, hwritable.mp ⟨_, hwrite⟩, hback _ hwrite⟩

end FieldCheck
