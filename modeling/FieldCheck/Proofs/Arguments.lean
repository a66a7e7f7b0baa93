import FieldCheck.Proofs.Trim
import FieldCheck.Spec.Arguments
import FieldCheck.Value.Written

/-!
# Arguments joined by commas

Written arguments are joined by commas and split again.  A plain text holds no comma.  A regular
expression between slashes may hold some, and comes back whole unless it could end earlier.

* `ClosesEarly` — some part of a text in front of one of its commas ends as a regular expression
  does.
* `firstGroup?_written`, `firstGroup?_early` — the first argument that is found where a written one
  stands in front: that one, or a shorter one.
* `splitArguments_intercalate_iff` — written arguments come back exactly if none of them closes
  early.
-/

set_option autoImplicit false

namespace FieldCheck

open Text

variable {s t : List Char} {rest : List (List Char)}

/-- Whether a regular expression that the text begins could end at one of its commas. -/
def ClosesEarly (s : List Char) : Prop :=
  ∃ a b, s = a ++ ',' :: b ∧ closesSlashed (trim a) = true

theorem closesEarly_iff_take : ClosesEarly s ↔
    ∃ i, i < s.length ∧ s[i]? = some ',' ∧ closesSlashed (trim (s.take i)) = true := by
  constructor
  · rintro ⟨a, b, rfl, hclose⟩
    refine ⟨a.length, ?_, by simp, by simpa using hclose⟩
    simp only [List.length_append, List.length_cons]
    omega
  · rintro ⟨i, hi, hcomma, hclose⟩
    refine ⟨s.take i, s.drop (i + 1), ?_, hclose⟩
    rw [List.getElem?_eq_getElem hi, Option.some.injEq] at hcomma
    rw [← hcomma, ← List.drop_eq_getElem_cons hi, List.take_append_drop]

instance : Decidable (ClosesEarly s) := decidable_of_iff _ closesEarly_iff_take.symm

/-! ## The first argument -/

theorem startsSlashed_cons (s : List Char) : startsSlashed ('/' :: s) = true := by
  rw [startsSlashed, trim_cons (by decide)]
  rfl

/-- A regular expression that cannot end earlier takes all its pieces. -/
theorem slashedGroup?_late (before s : List Char) (rest : List (List Char))
    (hclose : closesSlashed (trim (before ++ s)) = true)
    (hlate : ∀ a b, s = a ++ ',' :: b → closesSlashed (trim (before ++ a)) = false) :
    slashedGroup? before (pieces ',' s ++ rest) = some (before ++ s, rest) := by
  by_cases hc : ',' ∈ s
  · obtain ⟨p, s', hs, hp⟩ := List.eq_append_cons_of_mem hc
    have hlen : s'.length < s.length := by
      simp only [hs, List.length_append, List.length_cons]
      omega
    have hnot := hlate p s' hs
    rw [hs] at hclose hlate ⊢
    rw [pieces_append, pieces_of_not_mem hp, List.singleton_append, List.cons_append, slashedGroup?]
    simp only [hnot, Bool.false_eq_true, if_false]
    rw [slashedGroup?_late (before ++ p ++ [',']) s' rest]
    · simp
    · simpa using hclose
    · intro a b hab
      simpa using hlate (p ++ ',' :: a) b (by simp [hab])
  · rw [pieces_of_not_mem hc, List.singleton_append, slashedGroup?]
    simp only [hclose, if_true]
termination_by s.length

/-- One that can ends at the first such comma. -/
theorem slashedGroup?_early (before s : List Char) (rest : List (List Char))
    (hearly : ∃ a b, s = a ++ ',' :: b ∧ closesSlashed (trim (before ++ a)) = true) :
    ∃ a b, s = a ++ ',' :: b ∧
      slashedGroup? before (pieces ',' s ++ rest) = some (before ++ a, pieces ',' b ++ rest) := by
  have hc : ',' ∈ s := by
    obtain ⟨a, b, rfl, -⟩ := hearly
    simp
  obtain ⟨p, s', hs, hp⟩ := List.eq_append_cons_of_mem hc
  have hlen : s'.length < s.length := by
    simp only [hs, List.length_append, List.length_cons]
    omega
  rw [hs] at hearly ⊢
  rw [pieces_append, pieces_of_not_mem hp, List.singleton_append, List.cons_append, slashedGroup?]
  by_cases hclose : closesSlashed (trim (before ++ p)) = true
  · exact ⟨p, s', rfl, by simp only [hclose, if_true]⟩
  · -- the comma that closes lies behind the first one
    obtain ⟨a, b, hab, hclosea⟩ := hearly
    have hlater : ∃ a b, s' = a ++ ',' :: b ∧
        closesSlashed (trim (before ++ p ++ [','] ++ a)) = true := by
      rcases List.append_eq_append_iff.mp hab with ⟨a', rfl, hs'⟩ | ⟨a', rfl, hs'⟩
      · cases a' with
        | nil => exact absurd (by simpa using hclosea) hclose
        | cons d a'' =>
          obtain ⟨rfl, rfl⟩ := List.cons.inj hs'
          exact ⟨a'', b, rfl, by simpa using hclosea⟩
      · cases a' with
        | nil => exact absurd (by simpa using hclosea) hclose
        | cons d a'' =>
          obtain ⟨rfl, -⟩ := List.cons.inj hs'
          simp at hp
    obtain ⟨a', b', hs', hgroup⟩ := slashedGroup?_early (before ++ p ++ [',']) s' rest hlater
    refine ⟨p ++ ',' :: a', b', by simp [hs'], ?_⟩
    simp only [hclose, hgroup]
    simp
termination_by s.length

/-- A text without brackets and commas is an argument of its own. -/
theorem balancedGroup?_plain (h : s.any isReserved = false) :
    balancedGroup? 0 [] (s :: rest) = some (s, rest) := by
  have hdepth : depthAfter? 0 s = some 0 := by
    induction s with
    | nil => rfl
    | cons c s ih =>
      simp only [List.any_cons, Bool.or_eq_false_iff, isReserved, decide_eq_false_iff_not] at h
      obtain ⟨⟨⟨⟨-, -⟩, hl⟩, hr⟩, hs⟩ := h
      rw [depthAfter?, if_neg hl, if_neg hr]
      exact ih hs
  simp [balancedGroup?, hdepth]

/-- What may be written as an argument: a text between slashes, or a plain one. -/
theorem isPlainArgument_cases (h : isPlainArgument t = true) :
    (∃ s, t = '/' :: s ∧ closesSlashed (trim t) = true ∧ trim t = t ∧ '|' ∉ t) ∨
      (t ≠ [] ∧ trim t = t ∧ t.head? ≠ some '/' ∧ t.any isReserved = false) := by
  simp only [isPlainArgument, isSlashed, Bool.or_eq_true, Bool.and_eq_true, decide_eq_true_eq,
    beq_iff_eq, Bool.not_eq_true', bne_iff_ne, List.isEmpty_eq_false_iff] at h
  rcases h with ⟨⟨⟨hlen, hhead⟩, hlast⟩, hbar⟩ | ⟨⟨⟨hne, htrim⟩, hhead⟩, hres⟩
  · obtain ⟨s, rfl⟩ := List.head?_eq_some_iff.mp hhead
    have htrim : trim ('/' :: s) = '/' :: s := by
      rw [trim_eq_self_iff]
      refine ⟨fun c hc => ?_, fun c hc => ?_⟩
      · cases hc; decide
      · rw [Option.mem_def, hlast] at hc
        cases hc; decide
    refine Or.inl ⟨s, rfl, ?_, htrim, by simpa using hbar⟩
    rw [htrim, closesSlashed, hlast]
    simp only [decide_eq_true_eq, Bool.and_eq_true, beq_self_eq_true, and_true]
    omega
  · exact Or.inr ⟨hne, htrim.symm, hhead, hres⟩

theorem trimmed_of_isPlainArgument (h : isPlainArgument t = true) : Trimmed t := by
  rcases isPlainArgument_cases h with ⟨s, rfl, -, htrim, -⟩ | ⟨hne, htrim, -, -⟩
  · exact ⟨List.cons_ne_nil _ _, htrim⟩
  · exact ⟨hne, htrim⟩

theorem bar_not_mem_written (h : isPlainArgument t = true) : '|' ∉ t := by
  rcases isPlainArgument_cases h with ⟨s, -, -, -, hbar⟩ | ⟨-, -, -, hres⟩
  · exact hbar
  · intro hc
    exact List.any_eq_false.mp hres '|' hc (by decide)

theorem comma_not_mem_plain (h : t.any isReserved = false) : ',' ∉ t := by
  intro hc
  have := List.any_eq_false.mp h ',' hc
  exact this (by decide)

theorem not_closesEarly_plain (h : t.any isReserved = false) : ¬ClosesEarly t := by
  rintro ⟨a, b, rfl, -⟩
  exact comma_not_mem_plain h (by simp)

/-- The first piece of a text between slashes begins with a slash. -/
theorem pieces_slash (s : List Char) :
    ∃ p ps, pieces ',' ('/' :: s) = p :: ps ∧ startsSlashed p = true := by
  by_cases hc : ',' ∈ '/' :: s
  · obtain ⟨p, s', hs, hp⟩ := List.eq_append_cons_of_mem hc
    cases p with
    | nil => cases hs
    | cons d p =>
      obtain ⟨rfl, -⟩ := List.cons.inj hs
      refine ⟨'/' :: p, pieces ',' s', ?_, startsSlashed_cons p⟩
      rw [hs, pieces_append, pieces_of_not_mem hp]
      rfl
  · exact ⟨'/' :: s, [], pieces_of_not_mem hc, startsSlashed_cons s⟩

/-- Where a text between slashes stands in front, its end is looked for first. -/
theorem firstGroup?_slash {g : List Char} {rest' : List (List Char)}
    (h : slashedGroup? [] (pieces ',' ('/' :: s) ++ rest) = some (g, rest')) :
    firstGroup? (pieces ',' ('/' :: s) ++ rest) = some (g, rest') := by
  obtain ⟨p, ps, hp, hstart⟩ := pieces_slash s
  rw [hp, List.cons_append] at h ⊢
  simp only [firstGroup?, hstart, if_true, h]

/-- A plain text in front is the first argument. -/
theorem firstGroup?_plain (hhead : t.head? ≠ some '/') (htrim : trim t = t)
    (hres : t.any isReserved = false) :
    firstGroup? (pieces ',' t ++ rest) = some (t, rest) := by
  rw [pieces_of_not_mem (comma_not_mem_plain hres), List.singleton_append, firstGroup?,
    startsSlashed, htrim]
  simp only [beq_iff_eq, hhead, if_false, balancedGroup?_plain hres]

/-- A written argument in front that cannot end earlier is the first argument. -/
theorem firstGroup?_written (h : isPlainArgument t = true) (hlate : ¬ClosesEarly t) :
    firstGroup? (pieces ',' t ++ rest) = some (t, rest) := by
  rcases isPlainArgument_cases h with ⟨s, rfl, hclose, -, -⟩ | ⟨-, htrim, hhead, hres⟩
  · refine firstGroup?_slash (slashedGroup?_late [] ('/' :: s) rest hclose fun a b hab => ?_)
    cases hca : closesSlashed (trim ([] ++ a)) with
    | false => rfl
    | true => exact absurd ⟨a, b, hab, hca⟩ hlate
  · exact firstGroup?_plain hhead htrim hres

/-- Of one that can, only a part is. -/
theorem firstGroup?_early (h : isPlainArgument t = true) (hearly : ClosesEarly t) :
    ∃ a rest', a.length < t.length ∧ firstGroup? (pieces ',' t ++ rest) = some (a, rest') := by
  rcases isPlainArgument_cases h with ⟨s, rfl, -, -, -⟩ | ⟨-, -, -, hres⟩
  · obtain ⟨a, b, hab, hgroup⟩ := slashedGroup?_early [] ('/' :: s) rest hearly
    refine ⟨a, _, ?_, firstGroup?_slash hgroup⟩
    rw [hab]
    simp only [List.length_append, List.length_cons]
    omega
  · exact absurd hearly (not_closesEarly_plain hres)

/-! ## All arguments -/

theorem groups?_cons {ps : List (List Char)} {g : List Char} (hne : ps ≠ [])
    (h : firstGroup? ps = some (g, rest)) : groups? ps = (groups? rest).map (g :: ·) := by
  rw [groups?, if_neg (by simpa using hne)]
  split
  · rename_i hnone
    rw [h] at hnone
    cases hnone
  · rename_i hsome
    rw [h] at hsome
    cases hsome
    rfl

theorem append_pieces_ne_nil (t : List Char) : pieces ',' t ++ rest ≠ [] := by
  simp [pieces_ne_nil]

/-- The groups are the written arguments exactly if none of these closes early. -/
theorem groups?_flatMap_iff {ts : List (List Char)} (hts : ∀ t ∈ ts, isPlainArgument t = true) :
    (groups? (ts.flatMap (pieces ','))).map (·.map trim) = some ts ↔
      ∀ t ∈ ts, ¬ClosesEarly t := by
  induction ts with
  | nil => simp [groups?]
  | cons t ts ih =>
    have ht := hts t List.mem_cons_self
    have ih := ih fun u hu => hts u (List.mem_cons_of_mem _ hu)
    rw [List.flatMap_cons, List.forall_mem_cons, ← ih]
    by_cases hearly : ClosesEarly t
    · -- the first group is too short to be the first argument
      obtain ⟨a, rest', hlen, hgroup⟩ : ∃ a rest', a.length < t.length ∧
          firstGroup? (pieces ',' t ++ ts.flatMap (pieces ',')) = some (a, rest') :=
        firstGroup?_early ht hearly
      rw [groups?_cons (append_pieces_ne_nil t) hgroup]
      simp only [hearly, not_true_eq_false, false_and, iff_false]
      intro heq
      cases hr : groups? rest' with
      | none => rw [hr] at heq; cases heq
      | some gs =>
        rw [hr] at heq
        simp only [Option.map_some, Option.some.injEq, List.map_cons, List.cons.injEq] at heq
        have := trim_length_le a
        rw [heq.1] at this
        omega
    · rw [groups?_cons (append_pieces_ne_nil t) (firstGroup?_written ht hearly)]
      simp only [hearly, not_false_eq_true, true_and]
      cases groups? (ts.flatMap (pieces ',')) with
      | none => simp
      | some gs => simp [(trimmed_of_isPlainArgument ht).trim_eq]

/-- **Written arguments come back exactly if none of them closes early.** -/
theorem splitArguments_intercalate_iff {ts : List (List Char)}
    (hts : ∀ t ∈ ts, isPlainArgument t = true) :
    splitArguments ([','].intercalate ts) = some ts ↔ ∀ t ∈ ts, ¬ClosesEarly t := by
  cases ts with
  | nil => exact ⟨fun _ t ht => absurd ht List.not_mem_nil, fun _ => rfl⟩
  | cons t ts =>
    have hjoined : Trimmed ([','].intercalate (t :: ts)) :=
      Trimmed.intercalate (List.cons_ne_nil _ _) fun u hu => trimmed_of_isPlainArgument (hts u hu)
    rw [splitArguments, hjoined.trim_eq, if_neg (by simpa using hjoined.ne_nil),
      pieces_intercalate (List.cons_ne_nil _ _)]
    exact groups?_flatMap_iff hts

end FieldCheck
