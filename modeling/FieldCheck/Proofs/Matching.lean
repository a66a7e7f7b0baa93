import FieldCheck.Proofs.Names
import FieldCheck.Regex.Matcher
import Mathlib.Computability.Language

/-!
# What a regular expression matches

The matcher tries one way after the other and goes back where a way leads nowhere.  For parts without
look-around, references and the like, whether it gets anywhere depends on the words of the parts only.

* `Node.words`, `sequenceWords`, `choiceWords` — the words of a part, for all its constructors that have
  some on their own.
* `Node.Plain` — the parts that this is all there is to be known of.
* `Reads`, `Reads.bind`, `Reads.orElse` — a matcher that goes on exactly behind the words of a language.
* `reads_repeatGreedy` — a repetition whose body moves on at each turn.
* `reads_sequence` — the plain parts, by induction over the tree.
* `complaint_node` — nothing keeps the plain parts from being matched.
* `matchesWhole_iff` — a plain pattern matches its words, where it is to match the whole of a text.
* `matchAt_anchored_iff` — a pattern between anchors matches its words, and its words with a line feed.
* `char_holds_iff` — a character that is no letter has no other case.
-/

set_option autoImplicit false

namespace FieldCheck.Regex

open Text

/-! ## Words -/

/-- Words of one character. -/
def letters (test : Char → Bool) : Language Char := { w | ∃ c, test c = true ∧ w = [c] }

/-- Words one after the other, at least and at most so many. -/
def repeated (least : Nat) (most : Option Nat) (L : Language Char) : Language Char :=
  { w | ∃ parts : List (List Char), least ≤ parts.length ∧ (∀ n ∈ most, parts.length ≤ n) ∧
    (∀ part ∈ parts, part ∈ L) ∧ parts.flatten = w }

mutual

/-- The words of a part; parts that look around or back have none of their own. -/
def Node.words (f : Flags) : Node → Language Char
  | .char n negated => letters fun c => (SetItem.char n).holds f c != negated
  | .any => letters fun c => f.dotAll || c != '\n'
  | .set items negated => letters fun c => (items.any (SetItem.holds f c)) != negated
  | .branch choices => choiceWords f choices
  | .group _ switches body => sequenceWords (f.with switches) body
  | .repetition least most _ body => repeated least most (sequenceWords f body)
  | _ => 0

/-- The words of a sequence. -/
def sequenceWords (f : Flags) : List Node → Language Char
  | [] => 1
  | n :: rest => n.words f * sequenceWords f rest

/-- The words of a choice. -/
def choiceWords (f : Flags) : List (List Node) → Language Char
  | [] => 0
  | choice :: rest => sequenceWords f choice + choiceWords f rest

end

mutual

/-- A part that matches its words and does nothing else.  A repetition is greedy, and its body is never
empty. -/
def Node.Plain (f : Flags) : Node → Prop
  | .char .. | .any | .set .. => True
  | .branch choices => PlainChoices f choices
  | .group _ switches body => PlainSequence (f.with switches) body
  | .repetition least most greed body =>
    greed = .greedy ∧ (∀ n ∈ most, least ≤ n) ∧ [] ∉ sequenceWords f body ∧ PlainSequence f body
  | _ => False

def PlainSequence (f : Flags) : List Node → Prop
  | [] => True
  | n :: rest => n.Plain f ∧ PlainSequence f rest

def PlainChoices (f : Flags) : List (List Node) → Prop
  | [] => True
  | choice :: rest => PlainSequence f choice ∧ PlainChoices f rest

end

/-! ## Repetition of words -/

section Repeated

variable {least : Nat} {most : Option Nat} {L : Language Char} {w : List Char}

/-- One word more is to come. -/
theorem repeated_succ (hmost : ∀ n ∈ most, least < n) :
    repeated (least + 1) most L = L * repeated least (most.map (· - 1)) L := by
  ext w
  rw [Language.mem_mul]
  constructor
  · rintro ⟨parts, hleast, hbound, hparts, rfl⟩
    cases parts with
    | nil => simp at hleast
    | cons part parts =>
      obtain ⟨hpart, hrest⟩ := List.forall_mem_cons.mp hparts
      refine ⟨part, hpart, parts.flatten, ⟨parts, by simpa using hleast, ?_, hrest, rfl⟩, rfl⟩
      intro n hn
      obtain ⟨top, htop, rfl⟩ := Option.mem_map.mp hn
      have := hbound top htop
      rw [List.length_cons] at this
      omega
  · rintro ⟨part, hpart, _, ⟨parts, hleast, hbound, hparts, rfl⟩, rfl⟩
    refine ⟨part :: parts, by simpa using hleast, fun n hn => ?_,
      List.forall_mem_cons.mpr ⟨hpart, hparts⟩, rfl⟩
    have := hbound (n - 1) (Option.mem_map_of_mem _ hn)
    have := hmost n hn
    rw [List.length_cons]
    omega

/-- Enough words have come, and there may be more. -/
theorem repeated_zero (hmost : ∀ n ∈ most, 0 < n) :
    repeated 0 most L = L * repeated 0 (most.map (· - 1)) L + 1 := by
  rw [← repeated_succ hmost]
  ext w
  rw [Language.mem_add, Language.mem_one]
  constructor
  · rintro ⟨parts, -, hbound, hparts, rfl⟩
    cases parts with
    | nil => exact Or.inr rfl
    | cons part parts => exact Or.inl ⟨part :: parts, Nat.succ_pos _, hbound, hparts, rfl⟩
  · rintro (⟨parts, -, hbound, hparts, rfl⟩ | rfl)
    · exact ⟨parts, Nat.zero_le _, hbound, hparts, rfl⟩
    · exact ⟨[], Nat.le_refl _, fun n _ => Nat.zero_le n, nofun, rfl⟩

/-- No word more may come. -/
theorem repeated_none : repeated 0 (some 0) L = 1 := by
  ext w
  rw [Language.mem_one]
  constructor
  · rintro ⟨parts, -, hbound, -, rfl⟩
    obtain rfl : parts = [] := List.length_eq_zero_iff.mp (Nat.le_zero.mp (hbound 0 rfl))
    rfl
  · rintro rfl
    exact ⟨[], Nat.le_refl _, fun n _ => Nat.zero_le n, nofun, rfl⟩

/-- Where the words of a language have a shape, a repetition has words of that shape. -/
theorem mem_repeated_of_shape {α : Type} {R : α → Prop} {g : α → List Char}
    (hshape : ∀ w, w ∈ L ↔ ∃ a, R a ∧ w = g a) :
    w ∈ repeated least most L ↔ ∃ as : List α,
      least ≤ as.length ∧ (∀ n ∈ most, as.length ≤ n) ∧ (∀ a ∈ as, R a) ∧ w = as.flatMap g := by
  have hshapes (parts : List (List Char)) (hparts : ∀ part ∈ parts, part ∈ L) :
      ∃ as : List α, (∀ a ∈ as, R a) ∧ parts = as.map g := by
    induction parts with
    | nil => exact ⟨[], nofun, rfl⟩
    | cons part parts ih =>
      obtain ⟨hpart, hrest⟩ := List.forall_mem_cons.mp hparts
      obtain ⟨a, ha, rfl⟩ := (hshape part).mp hpart
      obtain ⟨as, has, rfl⟩ := ih hrest
      exact ⟨a :: as, List.forall_mem_cons.mpr ⟨ha, has⟩, rfl⟩
  constructor
  · rintro ⟨parts, hleast, hbound, hparts, rfl⟩
    obtain ⟨as, has, rfl⟩ := hshapes parts hparts
    rw [List.length_map] at hleast hbound
    exact ⟨as, hleast, hbound, has, List.flatMap_def.symm⟩
  · rintro ⟨as, hleast, hbound, has, rfl⟩
    refine ⟨as.map g, by rwa [List.length_map], by rwa [List.length_map], ?_, List.flatMap_def.symm⟩
    intro part hpart
    obtain ⟨a, ha, rfl⟩ := List.mem_map.mp hpart
    exact (hshape _).mpr ⟨a, has a ha, rfl⟩

theorem mem_letters_iff {test : Char → Bool} :
    w ∈ letters test ↔ ∃ c, test c = true ∧ w = [c] :=
  Iff.rfl

theorem mem_repeated_letters_iff {test : Char → Bool} : w ∈ repeated least most (letters test) ↔
    least ≤ w.length ∧ (∀ n ∈ most, w.length ≤ n) ∧ ∀ c ∈ w, test c = true := by
  rw [mem_repeated_of_shape fun _ => mem_letters_iff]
  simp only [List.flatMap_singleton']
  constructor
  · rintro ⟨_, hleast, hbound, htest, rfl⟩
    exact ⟨hleast, hbound, htest⟩
  · rintro ⟨hleast, hbound, htest⟩
    exact ⟨w, hleast, hbound, htest, rfl⟩

end Repeated

theorem nil_notMem_mul_left {L L' : Language Char} (h : [] ∉ L) : [] ∉ L * L' := by
  rw [Language.mem_mul]
  rintro ⟨a, ha, b, -, hab⟩
  exact h ((List.append_eq_nil_iff.mp hab).1 ▸ ha)

/-! ## Matchers that read words -/

/-- The text from a point on. -/
def Point.ahead (text : Array Char) (p : Point) : List Char := text.toList.drop p.position

/-- From a point a matcher goes on behind each word of a language that stands there, whatever the groups
hold, and fails if no way to go on succeeds.  What it goes on with succeeds at the places `K`. -/
def Reads (text : Array Char) (p : Point) (M : Onward → Option Point) (L : Language Char) : Prop :=
  ∀ (k : Onward) (K : Nat → Prop),
    (∀ w ∈ L, w <+: p.ahead text → ∀ q : Point, q.position = p.position + w.length →
      ((k q).isSome = true ↔ K q.position)) →
    ((M k).isSome = true ↔ ∃ w ∈ L, w <+: p.ahead text ∧ K (p.position + w.length))

section Reads

variable {text : Array Char} {p : Point} {M N : Onward → Option Point} {L L' : Language Char}

theorem Reads.here : Reads text p (fun k => k p) 1 := by
  intro k K hk
  rw [hk [] (Language.mem_one _ |>.mpr rfl) List.nil_prefix p rfl]
  simp [Language.mem_one]

theorem Reads.nowhere : Reads text p (fun _ => none) 0 := by
  intro k K _
  simp [Language.notMem_zero]

theorem append_prefix_iff {a b s : List Char} : a ++ b <+: s ↔ a <+: s ∧ b <+: s.drop a.length := by
  constructor
  · rintro ⟨rest, rfl⟩
    refine ⟨⟨b ++ rest, (List.append_assoc a b rest).symm⟩, ?_⟩
    rw [List.append_assoc, List.drop_left]
    exact List.prefix_append b rest
  · rintro ⟨⟨rest, rfl⟩, hb⟩
    rw [List.drop_left] at hb
    exact (List.prefix_append_right_inj a).mpr hb

/-- One matcher goes on with another. -/
theorem Reads.bind {N : Point → Onward → Option Point} (hM : Reads text p M L)
    (hN : ∀ w ∈ L, w <+: p.ahead text → ∀ q : Point, q.position = p.position + w.length →
      Reads text q (N q) L') :
    Reads text p (fun k => M fun q => N q k) (L * L') := by
  intro k K hk
  have hahead (w : List Char) :
      text.toList.drop (p.position + w.length) = (p.ahead text).drop w.length :=
    List.drop_drop.symm
  rw [hM (fun q => N q k) fun n => ∃ w' ∈ L', w' <+: text.toList.drop n ∧ K (n + w'.length)]
  · constructor
    · rintro ⟨w, hw, hstands, w', hw', hstands', hK⟩
      refine ⟨w ++ w', Language.mem_mul.mpr ⟨w, hw, w', hw', rfl⟩, ?_, ?_⟩
      · exact append_prefix_iff.mpr ⟨hstands, hahead w ▸ hstands'⟩
      · rwa [List.length_append, ← Nat.add_assoc]
    · rintro ⟨_, hww, hstands, hK⟩
      obtain ⟨w, hw, w', hw', rfl⟩ := Language.mem_mul.mp hww
      obtain ⟨hstands, hstands'⟩ := append_prefix_iff.mp hstands
      refine ⟨w, hw, hstands, w', hw', hahead w ▸ hstands', ?_⟩
      rwa [List.length_append, ← Nat.add_assoc] at hK
  · intro w hw hstands q hq
    refine hN w hw hstands q hq k K fun w' hw' hstands' q' hq' => ?_
    refine hk (w ++ w') (Language.mem_mul.mpr ⟨w, hw, w', hw', rfl⟩) ?_ q' ?_
    · rw [Point.ahead, hq, hahead] at hstands'
      exact append_prefix_iff.mpr ⟨hstands, hstands'⟩
    · rw [hq', hq, List.length_append, Nat.add_assoc]

/-- One matcher is tried before another. -/
theorem Reads.orElse (hM : Reads text p M L) (hN : Reads text p N L') :
    Reads text p (fun k => Regex.orElse (M k) fun _ => N k) (L + L') := by
  intro k K hk
  have hleft := hM k K fun w hw => hk w (Or.inl hw)
  have hright := hN k K fun w hw => hk w (Or.inr hw)
  have hsome : (Regex.orElse (M k) fun _ => N k).isSome = true ↔
      (M k).isSome = true ∨ (N k).isSome = true := by
    cases M k <;> simp [Regex.orElse]
  rw [hsome, hleft, hright]
  constructor
  · rintro (⟨w, hw, h⟩ | ⟨w, hw, h⟩)
    · exact ⟨w, Or.inl hw, h⟩
    · exact ⟨w, Or.inr hw, h⟩
  · rintro ⟨w, hw | hw, h⟩
    · exact Or.inl ⟨w, hw, h⟩
    · exact Or.inr ⟨w, hw, h⟩

/-- What the groups hold does not count. -/
theorem Reads.regroup (hM : Reads text p M L) (g : Point → List (Nat × Nat × Nat)) :
    Reads text p (fun k => M fun q => k { q with groups := g q }) L :=
  fun _ K hk => hM _ K fun w hw hstands q hq => hk w hw hstands { q with groups := g q } hq

theorem reads_oneChar (test : Char → Bool) : Reads text p (oneChar text test p) (letters test) := by
  intro k K hk
  have hahead : text[p.position]? = (p.ahead text).head? := by
    rw [Point.ahead, List.head?_drop, Array.getElem?_toList]
  rw [oneChar, hahead]
  cases hp : p.ahead text with
  | nil =>
    refine ⟨nofun, ?_⟩
    rintro ⟨_, ⟨c, -, rfl⟩, hstands, -⟩
    cases List.prefix_nil.mp hstands
  | cons c rest =>
    have hword {d : Char} : [d] <+: p.ahead text ↔ d = c := by
      rw [hp, List.cons_prefix_cons]
      simp
    simp only [List.head?_cons]
    rw [← hp]
    split
    · rename_i htest
      rw [hk [c] ⟨c, htest, rfl⟩ (hword.mpr rfl) _ rfl]
      constructor
      · intro hK
        exact ⟨[c], ⟨c, htest, rfl⟩, hword.mpr rfl, hK⟩
      · rintro ⟨_, ⟨d, -, rfl⟩, -, hK⟩
        exact hK
    · rename_i htest
      refine ⟨nofun, ?_⟩
      rintro ⟨_, ⟨d, hd, rfl⟩, hstands, -⟩
      exact absurd (hword.mp hstands ▸ hd) htest

/-! ### Repetitions -/

variable {body : Point → Onward → Option Point} {least count fuel : Nat} {most last : Option Nat}
  {k : Onward}

theorem repeatGreedy_least (h : count < least) :
    repeatGreedy body least most k (fuel + 1) count last p =
      body p fun q => repeatGreedy body least most k fuel (count + 1) last q := by
  simp only [repeatGreedy, h, if_true]

theorem repeatGreedy_again (h : ¬count < least) (hmore : ∀ n ∈ most, count < n)
    (hmoved : last ≠ some p.position) :
    repeatGreedy body least most k (fuel + 1) count last p =
      Regex.orElse (body p fun q => repeatGreedy body least most k fuel (count + 1) (some p.position) q)
        fun _ => k p := by
  cases most with
  | none => simp [repeatGreedy, h, hmoved]
  | some n => simp [repeatGreedy, h, hmoved, hmore n rfl]

theorem repeatGreedy_enough (h : ¬count < least) (hmost : most = some count) :
    repeatGreedy body least most k (fuel + 1) count last p = k p := by
  simp [repeatGreedy, h, hmost]

theorem repeated_again (hbound : ∀ n ∈ most, least ≤ n) (hleast : count < least) :
    repeated (least - count) (most.map (· - count)) L =
      L * repeated (least - (count + 1)) (most.map (· - (count + 1))) L := by
  have hmost : ∀ n ∈ most.map (· - count), least - (count + 1) < n := by
    intro n hn
    obtain ⟨top, htop, rfl⟩ := Option.mem_map.mp hn
    have := hbound top htop
    omega
  rw [show least - count = least - (count + 1) + 1 by omega, repeated_succ hmost, Option.map_map]
  rfl

/-- After `count` turns the words of the turns that are left are read.  The induction is on the fuel; as
each turn moves on, the fuel outlasts the text, and no turn is refused for standing still. -/
theorem reads_repeatGreedy_from (hbody : ∀ p, Reads text p (body p) L) (hmoves : [] ∉ L)
    (hbound : ∀ n ∈ most, least ≤ n) (hfuel : text.size - p.position < fuel)
    (hlast : ∀ n ∈ last, n < p.position) (hcount : ∀ n ∈ most, count ≤ n) :
    Reads text p (fun k => repeatGreedy body least most k fuel count last p)
      (repeated (least - count) (most.map (· - count)) L) := by
  induction fuel generalizing count last p with
  | zero => omega
  | succ fuel ih =>
    have hnext {w : List Char} {q : Point} (hw : w ∈ L) (hstands : w <+: p.ahead text)
        (hq : q.position = p.position + w.length) :
        text.size - q.position < fuel ∧ p.position < q.position := by
      have hlength : w.length ≤ text.size - p.position := by
        simpa [Point.ahead] using hstands.length_le
      have hpos : 0 < w.length := List.length_pos_of_ne_nil fun h => hmoves (h ▸ hw)
      omega
    by_cases hleast : count < least
    · simp only [repeatGreedy_least hleast]
      rw [repeated_again hbound hleast]
      refine (hbody p).bind fun w hw hstands q hq => ?_
      obtain ⟨hfuel', hmoved⟩ := hnext hw hstands hq
      exact ih hfuel' (fun n hn => (hlast n hn).trans hmoved)
        fun n hn => Nat.lt_of_lt_of_le hleast (hbound n hn)
    · have hmoved : last ≠ some p.position := fun h => Nat.lt_irrefl _ (hlast _ h)
      rw [show least - count = 0 by omega]
      by_cases hmore : ∀ n ∈ most, count < n
      · have hpos : ∀ n ∈ most.map (· - count), 0 < n := by
          intro n hn
          obtain ⟨top, htop, rfl⟩ := Option.mem_map.mp hn
          exact Nat.sub_pos_of_lt (hmore top htop)
        have hrest := fun q hfuel' hlast' =>
          @ih q (count + 1) (some p.position) hfuel' hlast' hmore
        rw [show least - (count + 1) = 0 by omega] at hrest
        simp only [repeatGreedy_again hleast hmore hmoved]
        rw [repeated_zero hpos, Option.map_map]
        refine Reads.orElse ((hbody p).bind fun w hw hstands q hq => ?_) Reads.here
        obtain ⟨hfuel', hmoved'⟩ := hnext hw hstands hq
        refine hrest q hfuel' fun n hn => ?_
        cases hn
        exact hmoved'
      · have hmost : most = some count := by
          cases most with
          | none => exact absurd nofun hmore
          | some n =>
            have := hcount n rfl
            have : ¬count < n := fun h => hmore fun m hm => by cases hm; exact h
            rw [show n = count by omega]
        simp only [repeatGreedy_enough hleast hmost]
        rw [hmost, Option.map_some, Nat.sub_self, repeated_none]
        exact Reads.here

/-- A repetition reads its words, as there is fuel for the whole text. -/
theorem reads_repeatGreedy (hbody : ∀ p, Reads text p (body p) L) (hmoves : [] ∉ L)
    (hbound : ∀ n ∈ most, least ≤ n) :
    Reads text p (fun k => repeatGreedy body least most k (least + text.size + 2) 0 none p)
      (repeated least most L) := by
  have hread : Reads text p
      (fun k => repeatGreedy body least most k (least + text.size + 2) 0 none p)
      (repeated (least - 0) (most.map fun n => n - 0) L) :=
    reads_repeatGreedy_from hbody hmoves hbound (by omega) nofun fun n _ => Nat.zero_le n
  simpa using hread

end Reads

/-! ## Plain parts -/

section Plain

variable {text : Array Char}

mutual

/-- **A plain part reads its words.** -/
theorem reads_node (f : Flags) : ∀ (n : Node), n.Plain f → ∀ p : Point,
    Reads text p (n.run text f p) (n.words f)
  | .char n negated, _, p => by
    simp only [Node.run, Node.words]
    exact reads_oneChar _
  | .any, _, p => by
    simp only [Node.run, Node.words]
    exact reads_oneChar _
  | .set items negated, _, p => by
    simp only [Node.run, Node.words]
    exact reads_oneChar _
  | .branch choices, h, p => by
    simp only [Node.run, Node.words]
    exact reads_choices f choices h p
  | .group index switches body, h, p => by
    simp only [Node.run, Node.words]
    have hbody := reads_sequence (f.with switches) body h p
    cases index with
    | none => exact hbody
    | some g => exact hbody.regroup fun q => (g, p.position, q.position) :: q.groups
  | .repetition least most greed body, h, p => by
    obtain ⟨rfl, hbound, hmoves, hbody⟩ := h
    simp only [Node.run, Node.words]
    exact reads_repeatGreedy (reads_sequence f body hbody) hmoves hbound
  | .anchor _, h, _ => h.elim
  | .atomic _, h, _ => h.elim
  | .look .., h, _ => h.elim
  | .reference _, h, _ => h.elim
  | .condition .., h, _ => h.elim

theorem reads_sequence (f : Flags) : ∀ (body : List Node), PlainSequence f body → ∀ p : Point,
    Reads text p (runSequence text f body p) (sequenceWords f body)
  | [], _, p => by
    simp only [runSequence, sequenceWords]
    exact Reads.here
  | n :: rest, h, p => by
    simp only [runSequence, sequenceWords]
    exact (reads_node f n h.1 p).bind fun _ _ _ q _ => reads_sequence f rest h.2 q

theorem reads_choices (f : Flags) : ∀ (choices : List (List Node)), PlainChoices f choices →
    ∀ p : Point, Reads text p (runChoices text f choices p) (choiceWords f choices)
  | [], _, p => by
    simp only [runChoices, choiceWords]
    exact Reads.nowhere
  | choice :: rest, h, p => by
    simp only [runChoices, choiceWords]
    exact (reads_sequence f choice h.1 p).orElse (reads_choices f rest h.2 p)

end

mutual

/-- Nothing in a plain part keeps it from being matched. -/
theorem complaint_node (f : Flags) : ∀ n : Node, n.Plain f → n.complaint? false = none
  | .char .., _ => rfl
  | .any, _ => rfl
  | .set .., _ => rfl
  | .branch choices, h => complaint_choices f choices h
  | .group _ switches body, h => complaint_sequence (f.with switches) body h
  | .repetition _ _ _ body, h => complaint_sequence f body h.2.2.2
  | .anchor _, h => h.elim
  | .atomic _, h => h.elim
  | .look .., h => h.elim
  | .reference _, h => h.elim
  | .condition .., h => h.elim

theorem complaint_sequence (f : Flags) : ∀ body : List Node, PlainSequence f body →
    sequenceComplaint? false body = none
  | [], _ => rfl
  | n :: rest, h => by
    simp only [sequenceComplaint?, complaint_node f n h.1, complaint_sequence f rest h.2]

theorem complaint_choices (f : Flags) : ∀ choices : List (List Node), PlainChoices f choices →
    choicesComplaint? false choices = none
  | [], _ => rfl
  | choice :: rest, h => by
    simp only [choicesComplaint?, complaint_sequence f choice h.1, complaint_choices f rest h.2]

end

/-- **A plain pattern matches the whole of a text exactly if the text is one of its words.** -/
theorem matchesWhole_iff {r : Program} {s : String} (hplain : PlainChoices r.flags r.choices) :
    r.matchesWhole s = true ↔ s.toList ∈ choiceWords r.flags r.choices := by
  have hread : Reads s.toList.toArray ⟨0, []⟩
      (runChoices s.toList.toArray r.flags r.choices ⟨0, []⟩) (choiceWords r.flags r.choices) :=
    reads_choices r.flags r.choices hplain ⟨0, []⟩
  have hend (q : Point) : (atEnd s.toList.toArray q).isSome = true ↔ q.position = s.toList.length := by
    unfold atEnd
    split <;> simp_all
  rw [Program.matchesWhole, hread _ (· = s.toList.length) fun w _ _ q _ => hend q]
  simp only [Point.ahead, List.drop_zero, Nat.zero_add]
  constructor
  · rintro ⟨w, hw, hprefix, hlength⟩
    rwa [← hprefix.eq_of_length hlength]
  · intro h
    exact ⟨s.toList, h, List.prefix_refl _, rfl⟩

/-! ## Between anchors -/

theorem runSequence_append (f : Flags) (a b : List Node) (p : Point) (k : Onward) :
    runSequence text f (a ++ b) p k = runSequence text f a p fun q => runSequence text f b q k := by
  induction a generalizing p with
  | nil => simp only [List.nil_append, runSequence]
  | cons n a ih => simp only [List.cons_append, runSequence, ih]

/-- A word that stands at the start of a text and in front of its end is the text, or all of it but a
line feed. -/
theorem prefix_lineEnd_iff {f : Flags} {w : List Char} (hlines : f.multiline = false) :
    w <+: text.toList ∧ Anchor.holds f text w.length .lineEnd = true ↔
      text.toList = w ∨ text.toList = w ++ ['\n'] := by
  obtain ⟨s⟩ := text
  simp only [Anchor.holds, hlines, Bool.false_or, Bool.or_eq_true, Bool.and_eq_true, decide_eq_true_eq,
    beq_iff_eq, List.size_toArray, List.getElem?_toArray]
  constructor
  · rintro ⟨⟨rest, rfl⟩, hend⟩
    rw [List.getElem?_append_right (Nat.le_refl _), Nat.sub_self, List.length_append] at hend
    rcases hend with hlength | ⟨hfeed, hlength⟩
    · obtain rfl : rest = [] := List.length_eq_zero_iff.mp (by omega)
      exact Or.inl (List.append_nil w)
    · obtain ⟨c, rfl⟩ : ∃ c, rest = [c] := List.length_eq_one_iff.mp (by omega)
      cases hfeed
      exact Or.inr rfl
  · rintro (rfl | rfl)
    · exact ⟨List.prefix_refl s, Or.inl rfl⟩
    · exact ⟨List.prefix_append _ _, Or.inr ⟨by simp, by simp⟩⟩

/-- **A pattern between anchors matches its words, and its words with a line feed behind them**: the
anchor for the end also holds in front of a line feed that ends the text. -/
theorem matchAt_anchored_iff {r : Program} {body : List Node}
    (hr : r.choices = [.anchor .lineStart :: (body ++ [.anchor .lineEnd])])
    (hplain : PlainSequence r.flags body) (hlines : r.flags.multiline = false) :
    (r.matchAt text 0).isSome = true ↔
      ∃ w ∈ sequenceWords r.flags body, text.toList = w ∨ text.toList = w ++ ['\n'] := by
  have hend (q : Point) : (runSequence text r.flags [.anchor .lineEnd] q some).isSome = true ↔
      Anchor.holds r.flags text q.position .lineEnd = true := by
    simp only [runSequence, Node.run]
    split <;> simp_all
  have hread : Reads text ⟨0, []⟩ (runSequence text r.flags body ⟨0, []⟩)
      (sequenceWords r.flags body) := reads_sequence r.flags body hplain ⟨0, []⟩
  have hbody := hread (fun q => runSequence text r.flags [.anchor .lineEnd] q some)
    (fun n => Anchor.holds r.flags text n .lineEnd = true) fun _ _ _ q _ => hend q
  have hstart : Anchor.holds r.flags text 0 .lineStart = true := rfl
  have hchoice (found : Option Point) : (Regex.orElse found fun _ => none) = found := by
    cases found <;> rfl
  rw [Program.matchAt, Option.isSome_map, hr, runChoices, runChoices, hchoice, runSequence]
  simp only [Node.run, hstart, if_true]
  rw [runSequence_append, hbody]
  simp only [Point.ahead, List.drop_zero, Nat.zero_add, prefix_lineEnd_iff hlines]

end Plain

/-! ## Characters without letter case -/

/-- A code point of ASCII that is no letter. -/
def Caseless (n : Nat) : Prop := n < 128 ∧ n ≠ 0 ∧ ¬(65 ≤ n ∧ n ≤ 90) ∧ ¬(97 ≤ n ∧ n ≤ 122)

instance (n : Nat) : Decidable (Caseless n) := inferInstanceAs (Decidable (_ ∧ _))

theorem toLower_ascii : ∀ n < 128, (Char.ofNat n).toLower.toNat = n ∨
    (65 ≤ n ∧ n ≤ 90 ∧ (Char.ofNat n).toLower.toNat = n + 32) := by
  decide

/-- A character that has no letter case is the lower case of itself only. -/
theorem lowerChar_eq_iff {n : Nat} (hn : Caseless n) (c : Char) :
    (lowerChar c).toNat = n ↔ c.toNat = n := by
  obtain ⟨hascii, hzero, hupper, hlower⟩ := hn
  by_cases hc : c.toNat < 128
  · have hmove := toLower_ascii c.toNat hc
    rw [Char.ofNat_toNat] at hmove
    rw [lowerChar, if_pos hc]
    omega
  · -- what moves into ASCII from beyond it becomes a letter
    have hletter : 128 ≤ moveCase lowerRows c.toNat ∨ moveCase lowerRows c.toNat = 105 ∨
        moveCase lowerRows c.toNat = 107 := by
      rcases moveCase_beyond hc with hmove | hdotted | hmove
      · exact Or.inl hmove
      · exact Or.inr (Or.inl (by rw [hdotted]; decide))
      · exact Or.inr (Or.inr hmove)
    have hvalue := toNat_charOfNat (moveCase lowerRows c.toNat)
    rw [lowerChar, if_neg hc]
    omega

theorem caseKin_letters : ∀ row ∈ caseKin, ∀ m ∈ row.2, ¬Caseless (Char.ofNat m).toNat := by
  decide

section Caseless

variable {f : Flags} {n : Nat} {c : Char}

theorem foldChar_toNat (hascii : f.ascii = false) (c : Char) :
    foldChar f c.toNat = (lowerChar c).toNat := by
  have hvalid : c.toNat < 0xd800 ∨ 0xdfff < c.toNat ∧ c.toNat < 0x110000 := c.valid
  simp [foldChar, hascii, hvalid, Char.ofNat_toNat]

/-- No letter shares its upper case with a character that has none. -/
theorem mem_kin_iff (hn : Caseless n) : n ∈ (kin c).map Char.toNat ↔ c.toNat = n := by
  unfold kin
  split
  · rename_i row hrow
    have hother : n ∉ (row.2.map Char.ofNat).map Char.toNat := by
      rw [List.map_map, List.mem_map]
      rintro ⟨m, hm, rfl⟩
      exact caseKin_letters row (List.mem_of_find?_eq_some hrow) m hm hn
    rw [List.map_cons, List.mem_cons, or_iff_left hother, eq_comm]
  · rw [List.map_singleton, List.mem_singleton, eq_comm]

/-- Where letter case is ignored, a character that has none stands for itself only. -/
theorem char_holds_iff (hn : Caseless n) (hcase : f.ignoreCase = true) (hascii : f.ascii = false) :
    (SetItem.char n).holds f c = true ↔ c.toNat = n := by
  have hself : (Char.ofNat n).toNat = n := by
    have hvalid : n.isValidChar := Or.inl (by have := hn.1; omega)
    rw [Char.ofNat, dif_pos hvalid]
    rfl
  have hfold : foldChar f n = n := by
    rw [← hself, foldChar_toNat hascii]
    exact (lowerChar_eq_iff (hself.symm ▸ hn) _).mpr rfl
  simp only [SetItem.holds, hcase, if_true, hfold, foldChar_toNat hascii, foldKin, hascii,
    Bool.false_eq_true, if_false, Char.ofNat_toNat, List.contains_iff_mem, mem_kin_iff hn,
    lowerChar_eq_iff hn]

end Caseless

end FieldCheck.Regex
