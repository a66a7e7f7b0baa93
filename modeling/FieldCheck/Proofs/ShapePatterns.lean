import FieldCheck.Proofs.PlainPatterns
import FieldCheck.Proofs.Shapes

/-!
# The patterns of shapes

The regular expression of a shape is read, whatever the shape is, and it matches the whole of a text
exactly if the text is made of pieces that the parts of the shape ask for.

* `ShapePart.choices`, `ShapePart.node`, `partNodes` — what the parts are read as.
* `readSequence_part`, `gives_readSequence_parts`, `read_shapePattern` — reading, part by part.
* `mem_partWords`, `mem_partsWords` — the words.
* `readPattern_shape`, `matchesWhole_shape` — the pattern of a shape.

Principal result: `date_shape_iff`.
-/

set_option autoImplicit false

namespace FieldCheck

open Regex Text

/-! ## What the parts are read as -/

/-- The alternatives that a number is written with. -/
def ShapePart.choices : ShapePart → List (List Atom)
  | .paddedMonth =>
    [[.char '0', .oneOf [.span '1' '9']], [.char '1', .oneOf [.span '0' '2']]]
  | .month => [[.oneOf [.span '1' '9']], [.char '1', .oneOf [.span '0' '2']]]
  | .paddedDay =>
    [[.char '0', .oneOf [.span '1' '9']], [.oneOf [.one '1', .one '2'], .oneOf [.span '0' '9']],
      [.char '3', .oneOf [.one '0', .one '1']]]
  | .day =>
    [[.oneOf [.span '1' '9']], [.oneOf [.one '1', .one '2'], .oneOf [.span '0' '9']],
      [.char '3', .oneOf [.one '0', .one '1']]]
  | .digits _ | .fixed _ => []

/-- What a part is read as, if so many groups came before it. -/
def ShapePart.node (index : Nat) : ShapePart → Node
  | .digits n => digitsNode n
  | .fixed c => .char c.toNat false
  | part => groupNode index part.choices

/-- The number of groups in a part. -/
def ShapePart.groupCount : ShapePart → Nat
  | .digits _ | .fixed _ => 0
  | _ => 1

/-- What the parts are read as. -/
def partNodes : Nat → List ShapePart → List Node
  | _, [] => []
  | index, part :: parts => part.node index :: partNodes (index + part.groupCount) parts

/-- A number of digits that may be written as a bound. -/
def ShapePart.Countable : ShapePart → Prop
  | .digits n => n < greatestRepeat
  | _ => True

/-! ## Reading -/

section Reading

variable {part : ShapePart} {parts : List ShapePart} {cs : List Char} {fuel : Nat}

/-- What may stand behind a part: it changes neither a backslash nor a repetition before it. -/
structure MayFollow (cs : List Char) : Prop where
  whole : cs ≠ ['\\']
  lazy : cs.head? ≠ some '?'
  possessive : cs.head? ≠ some '+'

theorem choices_regular (part : ShapePart) :
    ∀ atoms ∈ part.choices, ∀ a ∈ atoms, a.Regular := by
  cases part with
  | digits n => nofun
  | fixed c => nofun
  | _ => decide

/-- A part is digits, a character, or a group of alternatives. -/
theorem part_cases (part : ShapePart) : (∃ n, part = .digits n) ∨ (∃ c, part = .fixed c) ∨
    ∃ atoms more, part.choices = atoms :: more ∧ part.groupCount = 1 ∧
      part.pattern = '(' :: choicesText atoms more ++ [')'] ∧
      ∀ index, part.node index = groupNode index part.choices := by
  cases part with
  | digits n => exact Or.inl ⟨n, rfl⟩
  | fixed c => exact Or.inr (Or.inl ⟨c, rfl⟩)
  | _ => exact Or.inr (Or.inr ⟨_, _, rfl, rfl, by decide, fun index => rfl⟩)

theorem escaped_cases (c : Char) : (c ∈ needsEscape ∧ escaped c = ['\\', c]) ∨
    (Literal c ∧ escaped c = [c]) := by
  by_cases hc : c ∈ needsEscape
  · exact Or.inl ⟨hc, if_pos (List.contains_iff_mem.mpr hc)⟩
  · exact Or.inr ⟨hc, if_neg fun h => hc (List.contains_iff_mem.mp h)⟩

theorem fixed_pattern (c : Char) : (ShapePart.fixed c).pattern = escaped c :=
  rfl

theorem digits_pattern (n : Nat) : (ShapePart.digits n).pattern =
    '\\' :: 'd' :: '\x7b' :: (Nat.toDigits 10 n ++ ['\x7d']) := by
  have hopen : "\\d\x7b".toList = ['\\', 'd', '\x7b'] := by decide
  show "\\d\x7b".toList ++ Nat.toDigits 10 n ++ ['\x7d'] = _
  rw [hopen]
  rfl

theorem mayFollow_parts (parts : List ShapePart) :
    MayFollow (parts.flatMap ShapePart.pattern) := by
  cases parts with
  | nil => exact ⟨nofun, nofun, nofun⟩
  | cons part parts =>
    rw [List.flatMap_cons]
    rcases part_cases part with ⟨n, rfl⟩ | ⟨c, rfl⟩ | ⟨atoms, more, -, -, hpattern, -⟩
    · rw [digits_pattern]
      exact ⟨by simp, by simp, by simp⟩
    · rcases escaped_cases c with ⟨-, hescaped⟩ | ⟨hc, hescaped⟩
      · rw [fixed_pattern, hescaped]
        exact ⟨by simp, by simp, by simp⟩
      · rw [fixed_pattern, hescaped]
        exact ⟨by simp [hc.ne (d := '\\') (by decide)], by simp [hc.ne (d := '?') (by decide)],
          by simp [hc.ne (d := '+') (by decide)]⟩
    · rw [hpattern]
      exact ⟨by simp, by simp, by simp⟩

/-- A part is read, whatever comes behind it, and no more fuel is used up than it has characters. -/
theorem readSequence_part (s : Scan) (first : Bool) (acc : List Node) (hpart : part.Countable)
    (hcs : MayFollow cs) (hfuel : part.pattern.length + 3 ≤ fuel) :
    ∃ groups fuel', groups.size = s.groups.size + part.groupCount ∧
      fuel ≤ fuel' + part.pattern.length ∧ ∀ nodes s' cs',
      Gives (readSequence fuel' false first (part.node s.groups.size :: acc)) (s.grouped groups) cs
          nodes s' cs' →
        Gives (readSequence fuel false first acc) s (part.pattern ++ cs) nodes s' cs' := by
  rcases part_cases part with ⟨n, rfl⟩ | ⟨c, rfl⟩ | ⟨atoms, more, hchoices, hcount, hpattern, hnode⟩
  · obtain ⟨fuel, rfl⟩ : ∃ f, fuel = f + 2 := ⟨fuel - 2, by omega⟩
    refine ⟨s.groups, fuel, rfl, ?_, fun nodes s' cs' hrest => ?_⟩
    · rw [digits_pattern, List.length_cons, List.length_cons]
      omega
    · rw [digits_pattern]
      simp only [List.cons_append, List.append_assoc, List.nil_append]
      exact readSequence_digits hpart hcs.whole hcs.lazy hcs.possessive hrest
  · obtain ⟨fuel, rfl⟩ : ∃ f, fuel = f + 1 := ⟨fuel - 1, by omega⟩
    rcases escaped_cases c with ⟨hc, hescaped⟩ | ⟨hc, hescaped⟩
    · refine ⟨s.groups, fuel, rfl, ?_, fun nodes s' cs' hrest => ?_⟩
      · simp [fixed_pattern, hescaped]
      · rw [fixed_pattern, hescaped]
        exact readSequence_escape hc hcs.whole hrest
    · refine ⟨s.groups, fuel, rfl, ?_, fun nodes s' cs' hrest => ?_⟩
      · simp [fixed_pattern, hescaped]
      · rw [fixed_pattern, hescaped]
        exact readSequence_literal hc hcs.whole hrest
  · obtain ⟨fuel, rfl⟩ : ∃ f, fuel = f + 1 := ⟨fuel - 1, by omega⟩
    have hregular := choices_regular part
    rw [hchoices] at hregular hnode
    obtain ⟨hatoms, hmore⟩ := List.forall_mem_cons.mp hregular
    have hlength : part.pattern.length = (choicesText atoms more).length + 2 := by
      rw [hpattern]
      simp
    have hfuel : (choicesText atoms more).length + 3 ≤ fuel := by omega
    obtain ⟨groups, hsize, hread⟩ := readSequence_group s first acc hatoms hmore hcs.whole hfuel
    refine ⟨groups, fuel, by rw [hsize, hcount], by omega, fun nodes s' cs' hrest => ?_⟩
    rw [hnode] at hrest
    rw [hpattern, List.append_assoc]
    exact hread nodes s' cs' hrest

/-- **The parts are read one after the other.** -/
theorem gives_readSequence_parts (s : Scan) (first : Bool) (acc : List Node)
    (hparts : ∀ part ∈ parts, part.Countable)
    (hfuel : (parts.flatMap ShapePart.pattern).length + 3 ≤ fuel) :
    ∃ groups, Gives (readSequence fuel false first acc) s (parts.flatMap ShapePart.pattern)
      (acc.reverse ++ partNodes s.groups.size parts) (s.grouped groups) [] := by
  induction parts generalizing s fuel acc with
  | nil =>
    obtain ⟨fuel, rfl⟩ : ∃ f, fuel = f + 1 := ⟨fuel - 1, by omega⟩
    refine ⟨s.groups, ?_⟩
    rw [partNodes, List.append_nil]
    exact gives_readSequence_end (Or.inl rfl)
  | cons part parts ih =>
    obtain ⟨hpart, hparts⟩ := List.forall_mem_cons.mp hparts
    rw [List.flatMap_cons, List.length_append] at hfuel
    have henough : part.pattern.length + 3 ≤ fuel := by omega
    obtain ⟨groups, fuel', hsize, hleft, hread⟩ :=
      readSequence_part s first acc hpart (mayFollow_parts parts) henough
    have hrest : (parts.flatMap ShapePart.pattern).length + 3 ≤ fuel' := by omega
    -- the numbers of the groups go on from those that the first part leaves
    obtain ⟨groups', hrest⟩ := ih (s.grouped groups) (part.node s.groups.size :: acc) hparts hrest
    refine ⟨groups', ?_⟩
    rw [List.flatMap_cons]
    refine hread _ _ _ ?_
    rw [partNodes, List.append_cons acc.reverse, ← List.reverse_cons, ← hsize]
    exact hrest

end Reading

/-! ## Words -/

section Words

variable {part : ShapePart} {w : List Char}

theorem plain_part (index : Nat) (part : ShapePart) : (part.node index).Plain {} := by
  cases part with
  | digits n => exact plain_digitsNode n
  | fixed c => trivial
  | _ => exact plain_groupNode index _

theorem plain_parts (index : Nat) (parts : List ShapePart) :
    PlainSequence {} (partNodes index parts) := by
  induction parts generalizing index with
  | nil => trivial
  | cons part parts ih => exact ⟨plain_part index part, ih _⟩

theorem spellings_paddedMonth :
    ShapePart.paddedMonth.choices.flatMap spellings = (List.range' 1 12).map twoDigits := by
  decide

theorem spellings_month :
    ShapePart.month.choices.flatMap spellings = (List.range' 1 12).map (Nat.toDigits 10) := by
  decide

theorem spellings_paddedDay :
    ShapePart.paddedDay.choices.flatMap spellings = (List.range' 1 31).map twoDigits := by
  decide

theorem spellings_day :
    ShapePart.day.choices.flatMap spellings = (List.range' 1 31).map (Nat.toDigits 10) := by
  decide

theorem mem_groupWords_iff (index top : Nat) {write : Nat → List Char}
    (hspellings : part.choices.flatMap spellings = (List.range' 1 top).map write) :
    w ∈ (groupNode index part.choices).words {} ↔ IsNumber write top w := by
  rw [mem_groupNode_words index (choices_regular part), hspellings, isNumber_iff_mem]

/-- The words of a part are the pieces that it asks for. -/
theorem mem_partWords (index : Nat) (part : ShapePart) :
    w ∈ (part.node index).words {} ↔ part.Matches w := by
  cases part with
  | digits n => exact mem_digitsWords n
  | fixed c => exact mem_charWords
  | paddedMonth => exact mem_groupWords_iff index 12 spellings_paddedMonth
  | month => exact mem_groupWords_iff index 12 spellings_month
  | paddedDay => exact mem_groupWords_iff index 31 spellings_paddedDay
  | day => exact mem_groupWords_iff index 31 spellings_day

theorem mem_partsWords (index : Nat) (parts : List ShapePart) :
    w ∈ sequenceWords {} (partNodes index parts) ↔ Fits parts w := by
  induction parts generalizing index w with
  | nil => simp [partNodes, sequenceWords, Language.mem_one]
  | cons part parts ih =>
    simp only [partNodes, sequenceWords, Language.mem_mul, mem_partWords, ih, fits_cons_iff]
    constructor
    · rintro ⟨piece, hpiece, rest, hrest, rfl⟩
      exact ⟨piece, rest, hpiece, hrest, rfl⟩
    · rintro ⟨piece, rest, hpiece, hrest, rfl⟩
      exact ⟨piece, hpiece, rest, hrest, rfl⟩

end Words

/-! ## Whole patterns -/

section Patterns

variable {parts : List ShapePart}

/-- What the pattern of parts is read as. -/
def partsProgram (parts : List ShapePart) : Program := ⟨[partNodes 1 parts], {}⟩

/-- What is known before a pattern without switches is read. -/
def startScan (source : String) (length : Nat) : Scan :=
  { source, length, rest := [], flags := {} }

theorem gives_readBranches_parts (hparts : ∀ part ∈ parts, part.Countable) (source : String) :
    ∃ groups, Gives
      (readBranches (3 * (parts.flatMap ShapePart.pattern).length + 8) false true true)
      (startScan source (parts.flatMap ShapePart.pattern).length)
      (parts.flatMap ShapePart.pattern) [partNodes 1 parts]
      ((startScan source (parts.flatMap ShapePart.pattern).length).grouped groups) [] := by
  have hfuel : (parts.flatMap ShapePart.pattern).length + 3 ≤
      3 * (parts.flatMap ShapePart.pattern).length + 7 := by omega
  obtain ⟨groups, hread⟩ := gives_readSequence_parts
    (startScan source (parts.flatMap ShapePart.pattern).length) true [] hparts hfuel
  refine ⟨groups, ?_⟩
  unfold readBranches
  refine hread.bind ?_
  refine (gives_accept_other (by simp) (by simp)).bind ?_
  exact .pure

theorem read_of_gives {cs : List Char} {program : Program} {s' : Scan}
    (h : Gives readProgram (startScan (String.ofList cs) cs.length) cs program s' []) :
    Pattern.read { source := String.ofList cs } = .ok program := by
  obtain ⟨n, hrun⟩ := h 0
  simp only [startScan, Scan.facing] at hrun
  unfold Pattern.read
  simp only [String.toList_ofList]
  rw [hrun]

/-- **The pattern of countable parts is read as their nodes.** -/
theorem read_pattern (hparts : ∀ part ∈ parts, part.Countable) :
    Pattern.read { source := String.ofList (parts.flatMap ShapePart.pattern) } =
      .ok (partsProgram parts) := by
  let cs := parts.flatMap ShapePart.pattern
  let s := startScan (String.ofList cs) cs.length
  obtain ⟨groups, hbranches⟩ := gives_readBranches_parts hparts (String.ofList cs)
  have hcomplaint : choicesComplaint? false [partNodes 1 parts] = none :=
    complaint_choices {} _ ⟨plain_parts 1 parts, trivial⟩
  have hprogram : Gives readProgram s cs (partsProgram parts) (s.grouped groups) [] := by
    unfold readProgram
    refine (gives_checkNext (mayFollow_parts parts).whole).bind (Gives.get fun n => ?_)
    refine hbranches.bind (Gives.get fun n => ?_)
    dsimp only [Scan.facing, Scan.grouped, startScan]
    rw [hcomplaint]
    exact .pure
  exact read_of_gives hprogram

theorem matchesWhole_parts (s : String) :
    (partsProgram parts).matchesWhole s = fits parts s.toList := by
  have hplain : PlainChoices {} [partNodes 1 parts] := ⟨plain_parts 1 parts, trivial⟩
  have hwords : choiceWords {} [partNodes 1 parts] = sequenceWords {} (partNodes 1 parts) := by
    rw [choiceWords, choiceWords, add_zero]
  rw [Bool.eq_iff_iff, fits_iff, matchesWhole_iff hplain]
  show s.toList ∈ choiceWords {} [partNodes 1 parts] ↔ _
  rw [hwords, mem_partsWords]

theorem countable_shapeParts (shape : List Char) : ∀ part ∈ shapeParts shape, part.Countable := by
  fun_induction shapeParts shape <;> simp_all [ShapePart.Countable, greatestRepeat]

end Patterns

/-! ## The rule -/

namespace Rules

/-- The pattern of a shape can always be read. -/
theorem readPattern_shape (shape : List Char) :
    readPattern { source := shapePattern shape } = .ok (partsProgram (shapeParts shape)) := by
  rw [readPattern, shapePattern, read_pattern (countable_shapeParts shape)]

/-- The rule looks for the parts of the shape in the text. -/
theorem date_eq_fits (shape s : String) (hshape : shape ≠ "") (more : List Value) (c : Context) :
    date (.text s) (.text shape :: more) c = .ok (fits (shapeParts shape.toList) s.toList) := by
  have htruthy : (Value.text shape).truthy = true := by
    simpa [Value.truthy, Value.size?] using hshape
  unfold date
  simp only [List.headD_cons, htruthy, Bool.not_true, Bool.false_eq_true, if_false,
    plainText_text, readPattern_shape]
  rw [Except.map, matchesWhole_parts]

/-- **A text is of a shape exactly if it can be cut into pieces that the parts of the shape ask for**,
and there is one way to cut the shape into its parts. -/
theorem date_shape_iff (shape s : String) (hshape : shape ≠ "") (more : List Value) (c : Context) :
    ∃ parts, (∀ others, CutsInto shape.toList others ↔ others = parts) ∧
      ∃ answer, date (.text s) (.text shape :: more) c = .ok answer ∧
        (answer = true ↔ Fits parts s.toList) :=
  ⟨shapeParts shape.toList, fun _ => cutsInto_iff, _, date_eq_fits shape s hshape more c,
    fits_iff⟩

/-- The first alternative for the month leads nowhere here: with a day behind it something is left. -/
theorem date_shape_iff_backtracks :
    "MD" ≠ "" ∧ CutsInto "MD".toList [.month, .day] ∧
      date (.text "1231") [.text "MD"] {} = .ok true := by
  have hshape : "MD" ≠ "" := by decide
  have hcut : CutsInto "MD".toList [.month, .day] := cutsInto_iff.mpr (by decide)
  obtain ⟨parts, hparts, answer, hdate, hanswer⟩ := date_shape_iff "MD" "1231" hshape [] {}
  obtain rfl : [.month, .day] = parts := (hparts _).mp hcut
  have hfits : Fits [.month, .day] "1231".toList := by decide
  rw [hanswer.mpr hfits] at hdate
  exact ⟨hshape, hcut, hdate⟩

end Rules

end FieldCheck
