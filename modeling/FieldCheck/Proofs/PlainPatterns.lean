import FieldCheck.Moment.Shape
import FieldCheck.Proofs.Matching
import FieldCheck.Proofs.Readers

/-!
# Patterns of plain parts

The parts that patterns are put together from when they are written by a program: characters that are
escaped where they must be, groups of alternatives, and so many digits.  Each is read as it was meant,
and its words can be listed.

* `readSequence_token`, `readSequence_char` — a token is read, and then what is behind it.
* `Literal`, `readSequence_literal`, `readSequence_escape` — single characters.
* `Member`, `Atom`, `choicesText` — sets, and alternatives of characters and sets, with their texts.
* `readSet_member`, `gives_readSet`, `readSequence_atom`, `gives_readBranches`, `readSequence_group` —
  how they are read.
* `readSequence_digits` — so many digits.
* `spellings`, `mem_groupNode_words` — the words of a group, one by one.
-/

set_option autoImplicit false

namespace FieldCheck.Regex

/-- A list of texts, none of them empty, is not longer than its text. -/
theorem length_le_flatMap {α : Type} {text : α → List Char} {items : List α}
    (h : ∀ a ∈ items, 0 < (text a).length) : items.length ≤ (items.flatMap text).length := by
  induction items with
  | nil => exact Nat.zero_le _
  | cons a items ih =>
    obtain ⟨ha, hitems⟩ := List.forall_mem_cons.mp h
    have := ih hitems
    rw [List.flatMap_cons, List.length_append, List.length_cons]
    omega

section Reading

variable {s s' : Scan} {c d : Char} {cs cs' : List Char} {fuel : Nat} {first : Bool}
  {acc nodes : List Node}

/-! ## Tokens -/

/-- Where blanks count, a character is not skipped. -/
theorem readToken_char (group : Nat → Opening → Reader Node) (first : Bool) (start : Nat)
    (acc : List Node) (c : Char) :
    readToken group false first start acc [c] =
      if c = '(' then readParenthesis group false first start acc
      else readPart start acc c >>= fun acc => pure (false, acc) := rfl

/-- A token is read, and then what is behind it. -/
theorem readSequence_token {t : List Char} {acc' : List Node} {s₂ : Scan} {cs₁ cs₂ : List Char}
    (hbegins : Begins cs t cs₁) (hnext : cs₁ ≠ ['\\']) (hgoes : t ∉ [['|'], [')']])
    (htoken : ∀ start, Gives (readToken (readGroup fuel false) false first start acc t) s cs₁
      (false, acc') s₂ cs₂)
    (hrest : Gives (readSequence fuel false first acc') s₂ cs₂ nodes s' cs') :
    Gives (readSequence (fuel + 1) false first acc) s cs nodes s' cs' := by
  obtain ⟨hbar, hclose⟩ : t ≠ ['|'] ∧ t ≠ [')'] := by simpa using hgoes
  unfold readSequence
  refine (gives_peek hbegins).bind ?_
  dsimp only
  rw [if_neg (by simp [hbar, hclose])]
  refine Gives.get fun n => (gives_take hbegins hnext).bind ?_
  exact (htoken _).bind hrest

theorem readSequence_char {acc' : List Node} {s₂ : Scan} {cs₂ : List Char}
    (hc : c ∉ ['|', ')', '(', '\\']) (hnext : cs ≠ ['\\'])
    (hpart : ∀ start, Gives (readPart start acc c) s cs acc' s₂ cs₂)
    (hrest : Gives (readSequence fuel false first acc') s₂ cs₂ nodes s' cs') :
    Gives (readSequence (fuel + 1) false first acc) s (c :: cs) nodes s' cs' := by
  obtain ⟨hbar, hclose, hopen, hback⟩ : c ≠ '|' ∧ c ≠ ')' ∧ c ≠ '(' ∧ c ≠ '\\' := by simpa using hc
  have hgoes : [c] ∉ [['|'], [')']] := by simp [hbar, hclose]
  refine readSequence_token (begins_char hback cs) hnext hgoes (fun start => ?_) hrest
  rw [readToken_char, if_neg hopen]
  exact (hpart start).bind .pure

/-! ## Single characters -/

/-- A character that needs no escape. -/
def Literal (c : Char) : Prop := c ∉ needsEscape

instance (c : Char) : Decidable (Literal c) := inferInstanceAs (Decidable (c ∉ needsEscape))

theorem Literal.ne (hc : Literal c) (hd : d ∈ needsEscape) : c ≠ d :=
  fun h => hc (h ▸ hd)

theorem gives_readPart_literal (hc : Literal c) (start : Nat) :
    Gives (readPart start acc c) s cs (.char c.toNat false :: acc) s cs := by
  have hne : ∀ d ∈ needsEscape, c ≠ d := fun d hd => hc.ne hd
  unfold readPart
  rw [if_neg (hne '.' (by decide)), if_neg (hne '^' (by decide)), if_neg (hne '$' (by decide)),
    if_neg (hne '[' (by decide)), if_neg (hne '?' (by decide)), if_neg (hne '*' (by decide)),
    if_neg (hne '+' (by decide)), if_neg (hne '\x7b' (by decide))]
  exact .pure

theorem readSequence_literal (hc : Literal c) (hnext : cs ≠ ['\\'])
    (hrest : Gives (readSequence fuel false first (.char c.toNat false :: acc)) s cs nodes s' cs') :
    Gives (readSequence (fuel + 1) false first acc) s (c :: cs) nodes s' cs' := by
  have hmarks : c ∉ ['|', ')', '(', '\\'] := by
    simp [hc.ne (d := '|') (by decide), hc.ne (d := ')') (by decide), hc.ne (d := '(') (by decide),
      hc.ne (d := '\\') (by decide)]
  exact readSequence_char hmarks hnext (gives_readPart_literal hc) hrest

/-- A backslash takes away whatever meaning a character has. -/
theorem gives_escape (hc : c ∈ needsEscape) : Gives (escape c) s cs (.char c.toNat false) s cs := by
  have hplain : needsEscape.all fun d => anchorOf? d = none ∧ classOf? d = none ∧
      (controlOf? d = none ∨ controlOf? d = some d.toNat) ∧
      ¬(d = 'x' ∨ d = 'u' ∨ d = 'U' ∨ d = 'N') ∧ d.isDigit = false ∧ d.isAlphanum = false := by
    decide
  obtain ⟨hanchor, hclass, hcontrol, hletter, hdigit, halphanum⟩ :=
    of_decide_eq_true (List.all_eq_true.mp hplain c hc)
  obtain ⟨hx, hu, hU, hN⟩ : ¬c = 'x' ∧ ¬c = 'u' ∧ ¬c = 'U' ∧ ¬c = 'N' := by simpa using hletter
  unfold escape
  rw [hanchor, hclass]
  rcases hcontrol with hcontrol | hcontrol
  · rw [hcontrol]
    simp only [hx, hu, hU, hN, hdigit, plainEscape, halphanum, Bool.false_eq_true, if_false]
    exact Gives.bind .pure .pure
  · rw [hcontrol]
    exact .pure

theorem readSequence_escape (hc : c ∈ needsEscape) (hnext : cs ≠ ['\\'])
    (hrest : Gives (readSequence fuel false first (.char c.toNat false :: acc)) s cs nodes s' cs') :
    Gives (readSequence (fuel + 1) false first acc) s ('\\' :: c :: cs) nodes s' cs' := by
  refine readSequence_token (begins_escape c cs) hnext (by simp) (fun start => ?_) hrest
  unfold readToken
  exact (gives_escape hc).bind .pure

/-- A sequence ends at a bar, at a closing parenthesis and with the pattern. -/
theorem gives_readSequence_end
    (hcs : cs.head? = none ∨ cs.head? = some '|' ∨ cs.head? = some ')') :
    Gives (readSequence (fuel + 1) false first acc) s cs acc.reverse s cs := by
  unfold readSequence
  cases cs with
  | nil => exact gives_peek_nil.bind .pure
  | cons c rest =>
    have hend : c = '|' ∨ c = ')' := by simpa using hcs
    have hc : c ≠ '\\' := by
      rintro rfl
      exact absurd hend (by decide)
    refine (gives_peek (begins_char hc rest)).bind ?_
    dsimp only
    rw [if_pos (by simpa using hend)]
    exact .pure

/-! ## Sets -/

/-- A member of a set: a character, or those from one to another. -/
inductive Member where
  | one (c : Char)
  | span (low high : Char)

def Member.text : Member → List Char
  | .one c => [c]
  | .span low high => [low, '-', high]

def Member.item : Member → SetItem
  | .one c => .char c.toNat
  | .span low high => .range low.toNat high.toNat

/-- The characters stand for themselves, and a span is one of ASCII. -/
def Member.Regular : Member → Prop
  | .one c => Literal c
  | .span low high => Literal low ∧ Literal high ∧ low.toNat ≤ high.toNat ∧ high.toNat < 128

instance : (m : Member) → Decidable m.Regular
  | .one c => inferInstanceAs (Decidable (Literal c))
  | .span _ _ => inferInstanceAs (Decidable (_ ∧ _ ∧ _ ∧ _))

theorem Member.text_ne_backslash {m : Member} (hm : m.Regular) : ∀ c ∈ m.text, c ≠ '\\' := by
  cases m with
  | one c =>
    have hc : Literal c := hm
    simpa [Member.text] using hc.ne (by decide)
  | span low high =>
    obtain ⟨hlow, hhigh, -⟩ := hm
    simpa [Member.text] using ⟨hlow.ne (by decide), hhigh.ne (by decide)⟩

theorem Member.text_length_pos (m : Member) : 0 < m.text.length := by
  cases m <;> exact Nat.succ_pos _

theorem members_ne_backslash {members : List Member} (hmembers : ∀ m ∈ members, m.Regular) :
    ∀ c ∈ members.flatMap Member.text, c ≠ '\\' := by
  intro c hc
  obtain ⟨m, hm, hc⟩ := List.mem_flatMap.mp hc
  exact Member.text_ne_backslash (hmembers m hm) c hc

/-- What is left of a set starts with a character that stands for itself, or is its end. -/
theorem head?_members {members : List Member} (hmembers : ∀ m ∈ members, m.Regular)
    (cs : List Char) :
    ∃ d rest, members.flatMap Member.text ++ ']' :: cs = d :: rest ∧ d ∉ ['\\', '-', '^'] := by
  have hliteral {c : Char} (hc : Literal c) : c ∉ ['\\', '-', '^'] := by
    simp [hc.ne (d := '\\') (by decide), hc.ne (d := '-') (by decide), hc.ne (d := '^') (by decide)]
  cases members with
  | nil => exact ⟨']', cs, rfl, by decide⟩
  | cons m members =>
    have hm : m.Regular := hmembers _ List.mem_cons_self
    cases m with
    | one c => exact ⟨c, _, rfl, hliteral hm⟩
    | span low high => exact ⟨low, _, rfl, hliteral hm.1⟩

theorem gives_setMember (c : Char) : Gives (setMember [c]) s cs (.char c.toNat) s cs := by
  unfold setMember
  split
  · rename_i h
    cases h
  · rename_i h
    cases h
    exact .pure
  · rename_i h
    cases h

theorem readSet_member {m : Member} (hm : m.Regular) {start : Nat} {items all : List SetItem}
    (hd : d ∉ ['\\', '-'])
    (hrest : Gives (readSet start fuel (items ++ [m.item])) s (d :: cs) all s' cs') :
    Gives (readSet start (fuel + 1) items) s (m.text ++ d :: cs) all s' cs' := by
  obtain ⟨hback, hhyphen⟩ : d ≠ '\\' ∧ d ≠ '-' := by simpa using hd
  have hnext : d :: cs ≠ ['\\'] := fun h => hback (List.cons.inj h).1
  unfold readSet
  cases m with
  | one c =>
    have hc : Literal c := hm
    refine (gives_take (begins_char (hc.ne (by decide)) _) hnext).bind ?_
    dsimp only
    rw [if_neg (by simp [hc.ne (d := ']') (by decide)])]
    refine (gives_setMember c).bind ?_
    refine (gives_accept_other hnext (by simpa using hhyphen)).bind ?_
    exact hrest
  | span low high =>
    obtain ⟨hlow, hhigh, hle, -⟩ := hm
    refine (gives_take (begins_char (hlow.ne (by decide)) _) (by simp)).bind ?_
    dsimp only
    rw [if_neg (by simp [hlow.ne (d := ']') (by decide)])]
    refine (gives_setMember low).bind ?_
    refine (gives_accept (by decide) (by simp)).bind ?_
    refine (gives_take (begins_char (hhigh.ne (by decide)) _) hnext).bind ?_
    dsimp only
    rw [if_neg (by simp [hhigh.ne (d := ']') (by decide)])]
    refine (gives_setMember high).bind ?_
    dsimp only
    rw [if_neg (by omega)]
    exact hrest

/-- The members of a set are read up to its end, behind those that have been read. -/
theorem gives_readSet (start : Nat) (hcs : cs ≠ ['\\']) {members : List Member}
    {items : List SetItem} (hmembers : ∀ m ∈ members, m.Regular) (hfuel : members.length < fuel)
    (hne : items ++ members.map Member.item ≠ []) :
    Gives (readSet start fuel items) s (members.flatMap Member.text ++ ']' :: cs)
      (items ++ members.map Member.item) s cs := by
  induction members generalizing items fuel with
  | nil =>
    obtain ⟨fuel, rfl⟩ := Nat.exists_eq_succ_of_ne_zero (Nat.ne_zero_of_lt hfuel)
    rw [List.map_nil, List.append_nil] at hne ⊢
    unfold readSet
    refine (gives_take (begins_char (by decide) cs) hcs).bind ?_
    dsimp only
    rw [if_pos (by simpa using hne)]
    exact .pure
  | cons m members ih =>
    obtain ⟨fuel, rfl⟩ := Nat.exists_eq_succ_of_ne_zero (Nat.ne_zero_of_lt hfuel)
    obtain ⟨hm, hmembers⟩ := List.forall_mem_cons.mp hmembers
    obtain ⟨d, rest, hmore, hd⟩ := head?_members hmembers cs
    have hplain : d ∉ ['\\', '-'] := fun h => hd (List.mem_append_left ['^'] h)
    have hrest : Gives (readSet start fuel (items ++ [m.item])) s (d :: rest)
        (items ++ (m :: members).map Member.item) s cs := by
      have hne : items ++ [m.item] ++ members.map Member.item ≠ [] := by simp
      rw [← hmore, List.map_cons, List.append_cons items _ (members.map _)]
      exact ih hmembers (Nat.lt_of_succ_lt_succ hfuel) hne
    rw [List.flatMap_cons, List.append_assoc, hmore]
    exact readSet_member hm hplain hrest

/-! ## Sequences of characters and sets -/

/-- One character of a pattern: itself, or any of a set. -/
inductive Atom where
  | char (c : Char)
  | oneOf (members : List Member)

def Atom.text : Atom → List Char
  | .char c => [c]
  | .oneOf members => '[' :: members.flatMap Member.text ++ [']']

/-- A set of a single character is read as that character. -/
def Atom.node : Atom → Node
  | .char c => .char c.toNat false
  | .oneOf members =>
    match members.map Member.item with
    | [.char c] => .char c false
    | items => .set items false

def Atom.Regular : Atom → Prop
  | .char c => Literal c
  | .oneOf members => members ≠ [] ∧ ∀ m ∈ members, m.Regular

instance : (a : Atom) → Decidable a.Regular
  | .char c => inferInstanceAs (Decidable (Literal c))
  | .oneOf _ => inferInstanceAs (Decidable (_ ∧ _))

theorem gives_readBrackets (start : Nat) {members : List Member} (hne : members ≠ [])
    (hmembers : ∀ m ∈ members, m.Regular) (hcs : cs ≠ ['\\']) :
    Gives (readBrackets start) s (members.flatMap Member.text ++ ']' :: cs)
      (Atom.oneOf members).node s cs := by
  obtain ⟨d, rest, hmore, hd⟩ := head?_members hmembers cs
  obtain ⟨hback, -, hcaret⟩ : d ≠ '\\' ∧ d ≠ '-' ∧ d ≠ '^' := by simpa using hd
  have hbehind : members.flatMap Member.text ++ ']' :: cs ≠ ['\\'] := by
    rw [hmore]
    exact fun h => hback (List.cons.inj h).1
  have hplain : (members.flatMap Member.text ++ ']' :: cs).head? ≠ some '^' := by
    rw [hmore]
    simpa using hcaret
  have hitems : [] ++ members.map Member.item ≠ [] := by simpa using hne
  unfold readBrackets
  refine (gives_accept_other hbehind hplain).bind (Gives.get fun n => ?_)
  have hfuel : members.length <
      (s.facing n (members.flatMap Member.text ++ ']' :: cs)).rest.length + 1 :=
    Nat.lt_succ_of_le ((length_le_flatMap fun m _ => m.text_length_pos).trans
      (length_le_tokens (members_ne_backslash hmembers) n _))
  refine (gives_readSet start hcs hmembers hfuel hitems).bind ?_
  exact .pure

theorem readSequence_atom {atom : Atom} (hatom : atom.Regular) (hnext : cs ≠ ['\\'])
    (hrest : Gives (readSequence fuel false first (atom.node :: acc)) s cs nodes s' cs') :
    Gives (readSequence (fuel + 1) false first acc) s (atom.text ++ cs) nodes s' cs' := by
  cases atom with
  | char c => exact readSequence_literal hatom hnext hrest
  | oneOf members =>
    obtain ⟨hne, hmembers⟩ : members ≠ [] ∧ ∀ m ∈ members, m.Regular := hatom
    have hbehind : members.flatMap Member.text ++ ']' :: cs ≠ ['\\'] := by
      obtain ⟨d, rest, hmore, hd⟩ := head?_members hmembers cs
      rw [hmore]
      exact fun h => hd (by simp [(List.cons.inj h).1])
    have htext : (Atom.oneOf members).text ++ cs =
        '[' :: (members.flatMap Member.text ++ ']' :: cs) := by
      simp [Atom.text]
    rw [htext]
    refine readSequence_char (by decide) hbehind (fun start => ?_) hrest
    unfold readPart
    simp only [Char.reduceEq, if_false, if_true]
    exact (gives_readBrackets start hne hmembers hnext).bind .pure

theorem Atom.text_length_pos (a : Atom) : 0 < a.text.length := by
  cases a <;> exact Nat.succ_pos _

theorem length_le_atoms (atoms : List Atom) : atoms.length ≤ (atoms.flatMap Atom.text).length :=
  length_le_flatMap fun a _ => a.text_length_pos

/-- Atoms start with a character that stands for itself, or with a bracket. -/
theorem head?_atoms {atoms : List Atom} (hatoms : ∀ a ∈ atoms, a.Regular) (hd : d ∈ needsEscape)
    (hbracket : d ≠ '[') (hcs : cs.head? ≠ some d) :
    (atoms.flatMap Atom.text ++ cs).head? ≠ some d := by
  cases atoms with
  | nil => exact hcs
  | cons a atoms =>
    have ha : a.Regular := hatoms a List.mem_cons_self
    cases a with
    | char c =>
      have hc : Literal c := ha
      simpa [Atom.text] using hc.ne hd
    | oneOf members => simpa [Atom.text] using hbracket.symm

theorem gives_readSequence_atoms {atoms : List Atom} (hatoms : ∀ a ∈ atoms, a.Regular)
    (hcs : cs.head? = some '|' ∨ cs.head? = some ')') (hfuel : atoms.length < fuel) :
    Gives (readSequence fuel false first acc) s (atoms.flatMap Atom.text ++ cs)
      (acc.reverse ++ atoms.map Atom.node) s cs := by
  induction atoms generalizing acc fuel with
  | nil =>
    obtain ⟨fuel, rfl⟩ := Nat.exists_eq_succ_of_ne_zero (Nat.ne_zero_of_lt hfuel)
    simpa using gives_readSequence_end (Or.inr hcs)
  | cons a atoms ih =>
    obtain ⟨fuel, rfl⟩ := Nat.exists_eq_succ_of_ne_zero (Nat.ne_zero_of_lt hfuel)
    obtain ⟨ha, hatoms⟩ := List.forall_mem_cons.mp hatoms
    have hback : cs.head? ≠ some '\\' := by
      rcases hcs with h | h <;> rw [h] <;> decide
    have hnext := ne_of_head? (head?_atoms hatoms (by decide) (by decide) hback)
    have hrest : Gives (readSequence fuel false first (a.node :: acc)) s
        (atoms.flatMap Atom.text ++ cs) (acc.reverse ++ (a :: atoms).map Atom.node) s cs := by
      rw [List.map_cons, List.append_cons acc.reverse, ← List.reverse_cons]
      exact ih hatoms (Nat.lt_of_succ_lt_succ hfuel)
    rw [List.flatMap_cons, List.append_assoc]
    exact readSequence_atom ha hnext hrest

/-! ## Groups -/

/-- Alternatives, with bars between them. -/
def choicesText (atoms : List Atom) (more : List (List Atom)) : List Char :=
  atoms.flatMap Atom.text ++ more.flatMap fun atoms => '|' :: atoms.flatMap Atom.text

/-- What a group holds: the one sequence, or a choice. -/
def enclosed : List (List Node) → List Node
  | [items] => items
  | choices => [.branch choices]

/-- A group of alternatives. -/
def groupNode (index : Nat) (choices : List (List Atom)) : Node :=
  .group (some index) {} (enclosed (choices.map (·.map Atom.node)))

section Choices

variable {atoms : List Atom} {more : List (List Atom)}

theorem head?_choices (hatoms : ∀ a ∈ atoms, a.Regular) (hd : d ∈ needsEscape)
    (hmarks : d ∉ ['[', '|', ')']) :
    (choicesText atoms more ++ ')' :: cs).head? ≠ some d := by
  obtain ⟨hbracket, hbar, hclose⟩ : d ≠ '[' ∧ d ≠ '|' ∧ d ≠ ')' := by simpa using hmarks
  rw [choicesText, List.append_assoc]
  refine head?_atoms hatoms hd hbracket ?_
  cases more with
  | nil => simpa using hclose.symm
  | cons atoms' more => simpa using hbar.symm

/-- Alternatives are read one after the other.  The fuel goes down with each bar, and the text that is
left gets shorter. -/
theorem gives_readBranches (hatoms : ∀ a ∈ atoms, a.Regular)
    (hmore : ∀ atoms ∈ more, ∀ a ∈ atoms, a.Regular)
    (hfuel : (choicesText atoms more).length + 2 ≤ fuel) :
    Gives (readBranches fuel false false first) s (choicesText atoms more ++ ')' :: cs)
      ((atoms :: more).map (·.map Atom.node)) s (')' :: cs) := by
  induction more generalizing atoms fuel first with
  | nil =>
    have hlength := length_le_atoms atoms
    obtain ⟨fuel, rfl⟩ : ∃ f, fuel = f + 1 := ⟨fuel - 1, by omega⟩
    simp only [choicesText, List.flatMap_nil, List.append_nil] at hfuel ⊢
    unfold readBranches
    refine (gives_readSequence_atoms hatoms (Or.inr rfl) (by omega)).bind ?_
    refine (gives_accept_other (by simp) (by simp)).bind ?_
    exact .pure
  | cons atoms' more ih =>
    have hlength := length_le_atoms atoms
    obtain ⟨fuel, rfl⟩ : ∃ f, fuel = f + 1 := ⟨fuel - 1, by omega⟩
    obtain ⟨hatoms', hmore⟩ := List.forall_mem_cons.mp hmore
    have htext : choicesText atoms (atoms' :: more) =
        atoms.flatMap Atom.text ++ '|' :: choicesText atoms' more := by
      simp [choicesText]
    rw [htext, List.length_append, List.length_cons] at hfuel
    have hnext : choicesText atoms' more ++ ')' :: cs ≠ ['\\'] :=
      ne_of_head? (head?_choices hatoms' (by decide) (by decide))
    rw [htext, List.append_assoc]
    unfold readBranches
    refine (gives_readSequence_atoms hatoms (Or.inl rfl) (by omega)).bind ?_
    refine (gives_accept (by decide) hnext).bind (Gives.get fun n => ?_)
    exact (ih hatoms' hmore (by omega)).bind .pure

theorem gives_readOpening (start : Nat) (hcs : cs ≠ ['\\']) (hhead : cs.head? ≠ some '?') :
    Gives (readOpening start) s cs (.capture none) s cs := by
  unfold readOpening
  exact (gives_accept_other hcs hhead).bind .pure

theorem gives_close (start : Nat) (hcs : cs ≠ ['\\']) : Gives (close start) s (')' :: cs) () s cs := by
  unfold close
  exact (gives_accept (by decide) hcs).bind .pure

/-- What is known, but for the groups. -/
def Scan.grouped (s : Scan) (groups : Array (Option Width)) : Scan := { s with groups := groups }

theorem gives_openGroup :
    Gives (openGroup none) s cs s.groups.size (s.grouped (s.groups.push none)) cs :=
  fun n => ⟨n, rfl⟩

theorem gives_closeGroup (s : Scan) (cs : List Char) (index : Nat) (body : List Node) :
    ∃ groups, groups.size = s.groups.size ∧
      Gives (closeGroup index body) s cs () (s.grouped groups) cs :=
  ⟨s.groups.set! index (some (sequenceWidth s.groups.toList body)), Array.size_setIfInBounds,
    fun n => ⟨n, rfl⟩⟩

theorem gives_readGroup (hatoms : ∀ a ∈ atoms, a.Regular)
    (hmore : ∀ atoms ∈ more, ∀ a ∈ atoms, a.Regular) (hcs : cs ≠ ['\\'])
    (hfuel : (choicesText atoms more).length + 3 ≤ fuel) :
    ∃ groups, groups.size = s.groups.size + 1 ∧ ∀ start,
      Gives (readGroup fuel false start (.capture none)) s (choicesText atoms more ++ ')' :: cs)
        (groupNode s.groups.size (atoms :: more)) (s.grouped groups) cs := by
  obtain ⟨fuel, rfl⟩ : ∃ f, fuel = f + 1 := ⟨fuel - 1, by omega⟩
  let opened := s.grouped (s.groups.push none)
  let body := enclosed ((atoms :: more).map (·.map Atom.node))
  have hbody : Gives (readBranches fuel false false false >>= fun choices =>
      match choices with
      | [items] => pure items
      | choices => pure [.branch choices]) opened (choicesText atoms more ++ ')' :: cs) body opened
        (')' :: cs) := by
    refine (gives_readBranches hatoms hmore (by omega)).bind ?_
    cases more <;> exact .pure
  obtain ⟨groups, hsize, hclose⟩ := gives_closeGroup opened cs s.groups.size body
  refine ⟨groups, by simpa [opened, Scan.grouped] using hsize, fun start => ?_⟩
  unfold readGroup
  refine gives_openGroup.bind (hbody.bind ?_)
  exact (gives_close start hcs).bind (hclose.bind .pure)

theorem readSequence_group (s : Scan) (first : Bool) (acc : List Node)
    (hatoms : ∀ a ∈ atoms, a.Regular) (hmore : ∀ atoms ∈ more, ∀ a ∈ atoms, a.Regular)
    (hcs : cs ≠ ['\\']) (hfuel : (choicesText atoms more).length + 3 ≤ fuel) :
    ∃ groups, groups.size = s.groups.size + 1 ∧ ∀ nodes s' cs',
      Gives (readSequence fuel false first (groupNode s.groups.size (atoms :: more) :: acc))
          (s.grouped groups) cs nodes s' cs' →
        Gives (readSequence (fuel + 1) false first acc) s
          ('(' :: choicesText atoms more ++ ')' :: cs) nodes s' cs' := by
  have hnext : choicesText atoms more ++ ')' :: cs ≠ ['\\'] :=
    ne_of_head? (head?_choices hatoms (by decide) (by decide))
  have hquestion : (choicesText atoms more ++ ')' :: cs).head? ≠ some '?' :=
    head?_choices hatoms (by decide) (by decide)
  obtain ⟨groups, hsize, hgroup⟩ := gives_readGroup hatoms hmore hcs hfuel
  refine ⟨groups, hsize, fun nodes s' cs' hrest => ?_⟩
  refine readSequence_token (begins_char (by decide) _) hnext (by decide) (fun start => ?_) hrest
  rw [readToken_char, if_pos rfl]
  unfold readParenthesis
  exact (gives_readOpening start hnext hquestion).bind ((hgroup start).bind .pure)

end Choices

/-! ## So many digits -/

/-- So many decimal digits. -/
def digitsNode (n : Nat) : Node := .repetition n (some n) .greedy [.set [.named .digit false] false]

theorem gives_readGreed (hcs : cs ≠ ['\\']) (hlazy : cs.head? ≠ some '?')
    (hpossessive : cs.head? ≠ some '+') : Gives readGreed s cs .greedy s cs := by
  unfold readGreed
  refine (gives_accept_other hcs hlazy).bind ?_
  exact (gives_accept_other hcs hpossessive).bind .pure

theorem gives_repeatLast (start least : Nat) (most : Option Nat) (items : List SetItem)
    (negated : Bool) (hcs : cs ≠ ['\\']) (hlazy : cs.head? ≠ some '?')
    (hpossessive : cs.head? ≠ some '+') :
    Gives (repeatLast start least most (.set items negated :: acc)) s cs
      (.repetition least most .greedy [.set items negated] :: acc) s cs := by
  unfold repeatLast
  exact (gives_readGreed hcs hlazy hpossessive).bind .pure

theorem readSequence_digits {n : Nat} (hn : n < greatestRepeat) (hcs : cs ≠ ['\\'])
    (hlazy : cs.head? ≠ some '?') (hpossessive : cs.head? ≠ some '+')
    (hrest : Gives (readSequence fuel false first (digitsNode n :: acc)) s cs nodes s' cs') :
    Gives (readSequence (fuel + 2) false first acc) s
      ('\\' :: 'd' :: '\x7b' :: (Nat.toDigits 10 n ++ '\x7d' :: cs)) nodes s' cs' := by
  have hnext : Nat.toDigits 10 n ++ '\x7d' :: cs ≠ ['\\'] := by
    refine fun h => absurd (congrArg List.length h) ?_
    have := Nat.length_toDigits_pos (b := 10) (n := n)
    simp
    omega
  have hclass : Gives (escape 'd') s ('\x7b' :: (Nat.toDigits 10 n ++ '\x7d' :: cs))
      (.set [.named .digit false] false) s ('\x7b' :: (Nat.toDigits 10 n ++ '\x7d' :: cs)) := .pure
  refine readSequence_token (begins_escape _ _) (by simp) (by decide)
    (fun start => hclass.bind .pure) ?_
  refine readSequence_char (by decide) hnext (fun start => ?_) hrest
  unfold readPart
  simp only [Char.reduceEq, if_false, if_true]
  refine (gives_readBounds hn hcs).bind ?_
  exact gives_repeatLast _ _ _ _ _ hcs hlazy hpossessive

end Reading

/-! ## Words -/

/-- The characters of a member. -/
def Member.chars : Member → List Char
  | .one c => [c]
  | .span low high => (List.range' low.toNat (high.toNat + 1 - low.toNat)).map Char.ofNat

/-- The characters that an atom stands for. -/
def Atom.chars : Atom → List Char
  | .char c => [c]
  | .oneOf members => members.flatMap Member.chars

/-- The texts that atoms stand for. -/
def spellings : List Atom → List (List Char)
  | [] => [[]]
  | a :: atoms => a.chars.flatMap fun c => (spellings atoms).map (c :: ·)

section Words

variable {c : Char} {w : List Char} {atoms : List Atom} {choices : List (List Atom)}

theorem mem_charWords : w ∈ (Node.char c.toNat false).words {} ↔ w = [c] := by
  simp [Node.words, mem_letters_iff, SetItem.holds, Char.toNat_inj]

theorem item_holds_iff {m : Member} (hm : m.Regular) :
    m.item.holds {} c = true ↔ c ∈ m.chars := by
  cases m with
  | one d => simp [Member.item, Member.chars, SetItem.holds, Char.toNat_inj]
  | span low high =>
    obtain ⟨-, -, -, hascii⟩ := hm
    have hvalue (n : Nat) (hn : n < 128) : (Char.ofNat n).toNat = n := by
      have hvalid : n.isValidChar := Or.inl (by omega)
      rw [Char.ofNat, dif_pos hvalid]
      rfl
    simp only [Member.item, Member.chars, SetItem.holds, Bool.false_eq_true, if_false,
      Bool.and_eq_true, decide_eq_true_eq, List.mem_map, List.mem_range'_1]
    constructor
    · rintro ⟨hlow, hhigh⟩
      exact ⟨c.toNat, by omega, Char.ofNat_toNat c⟩
    · rintro ⟨n, hn, rfl⟩
      rw [hvalue n (by omega)]
      omega

theorem mem_atomWords {a : Atom} (ha : a.Regular) :
    w ∈ a.node.words {} ↔ ∃ c ∈ a.chars, w = [c] := by
  cases a with
  | char c =>
    rw [Atom.node, mem_charWords]
    simp [Atom.chars]
  | oneOf members =>
    obtain ⟨-, hmembers⟩ := ha
    have hwords : (Atom.oneOf members).node.words {} =
        letters fun c => (members.map Member.item).any (SetItem.holds {} c) := by
      unfold Atom.node
      dsimp only
      split
      · rename_i n hitems
        simp [hitems, Node.words]
      · simp [Node.words]
    have hholds (c : Char) : (members.map Member.item).any (SetItem.holds {} c) = true ↔
        c ∈ members.flatMap Member.chars := by
      rw [List.any_map, List.any_eq_true, List.mem_flatMap]
      exact exists_congr fun m => and_congr_right fun hm => item_holds_iff (hmembers m hm)
    rw [hwords, mem_letters_iff]
    simp only [hholds, Atom.chars]

theorem mem_atomsWords (hatoms : ∀ a ∈ atoms, a.Regular) :
    w ∈ sequenceWords {} (atoms.map Atom.node) ↔ w ∈ spellings atoms := by
  induction atoms generalizing w with
  | nil => simp [sequenceWords, spellings, Language.mem_one]
  | cons a atoms ih =>
    obtain ⟨ha, hatoms⟩ := List.forall_mem_cons.mp hatoms
    simp only [List.map_cons, sequenceWords, Language.mem_mul, mem_atomWords ha, ih hatoms, spellings,
      List.mem_flatMap, List.mem_map]
    constructor
    · rintro ⟨_, ⟨c, hc, rfl⟩, v, hv, rfl⟩
      exact ⟨c, hc, v, hv, rfl⟩
    · rintro ⟨c, hc, v, hv, rfl⟩
      exact ⟨[c], ⟨c, hc, rfl⟩, v, hv, rfl⟩

theorem enclosed_words (f : Flags) (choices : List (List Node)) :
    sequenceWords f (enclosed choices) = choiceWords f choices := by
  unfold enclosed
  split
  · simp [choiceWords]
  · simp [sequenceWords, Node.words]

/-- **The words of a group are those that its alternatives spell.** -/
theorem mem_groupNode_words (index : Nat) (hchoices : ∀ atoms ∈ choices, ∀ a ∈ atoms, a.Regular) :
    w ∈ (groupNode index choices).words {} ↔ w ∈ choices.flatMap spellings := by
  have hwith : ({} : Flags).with {} = {} := rfl
  rw [groupNode, Node.words, hwith, enclosed_words]
  induction choices with
  | nil => simp [choiceWords]
  | cons atoms choices ih =>
    obtain ⟨hatoms, hchoices⟩ := List.forall_mem_cons.mp hchoices
    rw [List.map_cons, choiceWords, Language.mem_add, List.flatMap_cons, List.mem_append]
    exact or_congr (mem_atomsWords hatoms) (ih hchoices)

theorem mem_digitsWords (n : Nat) : w ∈ (digitsNode n).words {} ↔
    w.length = n ∧ ∀ c ∈ w, Text.isDecimalDigit c = true := by
  have hdigit : (Node.set [.named .digit false] false).words {} = letters Text.isDecimalDigit := by
    simp [Node.words, SetItem.holds, CharClass.holds]
  rw [digitsNode, Node.words, sequenceWords, sequenceWords, mul_one, hdigit, mem_repeated_letters_iff]
  simp only [Option.mem_some_iff, forall_eq']
  constructor
  · rintro ⟨hleast, hmost, hall⟩
    exact ⟨by omega, hall⟩
  · rintro ⟨hlength, hall⟩
    exact ⟨by omega, by omega, hall⟩

/-! ## Nothing but words -/

theorem plain_digitsNode (n : Nat) : (digitsNode n).Plain {} := by
  have hmoves : [] ∉ sequenceWords {} [Node.set [.named .digit false] false] := by
    rw [sequenceWords, Node.words]
    exact nil_notMem_mul_left nofun
  exact ⟨rfl, by simp, hmoves, trivial, trivial⟩

theorem plain_atoms (f : Flags) (atoms : List Atom) : PlainSequence f (atoms.map Atom.node) := by
  induction atoms with
  | nil => trivial
  | cons a atoms ih =>
    refine ⟨?_, ih⟩
    cases a with
    | char c => trivial
    | oneOf members =>
      unfold Atom.node
      dsimp only
      split <;> trivial

theorem plain_enclosed {f : Flags} {choices : List (List Node)} (h : PlainChoices f choices) :
    PlainSequence f (enclosed choices) := by
  unfold enclosed
  split
  · exact h.1
  · exact ⟨h, trivial⟩

theorem plain_groupNode (index : Nat) (choices : List (List Atom)) :
    (groupNode index choices).Plain {} := by
  refine plain_enclosed ?_
  induction choices with
  | nil => trivial
  | cons atoms choices ih => exact ⟨plain_atoms _ atoms, ih⟩

end Words

end FieldCheck.Regex
