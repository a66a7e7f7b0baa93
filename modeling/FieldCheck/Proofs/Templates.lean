import FieldCheck.Message.Default
import Mathlib.Data.List.TakeWhile

/-!
# Messages and format strings

The messages of the standard rules are made of parts.  Most of them are format strings in which fields
between braces are replaced, and what is put in their place is not looked at again.

* `Phrase.written?`, `Template.format?` — a part as it stands in a format string, and the string.
* `expandPieces_plain`, `expandPieces_field` — what a character and a field add to an expansion.
* `text_of_name?` — the values that fields name are those that the parts show.
* `Template.servedBy`, `Template.message_of_served` — whether a number of arguments is enough.

Principal result: `Template.message_eq_expand`, a format string is expanded to its parts.
-/

set_option autoImplicit false

namespace FieldCheck

open Message Text

/-! ## Parts in writing -/

/-- The name of the value that a part shows. -/
def Phrase.name? : Phrase → Option String
  | .label => some "label"
  | .capitalLabel => some "Label"
  | .argument n => some (argumentName n)
  | .arguments => some "args"
  | .fixed _ | .argumentIfAny _ => none

/-- A field that names a value. -/
def writtenField (name : String) : List Char := '\x7b' :: name.toList ++ ['\x7d']

/-- Whether a character stands for itself in a format string. -/
def isPlain (c : Char) : Bool := c ≠ '\x7b' && c ≠ '\x7d'

/-- A part as it stands in a format string, if it can. -/
def Phrase.written? : Phrase → Option (List Char)
  | .fixed s => if s.toList.all isPlain then some s.toList else none
  | p => p.name?.map writtenField

theorem Phrase.written?_eq_some {p : Phrase} {here : List Char} (h : p.written? = some here) :
    (∃ t, p = .fixed t ∧ t.toList.all isPlain = true ∧ here = t.toList) ∨
      ∃ name, p.name? = some name ∧ here = writtenField name := by
  cases p with
  | fixed t =>
    simp only [Phrase.written?] at h
    split at h
    · rename_i hplain
      exact Or.inl ⟨t, rfl, hplain, (Option.some.inj h).symm⟩
    · cases h
  | argumentIfAny n => cases h
  | label => exact Or.inr ⟨_, rfl, (Option.some.inj h).symm⟩
  | capitalLabel => exact Or.inr ⟨_, rfl, (Option.some.inj h).symm⟩
  | argument n => exact Or.inr ⟨_, rfl, (Option.some.inj h).symm⟩
  | arguments => exact Or.inr ⟨_, rfl, (Option.some.inj h).symm⟩

/-- Parts one after the other in a format string. -/
def writtenParts? : List Phrase → Option (List Char)
  | [] => some []
  | p :: rest =>
    match p.written?, writtenParts? rest with
    | some s, some more => some (s ++ more)
    | _, _ => none

/-- The format string that a template is, if it is one. -/
def Template.format? : Template → Option String
  | .parts ps => (writtenParts? ps).map String.ofList
  | _ => none

/-! ## Names of values -/

/-- Whether a character means something in a field. -/
def isFieldMark (c : Char) : Bool :=
  c = '\x7b' || c = '\x7d' || c = '[' || c = '.' || c = ':' || c = '!'

/-- Names that a field may consist of: they do not look like a number, and nothing in them ends the
name or leads on to a part of the value. -/
structure IsFieldName (name : List Char) : Prop where
  letter : ∃ c rest, name = c :: rest ∧ digitValue? c = none
  simple : name.all (fun c => !isFieldMark c) = true

theorem argumentName_toList (n : Nat) :
    (argumentName n).toList = ['a', 'r', 'g'] ++ Nat.toDigits 10 n := by
  show ("arg" ++ n.repr).toList = _
  rw [String.toList_append, Nat.toList_repr]
  rfl

theorem isFieldMark_of_isDigit {c : Char} (h : c.isDigit = true) : isFieldMark c = false := by
  cases hmark : isFieldMark c with
  | false => rfl
  | true =>
    simp only [isFieldMark, Bool.or_eq_true, decide_eq_true_eq] at hmark
    rcases hmark with ((((rfl | rfl) | rfl) | rfl) | rfl) | rfl <;> cases h

theorem isFieldName_argumentName (n : Nat) : IsFieldName (argumentName n).toList := by
  rw [argumentName_toList]
  refine ⟨⟨'a', _, rfl, rfl⟩, ?_⟩
  rw [List.all_append, Bool.and_eq_true_iff]
  refine ⟨rfl, List.all_eq_true.mpr fun c hc => ?_⟩
  rw [isFieldMark_of_isDigit (Nat.isDigit_of_mem_toDigits (by decide) (by decide) hc)]
  rfl

theorem Phrase.isFieldName_of_name? {p : Phrase} {name : String} (h : p.name? = some name) :
    IsFieldName name.toList := by
  cases p with
  | label =>
    cases h
    exact ⟨⟨'l', _, rfl, rfl⟩, rfl⟩
  | capitalLabel =>
    cases h
    exact ⟨⟨'L', _, rfl, rfl⟩, rfl⟩
  | arguments =>
    cases h
    exact ⟨⟨'a', _, rfl, rfl⟩, rfl⟩
  | argument n =>
    cases h
    exact isFieldName_argumentName n
  | fixed s => cases h
  | argumentIfAny n => cases h

/-- The names of arguments are told from each other by their numbers. -/
theorem argumentName_inj {m n : Nat} : argumentName m = argumentName n ↔ m = n := by
  constructor
  · intro h
    have hdigits : Nat.toDigits 10 m = Nat.toDigits 10 n := by
      have hnames := congrArg String.toList h
      rwa [argumentName_toList, argumentName_toList, List.append_cancel_left_eq] at hnames
    rw [← Nat.ofDigitChars_ten_toDigits (n := m), hdigits, Nat.ofDigitChars_ten_toDigits]
  · rintro rfl
    rfl

/-- No argument goes by the name of another value. -/
theorem argumentName_ne (n : Nat) : ∀ name ∈ ["label", "Label", "args", "rule"],
    argumentName n ≠ name := by
  rintro name hname rfl
  have hother : ∀ name ∈ ["label", "Label", "args", "rule"],
      ¬(name.toList.take 3 = ['a', 'r', 'g'] ∧ (name.toList.drop 3).all Char.isDigit = true) := by
    decide
  refine hother _ hname ⟨by rw [argumentName_toList]; rfl, ?_⟩
  rw [argumentName_toList, List.all_eq_true]
  intro c hc
  exact Nat.isDigit_of_mem_toDigits (b := 10) (n := n) (by decide) (by decide) hc

/-! ## Values -/

section Values

variable {o : Outcome} {label : String}

theorem lookup_mapIdx_argumentName (args : List Value) (k n : Nat) :
    (args.mapIdx fun i v => (argumentName (i + k), v)).lookup (argumentName (n + k)) = args[n]? := by
  induction args generalizing k n with
  | nil => rfl
  | cons v rest ih =>
    rw [List.mapIdx_cons, List.lookup_cons]
    cases n with
    | zero => simp
    | succ n =>
      have hne : (argumentName (n + 1 + k) == argumentName (0 + k)) = false := by
        rw [beq_eq_false_iff_ne, ne_eq, argumentName_inj]
        omega
      have hshift : ∀ i, i + 1 + k = i + (k + 1) := by
        intro i
        omega
      rw [hne]
      simp only [hshift]
      exact ih (k + 1) n

theorem lookup_argumentName (n : Nat) :
    (templateValues o label).lookup (argumentName n) = o.args[n]? := by
  have hother : ∀ name ∈ ["label", "Label", "args", "rule"], (argumentName n == name) = false :=
    fun name hname => beq_eq_false_iff_ne.mpr (argumentName_ne n name hname)
  have hlabel := hother "label" (by decide)
  have hcapital := hother "Label" (by decide)
  have hargs := hother "args" (by decide)
  have hrule := hother "rule" (by decide)
  rw [templateValues]
  simp only [List.cons_append, List.nil_append, List.lookup_cons, hlabel, hcapital, hargs, hrule]
  exact lookup_mapIdx_argumentName o.args 0 n

/-- The value that a field names is what the part shows; the one is missing where the other is. -/
theorem text_of_name? {p : Phrase} {name : String} (h : p.name? = some name) :
    p.text o label =
      match (templateValues o label).lookup name with
      | some v => .ok v.textForm
      | none => .error (.missingKey name) := by
  cases p with
  | argument n =>
    cases h
    rw [lookup_argumentName]
    rfl
  | label => cases h; rfl
  | capitalLabel => cases h; rfl
  | arguments => cases h; rfl
  | fixed s => cases h
  | argumentIfAny n => cases h

end Values

/-! ## Reading format strings -/

section Reading

variable {values : Values} {depth fuel : Nat} {c : Char} {s : List Char} {name : String}

theorem isFieldMark_eq_false : isFieldMark c = false ↔
    c ≠ '\x7b' ∧ c ≠ '\x7d' ∧ c ≠ '[' ∧ c ≠ '.' ∧ c ≠ ':' ∧ c ≠ '!' := by
  simp [isFieldMark, and_assoc]

theorem takeName_of_isFieldName {name : List Char}
    (h : name.all (fun c => !isFieldMark c) = true) (s : List Char) :
    takeName false (name ++ '\x7d' :: s) = .ok (name, some '\x7d', s) := by
  induction name with
  | nil => rfl
  | cons c rest ih =>
    rw [List.all_cons, Bool.and_eq_true_iff, Bool.not_eq_true'] at h
    obtain ⟨hopen, hclose, hbracket, -, hcolon, hbang⟩ := isFieldMark_eq_false.mp h.1
    rw [List.cons_append, takeName]
    simp only [hopen, hclose, hbracket, hcolon, hbang, ih h.2, Bool.false_eq_true, if_false,
      decide_false, Bool.or_self]

theorem fieldValue_of_isFieldName (h : IsFieldName name.toList) :
    fieldValue values name.toList =
      match values.lookup name with
      | some v => .ok v
      | none => .error (.missingKey name) := by
  have hwhole : (name.toList.takeWhile fun c => c != '.' && c != '[') = name.toList := by
    rw [List.takeWhile_eq_self_iff]
    intro c hc
    have hsimple := List.all_eq_true.mp h.simple c hc
    obtain ⟨-, -, hbracket, hdot, -⟩ := isFieldMark_eq_false.mp (by simpa using hsimple)
    simp [hbracket, hdot]
  have hnumber : numberOf name.toList = .ok none := by
    obtain ⟨c, rest, heq, hc⟩ := h.letter
    rw [heq, numberOf, List.mapM_cons, hc]
    rfl
  have hne : name.toList.isEmpty = false := by
    obtain ⟨c, rest, heq, -⟩ := h.letter
    rw [heq]
    rfl
  unfold fieldValue
  simp only [hwhole, hnumber, hne, String.ofList_toList, Bool.false_eq_true, if_false]
  cases values.lookup name with
  | none => rfl
  | some v =>
    simp only [List.drop_length]
    cases name.toList.length <;> rfl

/-- A character that stands for itself is put before the piece that follows. -/
theorem nextPiece_plain (hc : isPlain c = true) (s : List Char) :
    nextPiece (c :: s) =
      (nextPiece s).map fun piece => { piece with literal := c :: piece.literal } := by
  have hbrace : (decide (c = '\x7b') || decide (c = '\x7d')) = false := by
    simpa [isPlain] using hc
  unfold nextPiece
  simp only [takeLiteral, hbrace, Bool.false_eq_true, if_false]
  obtain ⟨literal, after⟩ := takeLiteral s
  cases after with
  | nil => rfl
  | cons d rest =>
    by_cases hdouble : rest.head? = some d
    · simp only [hdouble, if_true]
      rfl
    · by_cases hclose : d = '\x7d'
      · subst hclose
        simp only [hdouble, if_true, if_false]
        rfl
      · simp only [hdouble, hclose, if_false]
        split
        · rfl
        · cases takeField rest with
          | error fault => rfl
          | ok found => rfl

/-- The text that a field is replaced by. -/
def fieldText (values : Values) (depth : Nat) (field : Message.Field) :
    Except TemplateFault (List Char) := do
  let v ← fieldValue values field.name
  let v ← convert v field.conversion
  let layout ←
    if field.nested then expandPieces values depth (field.layout.length + 1) field.layout
    else pure field.layout
  v.formatted layout

/-- What stands behind the text of a piece: its field, and whatever follows. -/
def behindLiteral (values : Values) (depth fuel : Nat) (piece : Piece) :
    Except TemplateFault (List Char) := do
  let here ← match piece.field with
    | none => pure []
    | some field => fieldText values depth field
  let rest ← expandPieces values (depth + 1) fuel piece.rest
  pure (here ++ rest)

theorem expandPieces_nil : expandPieces values (depth + 1) fuel [] = .ok [] := by
  cases fuel with
  | zero => rw [expandPieces]; simp
  | succ fuel => rw [expandPieces]; rfl

/-- A format string is expanded piece by piece. -/
theorem expandPieces_succ (s : List Char) :
    expandPieces values (depth + 1) (fuel + 1) s =
      (nextPiece s).bind fun piece =>
        (behindLiteral values depth fuel piece).map (piece.literal ++ ·) := by
  cases s with
  | nil =>
    rw [expandPieces_nil]
    show _ = (behindLiteral values depth fuel ⟨[], none, []⟩).map _
    rw [behindLiteral, expandPieces_nil]
    rfl
  | cons c rest =>
    rw [expandPieces]
    simp only [List.isEmpty_cons, Bool.false_eq_true, if_false, bind]
    cases nextPiece (c :: rest) with
    | error fault => rfl
    | ok piece =>
      obtain ⟨literal, field, rest⟩ := piece
      -- whatever the field makes, the text before it stays in front
      have hfront : ∀ here, (expandPieces values (depth + 1) fuel rest).bind
          (fun more => pure (literal ++ here ++ more)) =
          ((expandPieces values (depth + 1) fuel rest).bind fun more => pure (here ++ more)).map
            (literal ++ ·) := by
        intro here
        cases expandPieces values (depth + 1) fuel rest with
        | error fault => rfl
        | ok more => simp [Except.bind, Except.map, pure, Except.pure]
      cases field with
      | none => exact hfront []
      | some field =>
        simp only [behindLiteral, fieldText, bind, Except.bind] at hfront ⊢
        cases fieldValue values field.name with
        | error fault => rfl
        | ok v =>
          simp only
          cases convert v field.conversion with
          | error fault => rfl
          | ok v =>
            simp only
            split
            · cases expandPieces values depth (field.layout.length + 1) field.layout with
              | error fault => rfl
              | ok layout =>
                simp only
                cases v.formatted layout with
                | error fault => rfl
                | ok here => exact hfront here
            · simp only [pure, Except.pure] at hfront ⊢
              cases v.formatted field.layout with
              | error fault => rfl
              | ok here => exact hfront here

/-- A character that stands for itself. -/
theorem expandPieces_plain (hc : isPlain c = true) (s : List Char) :
    expandPieces values (depth + 1) (fuel + 1) (c :: s) =
      (expandPieces values (depth + 1) (fuel + 1) s).map (c :: ·) := by
  rw [expandPieces_succ, expandPieces_succ, nextPiece_plain hc]
  cases nextPiece s with
  | error fault => rfl
  | ok piece =>
    show (behindLiteral values depth fuel piece).map _ =
      ((behindLiteral values depth fuel piece).map _).map _
    cases behindLiteral values depth fuel piece <;> rfl

theorem nextPiece_field (h : IsFieldName name.toList) (s : List Char) :
    nextPiece (writtenField name ++ s) =
      .ok { literal := [], field := some { name := name.toList }, rest := s } := by
  have hread : takeField (name.toList ++ '\x7d' :: s) = .ok ({ name := name.toList }, s) := by
    simp only [takeField, takeName_of_isFieldName h.simple s, if_true]
  obtain ⟨c, rest, heq, -⟩ := h.letter
  have hopen : c ≠ '\x7b' := by
    rintro rfl
    have hsimple := List.all_eq_true.mp h.simple '\x7b' (by rw [heq]; exact List.mem_cons_self)
    cases hsimple
  have hshape : writtenField name ++ s = '\x7b' :: (name.toList ++ '\x7d' :: s) := by
    simp [writtenField]
  have hhead : (name.toList ++ '\x7d' :: s).head? ≠ some '\x7b' := by
    rw [heq]
    simpa using hopen
  have hmore : (name.toList ++ '\x7d' :: s).isEmpty = false := by
    rw [heq]
    rfl
  have hliteral : takeLiteral ('\x7b' :: (name.toList ++ '\x7d' :: s)) =
      ([], '\x7b' :: (name.toList ++ '\x7d' :: s)) := rfl
  rw [hshape, nextPiece, hliteral]
  simp only [if_neg hhead, hread, hmore]
  rfl

/-- A field is replaced by the text of its value, which is not read again. -/
theorem expandPieces_field (h : IsFieldName name.toList) (s : List Char) :
    expandPieces values (depth + 1) (fuel + 1) (writtenField name ++ s) =
      match values.lookup name with
      | some v => (expandPieces values (depth + 1) fuel s).map (v.textForm.toList ++ ·)
      | none => .error (.missingKey name) := by
  have hfield : fieldText values depth { name := name.toList } =
      match values.lookup name with
      | some v => .ok v.textForm.toList
      | none => .error (.missingKey name) := by
    rw [fieldText, fieldValue_of_isFieldName h]
    cases values.lookup name with
    | none => rfl
    | some v => rfl
  rw [expandPieces_succ, nextPiece_field h]
  show (behindLiteral values depth fuel ⟨[], some { name := name.toList }, s⟩).map _ = _
  simp only [behindLiteral, hfield]
  cases values.lookup name with
  | none => rfl
  | some v => cases expandPieces values (depth + 1) fuel s <;> rfl

/-- A text that stands for itself. -/
theorem expandPieces_fixed {t : List Char} (ht : t.all isPlain = true) (s : List Char) :
    expandPieces values (depth + 1) (fuel + 1) (t ++ s) =
      (expandPieces values (depth + 1) (fuel + 1) s).map (t ++ ·) := by
  induction t with
  | nil =>
    rw [List.nil_append]
    cases expandPieces values (depth + 1) (fuel + 1) s <;> rfl
  | cons c rest ih =>
    rw [List.all_cons, Bool.and_eq_true_iff] at ht
    obtain ⟨hc, hrest⟩ := ht
    rw [List.cons_append, expandPieces_plain hc, ih hrest]
    cases expandPieces values (depth + 1) (fuel + 1) s <;> rfl

end Reading

/-! ## Format strings -/

section Format

variable {o : Outcome} {label : String} {ps : List Phrase} {s : List Char} {fuel : Nat}

theorem partsText_cons (p : Phrase) (rest : List Phrase) :
    partsText o label (p :: rest) =
      (p.text o label).bind fun s => (partsText o label rest).map (s ++ ·) := by
  rw [partsText]
  cases p.text o label with
  | error fault => rfl
  | ok s => cases partsText o label rest <;> rfl

/-- Parts in writing are expanded to the parts, as long as every field has its turn. -/
theorem expandPieces_writtenParts (depth : Nat) (hs : writtenParts? ps = some s)
    (hfuel : s.length < fuel) :
    (expandPieces (templateValues o label) (depth + 1) fuel s).map String.ofList =
      partsText o label ps := by
  induction ps generalizing s fuel with
  | nil =>
    cases hs
    rw [expandPieces_nil]
    rfl
  | cons p rest ih =>
    obtain ⟨fuel, rfl⟩ := Nat.exists_eq_succ_of_ne_zero (Nat.ne_zero_of_lt hfuel)
    obtain ⟨here, more, hhere, hmore, rfl⟩ : ∃ here more, p.written? = some here ∧
        writtenParts? rest = some more ∧ s = here ++ more := by
      unfold writtenParts? at hs
      split at hs
      · rename_i here more hhere hmore
        exact ⟨here, more, hhere, hmore, (Option.some.inj hs).symm⟩
      · cases hs
    rw [partsText_cons]
    rcases Phrase.written?_eq_some hhere with ⟨t, rfl, hplain, rfl⟩ | ⟨name, hname, rfl⟩
    · have hless : more.length < fuel + 1 := by
        rw [List.length_append] at hfuel
        omega
      show _ = (partsText o label rest).map (t ++ ·)
      rw [expandPieces_fixed hplain, ← ih hmore hless]
      cases expandPieces (templateValues o label) (depth + 1) (fuel + 1) more with
      | error fault => rfl
      | ok s => simp [Except.map]
    · have hless : more.length < fuel := by
        simp only [writtenField, List.length_append, List.length_cons] at hfuel
        omega
      rw [expandPieces_field (p.isFieldName_of_name? hname), text_of_name? hname, ← ih hmore hless]
      cases (templateValues o label).lookup name with
      | none => rfl
      | some v =>
        show _ = Except.map _ _
        cases expandPieces (templateValues o label) (depth + 1) fuel more with
        | error fault => rfl
        | ok s => simp [Except.map]

/-- **A format string is expanded to its parts**, whatever the label and the arguments hold. -/
theorem Template.message_eq_expand {t : Template} {text : String} (h : t.format? = some text)
    (o : Outcome) (label : String) :
    t.message o label = expand (templateValues o label) text := by
  cases t with
  | parts ps =>
    obtain ⟨s, hs, rfl⟩ := Option.map_eq_some_iff.mp h
    rw [expand, String.toList_ofList]
    exact (expandPieces_writtenParts 1 hs (Nat.lt_succ_self _)).symm
  | choice test yes no => cases h
  | written text => cases h
  | function f => cases h

end Format

example : (["accepted", "between", "mime", "number", "max"].map fun rule =>
      (({} : Messages).template rule).format?) =
    [some "Please accept the \x7blabel\x7d.",
      some "\x7bLabel\x7d must be between \x7barg0\x7d and \x7barg1\x7d.",
      some "\x7bLabel\x7d must be of the type: \x7bargs\x7d.",
      some "\x7bLabel\x7d must be a number.", none] := by
  rfl

/-! ## Arguments that are there -/

/-- How many arguments a part takes at least. -/
def Phrase.needs : Phrase → Nat
  | .argument n => n + 1
  | _ => 0

/-- Whether so many arguments are enough for a template, whatever they are. -/
def Template.servedBy (n : Nat) : Template → Bool
  | .parts ps => ps.all fun p => p.needs ≤ n
  | .choice _ yes no => (yes ++ no).all fun p => p.needs ≤ n
  | .written _ => false
  | .function _ => true

section Served

variable {o : Outcome} {t : Template} {m n : Nat}

theorem Phrase.text_of_served {p : Phrase} (h : p.needs ≤ o.args.length) (label : String) :
    ∃ s, p.text o label = .ok s := by
  cases p with
  | argument n => exact ⟨_, by rw [Phrase.text, List.getElem?_eq_getElem h]⟩
  | _ => exact ⟨_, rfl⟩

theorem partsText_of_served {ps : List Phrase} (h : ∀ p ∈ ps, p.needs ≤ o.args.length)
    (label : String) : ∃ s, partsText o label ps = .ok s := by
  induction ps with
  | nil => exact ⟨_, rfl⟩
  | cons p rest ih =>
    obtain ⟨hp, hrest⟩ := List.forall_mem_cons.mp h
    obtain ⟨s, hs⟩ := p.text_of_served hp label
    obtain ⟨more, hmore⟩ := ih hrest
    exact ⟨s ++ more, by rw [partsText, hs, hmore]⟩

/-- A template that is served makes a message. -/
theorem Template.message_of_served (h : t.servedBy o.args.length = true) (label : String) :
    ∃ message, t.message o label = .ok message := by
  cases t with
  | parts ps => exact partsText_of_served (by simpa [servedBy] using h) label
  | choice test yes no =>
    simp only [servedBy, List.all_eq_true, decide_eq_true_eq] at h
    refine partsText_of_served (fun p hp => h p ?_) label
    split at hp
    · exact List.mem_append_left _ hp
    · exact List.mem_append_right _ hp
  | written s => cases h
  | function f => exact ⟨_, rfl⟩

theorem Template.servedBy_mono (h : t.servedBy m = true) (hmn : m ≤ n) : t.servedBy n = true := by
  cases t with
  | parts ps =>
    simp only [servedBy, List.all_eq_true, decide_eq_true_eq] at h ⊢
    exact fun p hp => Nat.le_trans (h p hp) hmn
  | choice test yes no =>
    simp only [servedBy, List.all_eq_true, decide_eq_true_eq] at h ⊢
    exact fun p hp => Nat.le_trans (h p hp) hmn
  | written s => cases h
  | function f => rfl

/-- Of the standard rules only `between` is spoken of with arguments that have to be there. -/
theorem standardTemplates_served : ∀ p ∈ standardTemplates,
    p.2.servedBy (if p.1 = "between" then 2 else 0) = true := by
  decide

/-- The template for a failure makes a message, if `between` has two arguments. -/
theorem Messages.message_of_served (hbetween : o.rule = "between" → 2 ≤ o.args.length)
    (label : String) :
    ∃ message, (({} : Messages).template o.rule).message o label = .ok message := by
  refine Template.message_of_served ?_ label
  cases hlookup : standardTemplates.lookup o.rule with
  | none =>
    have hfallback : ({} : Messages).template o.rule = about " is invalid." := by
      simp [Messages.template, hlookup]
    rw [hfallback]
    exact Template.servedBy_mono (m := 0) (by decide) (Nat.zero_le _)
  | some t =>
    have htemplate : ({} : Messages).template o.rule = t := by
      simp [Messages.template, hlookup]
    obtain ⟨before, behind, hsplit, -⟩ := List.lookup_eq_some_iff.mp hlookup
    have hserved := standardTemplates_served (o.rule, t) (by rw [hsplit]; simp)
    rw [htemplate]
    refine Template.servedBy_mono hserved ?_
    split
    · rename_i hrule
      exact hbetween hrule
    · exact Nat.zero_le _

end Served

end FieldCheck
