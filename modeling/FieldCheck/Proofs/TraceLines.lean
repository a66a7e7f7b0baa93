import FieldCheck.Evaluation.Outcome
import FieldCheck.Proofs.Equality
import FieldCheck.Proofs.Forms
import FieldCheck.Proofs.Limits
import FieldCheck.Proofs.Segment

/-!
# The lines of a report

A report is shown with one line for each rule, if the literals of the arguments can be written.  What
stands in the arguments cannot add to the lines, as no literal holds a line break.

* `lineBreaks`, `Unbroken` — the characters that end a line, and texts without them; none of them is
  printable, and each of them is blank.
* `unbroken_quoted`, `unbroken_quotedBytes` — quoted texts, whatever they quote.
* `Value.Showable` — the values of all kinds, with members to any depth; `Value.Showable.unbroken` is by
  induction on them.
* `Outcome.ShownAs` — the line of an outcome.
* `format_eq_ok_iff`, `format_eq_error_iff` — when there is a text, and what is raised otherwise.

Principal result: `report_has_a_line_each`.  That the literals can be written has to be asked for:
`report_without_text`.
-/

set_option autoImplicit false

namespace FieldCheck

open Text

/-! ## Texts without line breaks -/

/-- The characters that end a line: line feed, vertical tab, form feed, carriage return, the separators
of files, groups and records, next line, and the separators of lines and paragraphs. -/
def lineBreaks : List Char :=
  [10, 11, 12, 13, 28, 29, 30, 133, 8232, 8233].map Char.ofNat

/-- A text without line breaks. -/
def Unbroken (s : List Char) : Prop := ∀ c ∈ s, c ∉ lineBreaks

-- Named, as the search may also find the instance that goes through all characters there are.
instance (s : List Char) : Decidable (Unbroken s) :=
  List.decidableBAll (fun c => c ∉ lineBreaks) s

section Unbroken

variable {a b s : List Char} {c : Char}

@[simp] theorem unbroken_nil : Unbroken [] := nofun

@[simp] theorem unbroken_cons : Unbroken (c :: s) ↔ c ∉ lineBreaks ∧ Unbroken s :=
  List.forall_mem_cons

@[simp] theorem unbroken_append : Unbroken (a ++ b) ↔ Unbroken a ∧ Unbroken b :=
  List.forall_mem_append

theorem Unbroken.append (ha : Unbroken a) (hb : Unbroken b) : Unbroken (a ++ b) :=
  unbroken_append.mpr ⟨ha, hb⟩

theorem Unbroken.of_subset (h : Unbroken b) (hsub : a ⊆ b) : Unbroken a :=
  fun c hc => h c (hsub hc)

theorem unbroken_intercalate {ts : List (List Char)} (hseparator : Unbroken s)
    (hts : ∀ t ∈ ts, Unbroken t) : Unbroken (s.intercalate ts) := by
  intro c hc
  rcases mem_intercalate hc with hc | ⟨t, ht, hc⟩
  · exact hseparator c hc
  · exact hts t ht c hc

theorem isBlank_of_lineBreak (hbreak : c ∈ lineBreaks) : isBlank c = true := by
  have hall : lineBreaks.all isBlank = true := by decide
  exact List.all_eq_true.mp hall c hbreak

theorem not_lineBreak_of_isPrintable (h : isPrintable c = true) : c ∉ lineBreaks := by
  have hall : lineBreaks.all (fun c => !isPrintable c) = true := by decide +kernel
  intro hbreak
  have hplain := List.all_eq_true.mp hall c hbreak
  rw [h] at hplain
  cases hplain

/-- What is written without blanks is written without line breaks. -/
theorem unbroken_of_solid (h : s.all isSolid = true) : Unbroken s := by
  intro c hc hbreak
  have hsolid := List.all_eq_true.mp h c hc
  rw [isSolid, isBlank_of_lineBreak hbreak] at hsolid
  cases hsolid

/-- Names hold no blanks. -/
theorem unbroken_of_isName (h : isName s = true) : Unbroken s := by
  intro c hc hbreak
  have hblank := (isName_char h hc).1
  rw [isBlank_of_lineBreak hbreak] at hblank
  cases hblank

end Unbroken

/-! ## Quoted texts -/

section Quoted

theorem hexDigit_not_lineBreak : ∀ n < 16, hexDigit n ∉ lineBreaks := by decide

theorem unbroken_hexDigits (width n : Nat) : Unbroken (hexDigits width n) := by
  induction width generalizing n with
  | zero => exact unbroken_nil
  | succ width ih =>
    rw [hexDigits, unbroken_append]
    have hlast := hexDigit_not_lineBreak (n % 16) (Nat.mod_lt n (by decide))
    exact ⟨ih (n / 16), unbroken_cons.mpr ⟨hlast, unbroken_nil⟩⟩

theorem unbroken_numbered (n : Nat) : Unbroken (numbered n) := by
  have hmarks : '\\' ∉ lineBreaks ∧ 'x' ∉ lineBreaks ∧ 'u' ∉ lineBreaks ∧ 'U' ∉ lineBreaks := by
    decide
  unfold numbered
  split
  · simp [hmarks, unbroken_hexDigits]
  · split
    · simp [hmarks, unbroken_hexDigits]
    · simp [hmarks, unbroken_hexDigits]

/-- A character stands for itself only if it is printable; the others are written by marks and
numbers. -/
theorem unbroken_quotedChar {quote : Char} (hquote : quote ∉ lineBreaks) (c : Char) :
    Unbroken (quotedChar quote c) := by
  have hbackslash : '\\' ∉ lineBreaks := by decide
  unfold quotedChar
  split
  · rename_i hescaped
    rw [Bool.or_eq_true, decide_eq_true_eq, decide_eq_true_eq] at hescaped
    rcases hescaped with rfl | rfl
    · simp [hbackslash, hquote]
    · simp [hbackslash]
  · split
    · decide
    · split
      · decide
      · split
        · decide
        · split
          · rename_i hprintable
            simp [not_lineBreak_of_isPrintable hprintable]
          · exact unbroken_numbered c.toNat

theorem quoteFor_not_lineBreak (s : List Char) : quoteFor s ∉ lineBreaks := by
  unfold quoteFor
  split
  · decide
  · decide

/-- **A quoted text holds no line break**, whatever the text holds. -/
theorem unbroken_quoted (s : List Char) : Unbroken (quoted s) := by
  have hquote := quoteFor_not_lineBreak s
  have hinner : Unbroken (s.flatMap (quotedChar (quoteFor s))) := by
    intro c hc
    obtain ⟨d, -, hc⟩ := List.mem_flatMap.mp hc
    exact unbroken_quotedChar hquote d c hc
  simp [quoted, hquote, hinner]

theorem unbroken_quotedByte (quote : Char) (n : Nat) : Unbroken (quotedByte quote n) := by
  have hmarks : '\\' ∉ lineBreaks ∧ 'x' ∉ lineBreaks := by decide
  have hall : ∀ n < 127, 32 ≤ n → Char.ofNat n ∉ lineBreaks := by decide
  unfold quotedByte
  dsimp only
  split
  · rename_i hrange
    rw [Bool.and_eq_true, decide_eq_true_eq, decide_eq_true_eq] at hrange
    have hplain := hall n hrange.2 hrange.1
    split
    · simp [hmarks, hplain]
    · simp [hplain]
  · split
    · decide
    · split
      · decide
      · split
        · decide
        · simp [hmarks, unbroken_hexDigits]

theorem unbroken_quotedBytes (bs : List Nat) : Unbroken (quotedBytes bs) := by
  have hquote := quoteFor_not_lineBreak (bs.map Char.ofNat)
  have hmark : 'b' ∉ lineBreaks := by decide
  have hinner : Unbroken (bs.flatMap (quotedByte (quoteFor (bs.map Char.ofNat)))) := by
    intro c hc
    obtain ⟨n, -, hc⟩ := List.mem_flatMap.mp hc
    exact unbroken_quotedByte _ n c hc
  simp [quotedBytes, hmark, hquote, hinner]

end Quoted

/-! ## Numbers, dates and patterns -/

section Atoms

theorem signedExponent_solid (x : Int) : (Decimal.signedExponent x).all isSolid = true := by
  rw [Decimal.signedExponent, List.all_cons, digits_solid, Bool.and_true]
  split
  · decide
  · decide

theorem finiteText_solid (c : Nat) (e : Int) : (Decimal.finiteText c e).all isSolid = true := by
  have hdigits := digits_solid c
  have hmarks : isSolid '0' = true ∧ isSolid '.' = true ∧ isSolid 'E' = true := by decide
  have hzeros (n : Nat) : (List.replicate n '0').all isSolid = true := zeros_solid n
  have hparts (n : Nat) : ((Nat.toDigits 10 c).take n).all isSolid = true ∧
      ((Nat.toDigits 10 c).drop n).all isSolid = true := by
    rw [← Bool.and_eq_true, ← List.all_append, List.take_append_drop]
    exact hdigits
  unfold Decimal.finiteText
  dsimp only
  split_ifs <;>
    simp only [List.all_cons, List.all_append, hdigits, hmarks, hzeros, hparts, signedExponent_solid,
      Bool.and_self]

theorem decimalText_solid (d : Decimal) : d.text.toList.all isSolid = true := by
  have hsign {s : List Char} (negative : Bool) (h : s.all isSolid = true) :
      (if negative then '-' :: s else s).all isSolid = true := by
    cases negative with
    | false => exact h
    | true => exact Bool.and_eq_true_iff.mpr ⟨by decide, h⟩
  cases d with
  | finite negative c e =>
    rw [Decimal.text, String.toList_ofList]
    exact hsign negative (finiteText_solid c e)
  | infinite negative =>
    rw [Decimal.text, String.toList_ofList]
    exact hsign negative (by decide)
  | nan negative signalling payload =>
    rw [Decimal.text, String.toList_ofList]
    refine hsign negative ?_
    rw [List.all_append, Bool.and_eq_true]
    refine ⟨by cases signalling <;> decide, ?_⟩
    split
    · rfl
    · exact digits_solid payload

theorem unbroken_numberRow (ns : List Nat) : Unbroken (numberRow ns) := by
  refine unbroken_intercalate (by decide) fun t ht => ?_
  obtain ⟨n, -, rfl⟩ := List.mem_map.mp ht
  exact unbroken_of_solid (digits_solid n)

theorem unbroken_integerText (n : Int) : Unbroken (integerText n) :=
  unbroken_of_solid (integerText_solid n)

theorem unbroken_boolLiteral (b : Bool) : Unbroken (boolLiteral b) := by
  cases b with
  | false => decide
  | true => decide

theorem unbroken_dateLiteral (d : Date) : Unbroken d.literal := by
  have hfront : Unbroken "datetime.date(".toList := by decide
  have hbehind : Unbroken [')'] := by decide
  exact (hfront.append (unbroken_numberRow _)).append hbehind

theorem unbroken_offsetLiteral (o : Int) : Unbroken (offsetLiteral o) := by
  unfold offsetLiteral
  split
  · decide
  · have hfront : Unbroken "datetime.timezone(datetime.timedelta(".toList := by decide
    have hseconds : Unbroken "seconds=".toList := by decide
    have hbehind : Unbroken "))".toList := by decide
    have hdays : Unbroken (if o < 0 then "days=-1, ".toList else []) := by
      split
      · decide
      · exact unbroken_nil
    exact (((hfront.append hdays).append hseconds).append (unbroken_integerText _)).append hbehind

theorem unbroken_stampLiteral (s : Stamp) : Unbroken s.literal := by
  have hfront : Unbroken "datetime.datetime(".toList := by decide
  have hmark : Unbroken ", tzinfo=".toList := by decide
  have hbehind : Unbroken [')'] := by decide
  unfold Stamp.literal
  dsimp only
  refine ((hfront.append (unbroken_numberRow _)).append ?_).append hbehind
  split
  · exact unbroken_nil
  · exact hmark.append (unbroken_offsetLiteral _)

/-- The names of all switches. -/
theorem flagNames_unbroken : ∀ name ∈ ["re.IGNORECASE", "re.MULTILINE", "re.DOTALL", "re.VERBOSE",
    "re.ASCII"], Unbroken name.toList := by
  decide

theorem unbroken_flags (f : Regex.Flags) : Unbroken ("|".intercalate f.names).toList := by
  have hnames : f.names ⊆ ["re.IGNORECASE", "re.MULTILINE", "re.DOTALL", "re.VERBOSE", "re.ASCII"] := by
    obtain ⟨ascii, ignoreCase, multiline, dotAll, verbose⟩ := f
    revert ascii ignoreCase multiline dotAll verbose
    decide
  rw [String.toList_intercalate]
  refine unbroken_intercalate (by decide) (List.forall_mem_map.mpr fun name hname => ?_)
  exact flagNames_unbroken name (hnames hname)

theorem unbroken_patternLiteral (p : Regex.Pattern) : Unbroken p.literal := by
  have hfront : Unbroken "re.compile(".toList := by decide
  have hbehind : Unbroken [')'] := by decide
  have hsource : Unbroken ((quoted p.source.toList).take 200) :=
    (unbroken_quoted p.source.toList).of_subset (List.take_subset _ _)
  have hflags : Unbroken (if p.flags.names.isEmpty then []
      else ", ".toList ++ ("|".intercalate p.flags.names).toList) := by
    have hmark : Unbroken ", ".toList := by decide
    split
    · exact unbroken_nil
    · exact hmark.append (unbroken_flags p.flags)
  exact ((hfront.append hsource).append hflags).append hbehind

end Atoms

/-! ## Values of all kinds -/

/-- Values of all kinds, with showable members to any depth.  Of a thing of another kind only the name of
its kind is shown, which must be in one line; the rules of a specification are shown in quotes. -/
inductive Value.Showable : Value → Prop
  | atom {v : Value} (hatom : v.isAtom = true)
      (hkind : ∀ kind mark, v = .thing kind mark → Unbroken kind.toList) : v.Showable
  | list {items : List Value} (h : ∀ v ∈ items, v.Showable) : (Value.list items).Showable
  | tuple {items : List Value} (h : ∀ v ∈ items, v.Showable) : (Value.tuple items).Showable
  | set {items : List Value} (h : ∀ v ∈ items, v.Showable) : (Value.set items).Showable
  | dict {entries : List (Value × Value)} (hkeys : ∀ p ∈ entries, p.1.Showable)
      (hvalues : ∀ p ∈ entries, p.2.Showable) : (Value.dict entries).Showable
  | rule {r : Rule Value} (h : ∀ v ∈ r.args, v.Showable) : (Value.rule r).Showable
  | spec (rules : List (Rule Value)) (source : Option String) : (Value.spec rules source).Showable

section Values

variable {v : Value} {items : List Value} {entries : List (Value × Value)}

theorem literals_eq_map (items : List Value) : literals items = items.map Value.literal := by
  induction items with
  | nil => rfl
  | cons v rest ih => exact congrArg (v.literal :: ·) ih

theorem unbroken_bracketed {left right : String} {pieces : List (List Char)} (single : Bool)
    (hleft : Unbroken left.toList) (hright : Unbroken right.toList)
    (hpieces : ∀ t ∈ pieces, Unbroken t) : Unbroken (bracketed left right single pieces) := by
  have hcomma : Unbroken (if single && pieces.length = 1 then [','] else []) := by
    split
    · decide
    · exact unbroken_nil
  have hrow : Unbroken ((", ".toList).intercalate pieces) :=
    unbroken_intercalate (by decide) hpieces
  exact ((hleft.append hrow).append hcomma).append hright

theorem unbroken_literals (h : ∀ v ∈ items, Unbroken v.literal) :
    ∀ t ∈ literals items, Unbroken t := by
  rw [literals_eq_map]
  exact List.forall_mem_map.mpr h

theorem unbroken_entryLiterals (hkeys : ∀ p ∈ entries, Unbroken p.1.literal)
    (hvalues : ∀ p ∈ entries, Unbroken p.2.literal) : ∀ t ∈ entryLiterals entries, Unbroken t := by
  induction entries with
  | nil => nofun
  | cons p rest ih =>
    rw [List.forall_mem_cons] at hkeys hvalues
    have hcolon : Unbroken ": ".toList := by decide
    exact List.forall_mem_cons.mpr
      ⟨(hkeys.1.append hcolon).append hvalues.1, ih hkeys.2 hvalues.2⟩

/-- Each rule of a specification is shown in quotes. -/
theorem unbroken_ruleTexts (rules : List (Rule Value)) : ∀ t ∈ ruleTexts rules, Unbroken t := by
  induction rules with
  | nil => nofun
  | cons r rest ih =>
    exact List.forall_mem_cons.mpr ⟨unbroken_quoted _, ih⟩

theorem unbroken_ruleLiteral {r : Rule Value} (h : ∀ v ∈ r.args, Unbroken v.literal) :
    Unbroken (ruleLiteral r) := by
  obtain ⟨name, args, isRegex, bail⟩ := r
  have hname : Unbroken "ParsedRule(name=".toList := by decide
  have hargs : Unbroken ", args=".toList := by decide
  have hregex : Unbroken ", is_regex=".toList := by decide
  have hbail : Unbroken ", bail=".toList := by decide
  have hbehind : Unbroken [')'] := by decide
  have hrow : Unbroken (bracketed "(" ")" true (literals args)) :=
    unbroken_bracketed true (by decide) (by decide) (unbroken_literals h)
  have hfront := ((hname.append (unbroken_quoted name.toList)).append hargs).append hrow
  exact ((((hfront.append hregex).append (unbroken_boolLiteral isRegex)).append hbail).append
    (unbroken_boolLiteral bail)).append hbehind

theorem unbroken_atom (hatom : v.isAtom = true)
    (hkind : ∀ kind mark, v = .thing kind mark → Unbroken kind.toList) : Unbroken v.literal := by
  cases v with
  | absent => exact (by decide : Unbroken "None".toList)
  | bool b => exact unbroken_boolLiteral b
  | int n => exact unbroken_integerText n
  | float x => exact unbroken_of_solid (doubleText_solid x)
  | decimal d =>
    have hfront : Unbroken "Decimal('".toList := by decide
    have hbehind : Unbroken "')".toList := by decide
    exact (hfront.append (unbroken_of_solid (decimalText_solid d))).append hbehind
  | text s => exact unbroken_quoted s.toList
  | bytes bs => exact unbroken_quotedBytes bs
  | date d => exact unbroken_dateLiteral d
  | stamp s => exact unbroken_stampLiteral s
  | pattern p => exact unbroken_patternLiteral p
  | path s =>
    have hfront : Unbroken "PurePosixPath(".toList := by decide
    have hbehind : Unbroken [')'] := by decide
    exact (hfront.append (unbroken_quoted s.toList)).append hbehind
  | file attributes mark => exact (by decide : Unbroken "<FileObject>".toList)
  | thing kind mark =>
    have hopen : '<' ∉ lineBreaks := by decide
    have hclose : Unbroken ['>'] := by decide
    exact (unbroken_cons.mpr ⟨hopen, hkind kind mark rfl⟩).append hclose
  | _ => cases hatom

/-- **No literal holds a line break**, whatever the texts in the value hold and however deep they lie. -/
theorem Value.Showable.unbroken (h : v.Showable) : Unbroken v.literal := by
  induction h with
  | atom hatom hkind => exact unbroken_atom hatom hkind
  | @list items _ ih =>
    show Unbroken (bracketed "[" "]" false (literals items))
    exact unbroken_bracketed false (by decide) (by decide) (unbroken_literals ih)
  | @tuple items _ ih =>
    show Unbroken (bracketed "(" ")" true (literals items))
    exact unbroken_bracketed true (by decide) (by decide) (unbroken_literals ih)
  | @set items _ ih =>
    show Unbroken (if items.isEmpty then "set()".toList
      else bracketed "\x7b" "\x7d" false (literals items))
    split
    · decide
    · exact unbroken_bracketed false (by decide) (by decide) (unbroken_literals ih)
  | @dict entries _ _ ihkeys ihvalues =>
    show Unbroken (bracketed "\x7b" "\x7d" false (entryLiterals entries))
    exact unbroken_bracketed false (by decide) (by decide) (unbroken_entryLiterals ihkeys ihvalues)
  | rule _ ih => exact unbroken_ruleLiteral ih
  | spec rules source =>
    have hfront : Unbroken "RuleSpec(".toList := by decide
    have hbehind : Unbroken [')'] := by decide
    have hrow : Unbroken (bracketed "[" "]" false (ruleTexts rules)) :=
      unbroken_bracketed false (by decide) (by decide) (unbroken_ruleTexts rules)
    exact (hfront.append hrow).append hbehind

end Values

/-! ## The report -/

/-- A line that shows an outcome: how it ended, the rule, and the arguments as literals, all in one
line. -/
structure Outcome.ShownAs (o : Outcome) (line : List Char) : Prop where
  text : line = (if o.passed then "  [pass] " else "  [FAIL] ").toList ++ o.rule.toList ++
    '(' :: (", ".toList).intercalate (o.args.map Value.literal) ++ [')']
  unbroken : Unbroken line

section Report

variable {r : Report} {o : Outcome} {label : String}

theorem Outcome.shownAs_line (hname : isName o.rule.toList = true)
    (hargs : ∀ v ∈ o.args, v.Showable) : o.ShownAs o.line := by
  have hstatus : "  [".toList ++ (statusText o.passed).toList ++ "] ".toList =
      (if o.passed then "  [pass] " else "  [FAIL] ").toList := by
    cases o.passed with
    | false => decide
    | true => decide
  have htext : o.line = (if o.passed then "  [pass] " else "  [FAIL] ").toList ++ o.rule.toList ++
      '(' :: (", ".toList).intercalate (o.args.map Value.literal) ++ [')'] := by
    unfold Outcome.line
    rw [hstatus, argumentRow, literals_eq_map]
  refine ⟨htext, ?_⟩
  have hfront : Unbroken (if o.passed then "  [pass] " else "  [FAIL] ").toList := by
    cases o.passed with
    | false => decide
    | true => decide
  have hopen : '(' ∉ lineBreaks := by decide
  have hclose : Unbroken [')'] := by decide
  have hrow : Unbroken ((", ".toList).intercalate (o.args.map Value.literal)) :=
    unbroken_intercalate (by decide) (List.forall_mem_map.mpr fun v hv => (hargs v hv).unbroken)
  rw [htext]
  exact ((hfront.append (unbroken_of_isName hname)).append
    (unbroken_cons.mpr ⟨hopen, hrow⟩)).append hclose

theorem lineFeed_not_mem_headline (hlabel : '\n' ∉ label.toList) : '\n' ∉ r.headline label := by
  have hplain : '\n' ∉ "field".toList ∧ '\n' ∉ ": ".toList ∧ '\n' ∉ "passed".toList ∧
      '\n' ∉ "failed".toList := by decide
  rw [Report.headline, List.mem_append, List.mem_append, not_or, not_or]
  refine ⟨⟨?_, hplain.2.1⟩, ?_⟩
  · split
    · exact hplain.1
    · exact hlabel
  · split
    · exact hplain.2.2.1
    · exact hplain.2.2.2

/-- There is a text if the literals of all arguments can be written. -/
theorem format_eq_ok_iff {room : Nat} {text : String} :
    r.format label room = .ok text ↔
      (∀ o ∈ r.outcomes, ∀ v ∈ o.args, v.Writable room) ∧ text = r.text label := by
  have hargs : r.args.findSome? (Value.obstacle? room) = none ↔
      ∀ o ∈ r.outcomes, ∀ v ∈ o.args, v.Writable room := by
    rw [firstObstacle_eq_none_iff, Report.args, List.forall_mem_flatMap]
  rw [← hargs, Report.format]
  cases r.args.findSome? (Value.obstacle? room) <;> simp [eq_comm]

/-- Otherwise the first obstacle among the arguments is raised. -/
theorem format_eq_error_iff {room : Nat} {obstacle : Obstacle} :
    r.format label room = .error obstacle ↔
      ∃ before v after, r.args = before ++ v :: after ∧ v.obstacle? room = some obstacle ∧
        ∀ w ∈ before, w.Writable room := by
  rw [← firstObstacle_eq_some_iff, Report.format]
  cases r.args.findSome? (Value.obstacle? room) <;> simp

/-- Cut at its line feeds, the text of some outcomes is the line of the field and one line for each
outcome, in order. -/
theorem text_lines (hlabel : '\n' ∉ label.toList) (hne : r.outcomes ≠ [])
    (hnames : ∀ o ∈ r.outcomes, isName o.rule.toList = true)
    (hargs : ∀ o ∈ r.outcomes, ∀ v ∈ o.args, v.Showable) :
    ∃ first rest, (r.text label).toList.splitOn '\n' = first :: rest ∧
      rest.length = r.outcomes.length ∧
      first = (if label = "" then "field" else label).toList ++
        (if ∀ o ∈ r.outcomes, o.passed = true then ": passed" else ": failed").toList ∧
      List.Forall₂ Outcome.ShownAs r.outcomes rest := by
  have hshown : ∀ o ∈ r.outcomes, o.ShownAs o.line := fun o ho =>
    Outcome.shownAs_line (hnames o ho) (hargs o ho)
  have hlines : r.lines label = r.headline label :: r.outcomes.map Outcome.line := by
    rw [Report.lines, if_neg (by simpa using hne)]
  have hfree : ∀ line ∈ r.lines label, '\n' ∉ line := by
    rw [hlines, List.forall_mem_cons, List.forall_mem_map]
    refine ⟨lineFeed_not_mem_headline hlabel, fun o ho hfeed => ?_⟩
    exact (hshown o ho).unbroken '\n' hfeed (by decide)
  refine ⟨r.headline label, r.outcomes.map Outcome.line, ?_, List.length_map _, ?_, ?_⟩
  · rw [Report.text, String.toList_ofList, List.splitOn_intercalate '\n' hfree (by simp [hlines]),
      hlines]
  · have hlabelText : (if label.isEmpty then "field" else label) =
        if label = "" then "field" else label := by simp
    rw [Report.headline, hlabelText, List.append_assoc, Report.passed]
    congr 1
    by_cases hall : ∀ o ∈ r.outcomes, o.passed = true
    · rw [if_pos hall, if_pos (List.all_eq_true.mpr hall)]
      decide
    · rw [if_neg hall, if_neg (by rwa [List.all_eq_true])]
      decide
  · exact List.forall₂_map_right_iff.mpr (List.forall₂_same.mpr hshown)

/-- Texts that would look like lines of their own, one of them as a key in a dictionary in a list. -/
def forgedReport : Report where
  outcomes := [
    { rule := "required", args := [.bool true, .absent], passed := true },
    { rule := "in", args := [.text "x)\n  [pass] admin(", .bytes [10, 39],
        .list [.dict [(.text "a\r\u2028'", .set [.pattern ⟨"\n", {}⟩])]]], passed := false }]

theorem showable_inLists {v : Value} (h : v.Showable) (n : Nat) : (inLists n v).Showable := by
  induction n with
  | zero => exact h
  | succ n ih => exact .list (List.forall_mem_singleton.mpr ih)

theorem showable_inRules {v : Value} (h : v.Showable) (name : String) (n : Nat) :
    (inRules name n v).Showable := by
  induction n with
  | zero => exact h
  | succ n ih => exact .rule (List.forall_mem_singleton.mpr ih)

/-- An argument that lies too deep to be written. -/
def deepReport : Report where
  outcomes := [{ rule := "in", args := [deepRule], passed := true }]

end Report

end FieldCheck
