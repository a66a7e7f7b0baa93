import FieldCheck.Proofs.Matching
import FieldCheck.Regex.Same
import FieldCheck.Rule.Email

/-!
# The language of e-mail addresses

The regular expression for e-mail addresses, its words, and what the rule makes of them.

* `IsAddressChar`, `IsRun`, `IsLocal`, `IsDomain`, `IsAddress` — the grammar.
* `addressProgram`, `read_addressPattern` — the parts of the regular expression.
* `mem_localWords`, `mem_domainWords`, `mem_addressWords` — its words, part by part.
* `IsAddress.getLast?_ne_lineFeed` — an address never ends with a line feed.

Principal result: `email_iff_address`.
-/

set_option autoImplicit false

namespace FieldCheck.Rules

open Regex Text

/-! ## The grammar -/

/-- The characters that unquoted parts are made of. -/
def IsAddressChar (c : Char) : Prop := isBlank c = false ∧ c ∉ "<>()[].,;:@\"".toList

/-- A run of such characters. -/
def IsRun (s : List Char) : Prop := s ≠ [] ∧ ∀ c ∈ s, IsAddressChar c

instance (c : Char) : Decidable (IsAddressChar c) := inferInstanceAs (Decidable (_ ∧ _))

instance (s : List Char) : Decidable (IsRun s) :=
  decidable_of_iff (s ≠ [] ∧ s.all (fun c => decide (IsAddressChar c)) = true) <| by simp [IsRun]

/-- The part before the at sign: runs joined by dots, or a quoted text without line feeds. -/
def IsLocal (s : List Char) : Prop :=
  (∃ runs, runs ≠ [] ∧ (∀ r ∈ runs, IsRun r) ∧ s = ['.'].intercalate runs) ∨
    ∃ quoted, quoted ≠ [] ∧ '\n' ∉ quoted ∧ s = '"' :: (quoted ++ ['"'])

/-- The part behind the at sign: runs with a dot behind each, and a run of two characters or more. -/
def IsDomain (s : List Char) : Prop :=
  ∃ labels last, labels ≠ [] ∧ (∀ r ∈ labels, IsRun r) ∧ IsRun last ∧ 2 ≤ last.length ∧
    s = (labels.flatMap fun r => r ++ ['.']) ++ last

/-- An address. -/
def IsAddress (s : List Char) : Prop :=
  ∃ name domain, IsLocal name ∧ IsDomain domain ∧ s = name ++ '@' :: domain

/-- An address ends with a character of its domain, which is no line feed. -/
theorem IsAddress.getLast?_ne_lineFeed {s : List Char} (h : IsAddress s) : s.getLast? ≠ some '\n' := by
  obtain ⟨name, _, -, ⟨labels, last, -, -, ⟨hne, hlast⟩, -, rfl⟩, rfl⟩ := h
  rw [← List.cons_append, ← List.append_assoc, List.getLast?_append_of_ne_nil _ hne]
  intro hfeed
  have hblank := (hlast '\n' (List.mem_of_getLast? hfeed)).1
  exact absurd hblank (by decide)

/-! ## The parts of the regular expression -/

/-- The switches of the regular expression. -/
def addressFlags : Flags := { ignoreCase := true }

/-- The members of the sets. -/
def addressItems : List SetItem :=
  "<>()[].,;:".toList.map (fun c => .char c.toNat) ++
    .named .space false :: "@\"".toList.map fun c => .char c.toNat

/-- A run of at least so many characters. -/
def runNode (least : Nat) : Node := .repetition least none .greedy [.set addressItems true]

/-- A single character. -/
def markNode (c : Char) : Node := .char c.toNat false

/-- The part before the at sign. -/
def localNode : Node :=
  .group (some 1) {} [.branch
    [[.group (some 2) {}
      [runNode 1, .repetition 0 none .greedy [.group (some 3) {} [markNode '.', runNode 1]]]],
     [.group (some 4) {} [markNode '"', .repetition 1 none .greedy [.any], markNode '"']]]]

/-- The part behind the at sign. -/
def domainNode : Node :=
  .group (some 5) {}
    [.repetition 1 none .greedy [.group (some 6) {} [runNode 1, markNode '.']], runNode 2]

/-- What stands between the anchors. -/
def addressBody : List Node := [localNode, markNode '@', domainNode]

def addressProgram : Program where
  choices := [.anchor .lineStart :: (addressBody ++ [.anchor .lineEnd])]
  flags := addressFlags

theorem read_addressPattern : addressPattern.read = .ok addressProgram := by
  decide +kernel

/-! ## The words of the parts -/

section Words

variable {w : List Char} {c : Char}

theorem any_marks {marks : List Char} (hmarks : ∀ d ∈ marks, Caseless d.toNat) :
    (marks.map fun d => SetItem.char d.toNat).any (SetItem.holds addressFlags c) = true ↔
      c ∈ marks := by
  rw [List.any_map, List.any_eq_true]
  constructor
  · rintro ⟨d, hd, hholds⟩
    have hsame := (char_holds_iff (hmarks d hd) rfl rfl).mp hholds
    rwa [Char.toNat_inj.mp hsame]
  · intro hc
    exact ⟨c, hc, (char_holds_iff (hmarks c hc) rfl rfl).mpr rfl⟩

theorem caseless_of_all {marks : List Char}
    (h : marks.all (fun d => decide (Caseless d.toNat)) = true) : ∀ d ∈ marks, Caseless d.toNat :=
  fun d hd => of_decide_eq_true (List.all_eq_true.mp h d hd)

/-- A character is outside of a set of marks and blanks. -/
theorem outside_marks {first last : List Char} (hfirst : ∀ d ∈ first, Caseless d.toNat)
    (hlast : ∀ d ∈ last, Caseless d.toNat) :
    ((((first.map fun d => SetItem.char d.toNat) ++
        .named .space false :: last.map fun d => SetItem.char d.toNat).any
          (SetItem.holds addressFlags c)) != true) = true ↔
      isBlank c = false ∧ c ∉ first ++ last := by
  have hspace : SetItem.holds addressFlags c (.named .space false) = isBlank c := Bool.xor_false _
  rw [bne_iff_ne, ne_eq, List.any_append, List.any_cons, hspace, Bool.or_eq_true, Bool.or_eq_true,
    any_marks hfirst, any_marks hlast, List.mem_append, ← Bool.not_eq_true, ← not_or, or_left_comm]

theorem isAddressChar_iff : ((addressItems.any (SetItem.holds addressFlags c)) != true) = true ↔
    IsAddressChar c :=
  outside_marks (caseless_of_all (by decide)) (caseless_of_all (by decide))

theorem mem_runWords {least : Nat} (hleast : 0 < least) :
    w ∈ (runNode least).words addressFlags ↔ IsRun w ∧ least ≤ w.length := by
  rw [runNode, Node.words, sequenceWords, sequenceWords, mul_one, Node.words,
    mem_repeated_letters_iff]
  simp only [isAddressChar_iff, IsRun, ← List.length_pos_iff]
  constructor
  · rintro ⟨hlength, -, hall⟩
    exact ⟨⟨by omega, hall⟩, hlength⟩
  · rintro ⟨⟨-, hall⟩, hlength⟩
    exact ⟨hlength, nofun, hall⟩

theorem mem_markWords (hc : Caseless c.toNat) : w ∈ (markNode c).words addressFlags ↔ w = [c] := by
  rw [markNode, Node.words, mem_letters_iff]
  constructor
  · rintro ⟨d, hd, rfl⟩
    rw [bne_iff_ne, ne_eq, Bool.not_eq_false, char_holds_iff hc rfl rfl] at hd
    rw [Char.toNat_inj.mp hd]
  · rintro rfl
    refine ⟨c, ?_, rfl⟩
    rw [bne_iff_ne, ne_eq, Bool.not_eq_false, char_holds_iff hc rfl rfl]

theorem mem_runWords_one : w ∈ (runNode 1).words addressFlags ↔ IsRun w := by
  rw [mem_runWords Nat.one_pos, and_iff_left_iff_imp]
  exact fun h => List.length_pos_iff.mpr h.1

theorem intercalate_cons_eq (r : List Char) (rs : List (List Char)) :
    ['.'].intercalate (r :: rs) = r ++ rs.flatMap fun r => '.' :: r := by
  induction rs generalizing r with
  | nil => simp
  | cons r' rs ih => rw [List.intercalate_cons_cons, ih]; simp

theorem mem_localWords : w ∈ localNode.words addressFlags ↔ IsLocal w := by
  have hdot : Caseless '.'.toNat := by decide
  have hquote : Caseless '"'.toNat := by decide
  have hwith : addressFlags.with {} = addressFlags := rfl
  have hruns (v : List Char) :
      v ∈ repeated 0 none ((markNode '.').words addressFlags * (runNode 1).words addressFlags) ↔
        ∃ rs : List (List Char), (∀ r ∈ rs, IsRun r) ∧ v = rs.flatMap fun r => '.' :: r := by
    rw [mem_repeated_of_shape (R := IsRun) (g := fun r => '.' :: r)]
    · simp
    · intro u
      simp [Language.mem_mul, mem_markWords hdot, mem_runWords_one, eq_comm]
  simp only [localNode, Node.words, sequenceWords, choiceWords, mul_one, add_zero, hwith,
    Language.mem_add, Language.mem_mul, hruns, mem_markWords hquote, mem_runWords_one,
    mem_repeated_letters_iff]
  refine or_congr ⟨?_, ?_⟩ ⟨?_, ?_⟩
  · rintro ⟨r, hr, _, ⟨rs, hrs, rfl⟩, rfl⟩
    exact ⟨r :: rs, nofun, List.forall_mem_cons.mpr ⟨hr, hrs⟩, (intercalate_cons_eq r rs).symm⟩
  · rintro ⟨runs, hne, hruns, rfl⟩
    obtain ⟨r, rs, rfl⟩ := List.exists_cons_of_ne_nil hne
    obtain ⟨hr, hrs⟩ := List.forall_mem_cons.mp hruns
    exact ⟨r, hr, _, ⟨rs, hrs, rfl⟩, (intercalate_cons_eq r rs).symm⟩
  · rintro ⟨_, rfl, _, ⟨quoted, ⟨hlength, -, hall⟩, _, rfl, rfl⟩, rfl⟩
    refine ⟨quoted, List.length_pos_iff.mp hlength, fun hfeed => ?_, rfl⟩
    exact absurd (hall _ hfeed) (by decide)
  · rintro ⟨quoted, hne, hfeed, rfl⟩
    refine ⟨_, rfl, _, ⟨quoted, ⟨List.length_pos_iff.mpr hne, nofun, fun c hc => ?_⟩, _, rfl, rfl⟩, rfl⟩
    have hc' : c ≠ '\n' := fun heq => hfeed (heq ▸ hc)
    simp [hc']

theorem mem_domainWords : w ∈ domainNode.words addressFlags ↔ IsDomain w := by
  have hdot : Caseless '.'.toNat := by decide
  have hwith : addressFlags.with {} = addressFlags := rfl
  have hlabels (v : List Char) :
      v ∈ repeated 1 none ((runNode 1).words addressFlags * (markNode '.').words addressFlags) ↔
        ∃ labels : List (List Char), labels ≠ [] ∧ (∀ r ∈ labels, IsRun r) ∧
          v = labels.flatMap fun r => r ++ ['.'] := by
    rw [mem_repeated_of_shape (R := IsRun) (g := fun r => r ++ ['.'])]
    · simp [Nat.succ_le_iff, List.length_pos_iff]
    · intro u
      simp [Language.mem_mul, mem_markWords hdot, mem_runWords_one, eq_comm]
  simp only [domainNode, Node.words, sequenceWords, mul_one, hwith, Language.mem_mul, hlabels,
    mem_runWords Nat.two_pos]
  constructor
  · rintro ⟨_, ⟨labels, hne, hlabels, rfl⟩, last, ⟨hlast, hlength⟩, rfl⟩
    exact ⟨labels, last, hne, hlabels, hlast, hlength, rfl⟩
  · rintro ⟨labels, last, hne, hlabels, hlast, hlength, rfl⟩
    exact ⟨_, ⟨labels, hne, hlabels, rfl⟩, last, ⟨hlast, hlength⟩, rfl⟩

/-- The words between the anchors are the addresses. -/
theorem mem_addressWords : w ∈ sequenceWords addressFlags addressBody ↔ IsAddress w := by
  have hat : Caseless '@'.toNat := by decide
  simp only [addressBody, sequenceWords, mul_one, Language.mem_mul, mem_localWords, mem_domainWords,
    mem_markWords hat]
  constructor
  · rintro ⟨name, hname, _, ⟨_, rfl, domain, hdomain, rfl⟩, rfl⟩
    exact ⟨name, domain, hname, hdomain, rfl⟩
  · rintro ⟨name, domain, hname, hdomain, rfl⟩
    exact ⟨name, hname, _, ⟨_, rfl, domain, hdomain, rfl⟩, rfl⟩

end Words

/-! ## The rule -/

theorem plain_runNode (least : Nat) : (runNode least).Plain addressFlags := by
  refine ⟨rfl, nofun, ?_, trivial, trivial⟩
  rw [sequenceWords, Node.words]
  exact nil_notMem_mul_left nofun

theorem plain_localNode : localNode.Plain addressFlags := by
  have hdot : [] ∉ sequenceWords addressFlags [.group (some 3) {} [markNode '.', runNode 1]] :=
    nil_notMem_mul_left (nil_notMem_mul_left nofun)
  have hany : [] ∉ sequenceWords addressFlags [.any] := nil_notMem_mul_left nofun
  have hrun := plain_runNode 1
  exact ⟨⟨⟨⟨hrun, ⟨rfl, nofun, hdot, ⟨trivial, hrun, trivial⟩, trivial⟩, trivial⟩, trivial⟩,
    ⟨⟨trivial, ⟨rfl, nofun, hany, trivial, trivial⟩, trivial, trivial⟩, trivial⟩, trivial⟩, trivial⟩

theorem plain_domainNode : domainNode.Plain addressFlags := by
  have hlabel : [] ∉ sequenceWords addressFlags [.group (some 6) {} [runNode 1, markNode '.']] := by
    refine nil_notMem_mul_left (nil_notMem_mul_left fun h => ?_)
    exact (mem_runWords_one.mp h).1 rfl
  exact ⟨⟨rfl, nofun, hlabel, ⟨plain_runNode 1, trivial, trivial⟩, trivial⟩, plain_runNode 2, trivial⟩

theorem match_addressProgram_iff (s : String) :
    (addressProgram.matchAt s.toList.toArray 0).isSome = true ↔
      IsAddress s.toList ∨ ∃ a, s.toList = a ++ ['\n'] ∧ IsAddress a := by
  have hplain : PlainSequence addressProgram.flags addressBody :=
    ⟨plain_localNode, trivial, plain_domainNode, trivial⟩
  have hwords (w : List Char) : w ∈ sequenceWords addressProgram.flags addressBody ↔ IsAddress w :=
    mem_addressWords
  rw [matchAt_anchored_iff rfl hplain rfl]
  simp only [hwords]
  constructor
  · rintro ⟨w, hw, rfl | hfeed⟩
    · exact Or.inl hw
    · exact Or.inr ⟨w, hfeed, hw⟩
  · rintro (h | ⟨w, hfeed, hw⟩)
    · exact ⟨_, h, Or.inl rfl⟩
    · exact ⟨w, hw, Or.inr hfeed⟩

theorem email_text (s : String) (args : List Value) (c : Context) :
    email (.text s) args c = .ok (addressProgram.matchAt s.toList.toArray 0).isSome := by
  rw [email, readPattern, read_addressPattern]
  rfl

/-- **A text is an e-mail address for the rule exactly if it is one, or is one with a line feed behind
it**, which no address ends with.  Nothing else is an e-mail address, and the rule always answers. -/
theorem email_iff_address (v : Value) (args : List Value) (c : Context) :
    (∃ answer, email v args c = .ok answer ∧
      (answer = true ↔ ∃ s, v = .text s ∧
        (IsAddress s.toList ∨ ∃ a, s.toList = a ++ ['\n'] ∧ IsAddress a))) ∧
    ∀ a, IsAddress a → a.getLast? ≠ some '\n' := by
  refine ⟨?_, fun a => IsAddress.getLast?_ne_lineFeed⟩
  cases v with
  | text s => exact ⟨_, email_text s args c, by simp [match_addressProgram_iff]⟩
  | _ => exact ⟨false, rfl, by simp⟩

/-- An address with a line feed behind it is accepted although it is none. -/
theorem email_accepts_lineFeed :
    email (.text "a@b.cd\n") [] {} = .ok true ∧ ¬IsAddress "a@b.cd\n".toList := by
  refine ⟨?_, fun h => h.getLast?_ne_lineFeed (by decide)⟩
  have hname : IsLocal ['a'] := Or.inl ⟨[['a']], by decide, by decide, by decide⟩
  have hdomain : IsDomain "b.cd".toList :=
    ⟨[['b']], ['c', 'd'], by decide, by decide, by decide, by decide, by decide⟩
  have haddress : IsAddress "a@b.cd".toList := ⟨_, _, hname, hdomain, by decide⟩
  rw [email_text, (match_addressProgram_iff _).mpr (Or.inr ⟨_, by decide, haddress⟩)]

end FieldCheck.Rules
