import FieldCheck.Regex.Program
import FieldCheck.Text.Case

/-!
# Matching

* `SetItem.holds`, `Anchor.holds` — what a single step of a match looks at.
* `Node.run` — matches a part and goes on with what follows; the first way that leads to an end
  counts.  A repetition tries its body again only where it can make progress.
* `Program.search` — the leftmost match in a text.
* `Program.matchesWhole` — whether the whole of a text can be matched.
-/

set_option autoImplicit false

namespace FieldCheck.Regex

open Text

/-- Where a match stands, and what the groups hold. -/
structure Point where
  position : Nat
  groups : List (Nat × Nat × Nat)

/-- Digits, blanks or word characters, of ASCII only where that is asked for. -/
def CharClass.holds (ascii : Bool) (c : Char) : CharClass → Bool
  | .digit => if ascii then c.isDigit else isDecimalDigit c
  | .space => if ascii then isLayout c else isBlank c
  | .word => if ascii then c.isAlphanum || c = '_' else isWordChar c

/-- The lower case that matching without letter case goes by. -/
def foldChar (f : Flags) (c : Nat) : Nat :=
  if f.ascii then if 65 ≤ c && c ≤ 90 then c + 32 else c
  else if c < 0xd800 || (0xdfff < c && c < 0x110000) then (lowerChar (Char.ofNat c)).toNat
  else c

/-- The lower-case characters that match a lower-case character. -/
def foldKin (f : Flags) (c : Nat) : List Nat :=
  if f.ascii then [c] else (kin (Char.ofNat c)).map Char.toNat

/-- Whether a range holds a character that folds to one that matches `c`. -/
def rangeHolds (f : Flags) (low high c : Nat) : Bool :=
  (foldKin f c).any fun k =>
    let sources := if f.ascii then (if 97 ≤ k && k ≤ 122 then [k - 32] else []) else capitalsOf k
    (foldChar f k = k && low ≤ k && k ≤ high) || sources.any fun m => low ≤ m && m ≤ high

/-- Whether a member of a set holds a character. -/
def SetItem.holds (f : Flags) (c : Char) : SetItem → Bool
  | .char n =>
    if f.ignoreCase then (foldKin f (foldChar f c.toNat)).contains (foldChar f n) else c.toNat = n
  | .range low high =>
    if f.ignoreCase then rangeHolds f low high (foldChar f c.toNat)
    else low ≤ c.toNat && c.toNat ≤ high
  | .named cls negated => cls.holds f.ascii c != negated

/-- Whether a place is an edge between word characters and others. -/
def isEdge (f : Flags) (text : Array Char) (n : Nat) : Bool :=
  let isWord := fun (c : Option Char) => match c with
    | some c => CharClass.word.holds f.ascii c
    | none => false
  isWord (if n = 0 then none else text[n - 1]?) != isWord text[n]?

/-- Whether a place is the one asked for; an empty text has neither edges nor non-edges. -/
def Anchor.holds (f : Flags) (text : Array Char) (n : Nat) : Anchor → Bool
  | .textStart => n = 0
  | .textEnd => n = text.size
  | .lineStart => n = 0 || (f.multiline && text[n - 1]? == some '\n')
  | .lineEnd =>
    n = text.size || (text[n]? == some '\n' && (f.multiline || n + 1 = text.size))
  | .boundary => text.size ≠ 0 && isEdge f text n
  | .noBoundary => text.size ≠ 0 && !isEdge f text n

/-- A way to go on from a point; the answer is where the match ends. -/
abbrev Onward := Point → Option Point

/-- Goes on behind one character that passes a test. -/
def oneChar (text : Array Char) (test : Char → Bool) (p : Point) (k : Onward) : Option Point :=
  match text[p.position]? with
  | some c => if test c then k { p with position := p.position + 1 } else none
  | none => none

/-- Tries one way and then another. -/
def orElse (a : Option Point) (b : Unit → Option Point) : Option Point :=
  match a with
  | some p => some p
  | none => b ()

/-- Repeats as often as possible.  `body` matches once and goes on; `count` repetitions have been
made, the last optional one from `last`. -/
def repeatGreedy (body : Point → Onward → Option Point) (least : Nat) (most : Option Nat)
    (k : Onward) : Nat → Nat → Option Nat → Point → Option Point
  | 0, _, _, _ => none
  | fuel + 1, count, last, p =>
    if count < least then body p (repeatGreedy body least most k fuel (count + 1) last)
    else
      let again := (match most with
        | none => true
        | some n => count < n) && last ≠ some p.position
      if again then
        orElse (body p (repeatGreedy body least most k fuel (count + 1) (some p.position)))
          fun _ => k p
      else k p

/-- Repeats as seldom as possible. -/
def repeatLazy (body : Point → Onward → Option Point) (least : Nat) (most : Option Nat)
    (k : Onward) : Nat → Nat → Option Nat → Point → Option Point
  | 0, _, _, _ => none
  | fuel + 1, count, last, p =>
    if count < least then body p (repeatLazy body least most k fuel (count + 1) last)
    else
      orElse (k p) fun _ =>
        let again := (match most with
          | none => true
          | some n => count < n) && last ≠ some p.position
        if again then body p (repeatLazy body least most k fuel (count + 1) (some p.position))
        else none

/-- Repeats as often as possible and never goes back. -/
def repeatPossessive (body : Point → Onward → Option Point) (least : Nat) (most : Option Nat) :
    Nat → Nat → Option Nat → Point → Option Point
  | 0, _, _, _ => none
  | fuel + 1, count, last, p =>
    if count < least then
      match body p some with
      | some q => repeatPossessive body least most fuel (count + 1) last q
      | none => none
    else
      let again := (match most with
        | none => true
        | some n => count < n) && last ≠ some p.position
      if again then
        match body p some with
        | some q => repeatPossessive body least most fuel (count + 1) (some p.position) q
        | none => some p
      else some p

/-- The text that a group holds. -/
def Point.group? (p : Point) (g : Nat) : Option (Nat × Nat) := p.groups.lookup g

/-- Whether the text from one place on repeats that from another, for `n` characters. -/
def repeatsText (f : Flags) (text : Array Char) : Nat → Nat → Nat → Bool
  | _, _, 0 => true
  | a, b, n + 1 =>
    match text[a]?, text[b]? with
    | some c, some d =>
      (if f.ignoreCase then foldChar f c.toNat = foldChar f d.toNat else c = d) &&
        repeatsText f text (a + 1) (b + 1) n
    | _, _ => false

mutual

/-- Matches a part from a point and goes on. -/
def Node.run (text : Array Char) (f : Flags) : Node → Point → Onward → Option Point
  | .char n negated, p, k =>
    oneChar text (fun c => (SetItem.char n).holds f c != negated) p k
  | .any, p, k => oneChar text (fun c => f.dotAll || c != '\n') p k
  | .set items negated, p, k =>
    oneChar text (fun c => (items.any (SetItem.holds f c)) != negated) p k
  | .anchor place, p, k => if place.holds f text p.position then k p else none
  | .branch choices, p, k => runChoices text f choices p k
  | .group index switches body, p, k =>
    runSequence text (f.with switches) body p fun q =>
      match index with
      | none => k q
      | some g => k { q with groups := (g, p.position, q.position) :: q.groups }
  | .atomic body, p, k =>
    match runSequence text f body p some with
    | some q => k q
    | none => none
  | .repetition least most greed body, p, k =>
    let once := runSequence text f body
    let fuel := least + text.size + 2
    match greed with
    | .greedy => repeatGreedy once least most k fuel 0 none p
    | .lazy => repeatLazy once least most k fuel 0 none p
    | .possessive =>
      match repeatPossessive once least most fuel 0 none p with
      | some q => k q
      | none => none
  | .look behind negated width body, p, k =>
    let from? := if behind then
        if p.position < width.1 then none else some { p with position := p.position - width.1 }
      else some p
    let found := match from? with
      | some q => runSequence text f body q some
      | none => none
    if negated then if found.isNone then k p else none
    else
      match found with
      | some q => k { q with position := p.position }
      | none => none
  | .reference g, p, k =>
    match p.group? g with
    | none => none
    | some (a, b) =>
      if repeatsText f text a p.position (b - a) then
        k { p with position := p.position + (b - a) }
      else none
  | .condition g yes no, p, k =>
    if (p.group? g).isSome then runSequence text f yes p k else runSequence text f no p k

/-- Matches the parts of a sequence one after the other. -/
def runSequence (text : Array Char) (f : Flags) : List Node → Point → Onward → Option Point
  | [], p, k => k p
  | n :: rest, p, k => n.run text f p fun q => runSequence text f rest q k

/-- Tries the choices in order. -/
def runChoices (text : Array Char) (f : Flags) :
    List (List Node) → Point → Onward → Option Point
  | [], _, _ => none
  | choice :: rest, p, k =>
    orElse (runSequence text f choice p k) fun _ => runChoices text f rest p k

end

/-- The end of a match that starts at a place. -/
def Program.matchAt (r : Program) (text : Array Char) (n : Nat) : Option Nat :=
  (runChoices text r.flags r.choices ⟨n, []⟩ some).map Point.position

/-- The first match that starts at one of `left` places from `n` on. -/
def Program.searchFrom (r : Program) (text : Array Char) : Nat → Nat → Option (Nat × Nat)
  | 0, _ => none
  | left + 1, n =>
    match r.matchAt text n with
    | some m => some (n, m)
    | none => r.searchFrom text left (n + 1)

/-- The leftmost match in a text: where it starts and ends. -/
def Program.search (r : Program) (text : String) : Option (Nat × Nat) :=
  let cs := text.toList.toArray
  r.searchFrom cs (cs.size + 1) 0

/-- Goes on only at the end of a text. -/
def atEnd (text : Array Char) : Onward := fun p => if p.position = text.size then some p else none

/-- Whether a match can start with a text and end with it. -/
def Program.matchesWhole (r : Program) (text : String) : Bool :=
  let cs := text.toList.toArray
  (runChoices cs r.flags r.choices ⟨0, []⟩ (atEnd cs)).isSome

end FieldCheck.Regex
