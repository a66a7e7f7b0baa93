import FieldCheck.Regex.Flags

/-!
# Regular expressions

* `Node` — the parts that a regular expression is made of; a sequence is a list of nodes.
* `Switches` — the switches that a group turns on and off for what it holds.
* `Node.width` — the least and the greatest number of characters that a part can match.
-/

set_option autoImplicit false

namespace FieldCheck.Regex

/-- Digits, blanks and word characters. -/
inductive CharClass where
  | digit
  | space
  | word
  deriving DecidableEq, Repr

/-- A member of a set of characters. -/
inductive SetItem where
  | char (c : Nat)
  | range (low high : Nat)
  | named (cls : CharClass) (negated : Bool)
  deriving DecidableEq, Repr

/-- A place in a text. -/
inductive Anchor where
  | lineStart
  | lineEnd
  | textStart
  | textEnd
  | boundary
  | noBoundary
  deriving DecidableEq, Repr

/-- How a repetition chooses how often to repeat. -/
inductive Greed where
  | greedy
  | lazy
  | possessive
  deriving DecidableEq, Repr

/-- Switches that a group turns on and off. -/
structure Switches where
  ignoreCase : Option Bool := none
  multiline : Option Bool := none
  dotAll : Option Bool := none
  verbose : Option Bool := none
  ascii : Option Bool := none
  deriving DecidableEq, Repr

/-- A part of a regular expression. -/
inductive Node where
  | char (c : Nat) (negated : Bool)
  | any
  | set (items : List SetItem) (negated : Bool)
  | anchor (place : Anchor)
  | branch (choices : List (List Node))
  | group (index : Option Nat) (switches : Switches) (body : List Node)
  | atomic (body : List Node)
  | repetition (least : Nat) (most : Option Nat) (greed : Greed) (body : List Node)
  | look (behind negated : Bool) (width : Nat × Nat) (body : List Node)
  | reference (group : Nat)
  | condition (group : Nat) (yes no : List Node)

/-- Some of the switches of a group, over those around it. -/
def Flags.with (f : Flags) (s : Switches) : Flags :=
  { ascii := s.ascii.getD f.ascii
    ignoreCase := s.ignoreCase.getD f.ignoreCase
    multiline := s.multiline.getD f.multiline
    dotAll := s.dotAll.getD f.dotAll
    verbose := s.verbose.getD f.verbose }

/-- Beyond this, widths count as unbounded. -/
def greatestWidth : Nat := 18446744073709551616

/-- Least and greatest number of characters. -/
abbrev Width := Nat × Nat

mutual

/-- The width of a part, given the widths of the groups. -/
def Node.width (groups : List (Option Width)) : Node → Width
  | .char .. | .any | .set .. => (1, 1)
  | .anchor _ | .look .. => (0, 0)
  | .branch choices => choiceWidth groups choices
  | .group _ _ body => sequenceWidth groups body
  | .atomic body => sequenceWidth groups body
  | .repetition least most _ body =>
    let (low, high) := sequenceWidth groups body
    (low * least,
      match most with
      | none => if high = 0 then 0 else greatestWidth
      | some n => high * n)
  | .reference g => ((groups[g]?).bind id).getD (0, 0)
  | .condition _ yes no =>
    let (low, high) := sequenceWidth groups yes
    let (low', high') := sequenceWidth groups no
    (min low low', max high high')

/-- The width of a sequence. -/
def sequenceWidth (groups : List (Option Width)) : List Node → Width
  | [] => (0, 0)
  | n :: rest =>
    let (low, high) := n.width groups
    let (low', high') := sequenceWidth groups rest
    (min (low + low') greatestWidth, min (high + high') greatestWidth)

/-- The width of a choice. -/
def choiceWidth (groups : List (Option Width)) : List (List Node) → Width
  | [] => (greatestWidth, 0)
  | n :: rest =>
    let (low, high) := sequenceWidth groups n
    let (low', high') := choiceWidth groups rest
    (min low low', max high high')

end

end FieldCheck.Regex
