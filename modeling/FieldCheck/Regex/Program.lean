import FieldCheck.Regex.Branches

/-!
# Whole patterns

* `Node.complaint?` — what can be read but not matched: a look-behind of varying width, and a
  repetition where switches forbid it.
* `Program` — a pattern that has been read.
* `Pattern.read` — reads a pattern.
* `Pattern.resolve` — the pattern with the switches that are written inside it.
-/

set_option autoImplicit false

namespace FieldCheck.Regex

mutual

/-- What cannot be matched although it could be read. -/
def Node.complaint? (template : Bool) : Node → Option Complaint
  | .branch choices => choicesComplaint? template choices
  | .group _ _ body => sequenceComplaint? template body
  | .atomic body => sequenceComplaint? template body
  | .repetition _ _ greed body =>
    if template then
      some (.repeatInTemplate (match greed with
        | .greedy => "MAX_REPEAT"
        | .lazy => "MIN_REPEAT"
        | .possessive => "POSSESSIVE_REPEAT"))
    else sequenceComplaint? template body
  | .look behind _ (low, high) body =>
    if behind && greatestRepeat < low then some .farLookBehind
    else if behind && low ≠ high then some .variableLookBehind
    else sequenceComplaint? template body
  | .condition _ yes no =>
    match sequenceComplaint? template yes with
    | some c => some c
    | none => sequenceComplaint? template no
  | _ => none

/-- The first such part of a sequence. -/
def sequenceComplaint? (template : Bool) : List Node → Option Complaint
  | [] => none
  | n :: rest =>
    match n.complaint? template with
    | some c => some c
    | none => sequenceComplaint? template rest

/-- The first such part of a choice. -/
def choicesComplaint? (template : Bool) : List (List Node) → Option Complaint
  | [] => none
  | n :: rest =>
    match sequenceComplaint? template n with
    | some c => some c
    | none => choicesComplaint? template rest

end

/-- A regular expression that has been read. -/
structure Program where
  choices : List (List Node)
  flags : Flags

/-- Reads the whole of a pattern. -/
def readProgram : Reader Program := do
  checkNext
  let s ← get
  let choices ← readBranches (3 * s.length + 8) s.flags.verbose true true
  let s ← get
  if s.flags.ascii && s.wide then failNowhere .switchesIncompatible
  else if !s.rest.isEmpty then fail .unbalanced 0
  else
    match s.conditions.find? fun p => s.groups.size ≤ p.1 with
    | some (g, n) => throw ⟨.invalidReference g, s.source, some n⟩
    | none =>
      match choicesComplaint? s.template choices with
      | some c => failNowhere c
      | none => pure ⟨choices, s.flags⟩

/-- Reads a pattern. -/
def Pattern.read (p : Pattern) : Except Fault Program :=
  let cs := p.source.toList
  let start : Scan := { source := p.source, length := cs.length, rest := tokens 0 cs, flags := p.flags }
  match readProgram.run start with
  | .ok (program, _) => .ok program
  | .error e => .error e

/-- The pattern with the switches that are written inside it. -/
def Pattern.resolve (p : Pattern) : Except Fault Pattern :=
  match p.read with
  | .ok program => .ok { p with flags := program.flags }
  | .error e => .error e

end FieldCheck.Regex
