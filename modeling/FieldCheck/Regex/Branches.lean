import FieldCheck.Regex.CharSet
import FieldCheck.Regex.Opening
import FieldCheck.Regex.Repetition

/-!
# Alternatives, sequences and groups

* `readBrackets`, `readPart`, `readParenthesis`, `readToken` — what one token adds to the parts that
  have been read.
* `readBranches` — sequences with bars between them.
* `readSequence` — parts up to a bar, a closing parenthesis or the end.
* `readGroup` — what an opening parenthesis encloses.

Each call takes a token or hands over to the next of the three, so fuel of three for each token of
the pattern is never used up.
-/

set_option autoImplicit false

namespace FieldCheck.Regex

/-- A set that began at `start`; a set of a single character is that character. -/
def readBrackets (start : Nat) : Reader Node := do
  let negated ← accept '^'
  let items ← readSet start ((← get).rest.length + 1) []
  pure (match items with
    | [.char c] => .char c negated
    | items => .set items negated)

/-- A character that encloses nothing, behind the parts read so far, kept in reverse. -/
def readPart (start : Nat) (acc : List Node) (c : Char) : Reader (List Node) := do
  if c = '.' then pure (.any :: acc)
  else if c = '^' then pure (.anchor .lineStart :: acc)
  else if c = '$' then pure (.anchor .lineEnd :: acc)
  else if c = '[' then
    let n ← readBrackets start
    pure (n :: acc)
  else if c = '?' then repeatLast start 0 (some 1) acc
  else if c = '*' then repeatLast start 0 none acc
  else if c = '+' then repeatLast start 1 none acc
  else if c = '\x7b' then
    match ← readBounds with
    | none => pure (.char c.toNat false :: acc)
    | some (least, most) => repeatLast start least most acc
  else pure (.char c.toNat false :: acc)

/-- What an opening parenthesis starts; it may change whether blanks count.  `first` holds where
switches for the whole expression may stand, and `group` reads what is enclosed. -/
def readParenthesis (group : Nat → Opening → Reader Node) (verbose first : Bool) (start : Nat)
    (acc : List Node) : Reader (Bool × List Node) := do
  match ← readOpening start with
  | .nothing => pure (verbose, acc)
  | .global =>
    let s ← get
    if !first || !acc.isEmpty then fail .lateSwitches (s.tell - start)
    else pure (s.flags.verbose, acc)
  | .part n => pure (verbose, n :: acc)
  | opening =>
    let n ← group start opening
    pure (verbose, n :: acc)

/-- What a token adds to the parts read so far.  One of two characters is an escape. -/
def readToken (group : Nat → Opening → Reader Node) (verbose first : Bool) (start : Nat)
    (acc : List Node) : List Char → Reader (Bool × List Node)
  | [_, c] => do
    let n ← escape c
    pure (verbose, n :: acc)
  | [c] => do
    if verbose && isLayout c then pure (verbose, acc)
    else if verbose && c = '#' then
      skipComment ((← get).rest.length + 1)
      pure (verbose, acc)
    else if c = '(' then readParenthesis group verbose first start acc
    else
      let acc ← readPart start acc c
      pure (verbose, acc)
  | _ => pure (verbose, acc)

mutual

/-- Reads alternatives; `outermost` holds outside all groups, `first` for the first alternative. -/
def readBranches : Nat → Bool → Bool → Bool → Reader (List (List Node))
  | 0, _, _, _ => fail .unexpectedEnd 0
  | fuel + 1, verbose, outermost, first => do
    let branch ← readSequence fuel verbose (outermost && first) []
    if ← accept '|' then
      let s ← get
      let verbose := if outermost then s.flags.verbose else verbose
      let rest ← readBranches fuel verbose outermost false
      pure (branch :: rest)
    else pure [branch]

/-- Reads a sequence behind the parts read so far, kept in reverse; `first` holds where switches for
the whole expression may stand. -/
def readSequence : Nat → Bool → Bool → List Node → Reader (List Node)
  | 0, _, _, _ => fail .unexpectedEnd 0
  | fuel + 1, verbose, first, acc => do
    match ← peek with
    | none => pure acc.reverse
    | some t =>
      if t = ['|'] || t = [')'] then pure acc.reverse
      else
        let start := (← get).tell
        let _ ← take
        let (verbose, acc) ← readToken (readGroup fuel verbose) verbose first start acc t
        readSequence fuel verbose first acc

/-- Reads what an opening parenthesis at `start` encloses. -/
def readGroup : Nat → Bool → Nat → Opening → Reader Node
  | 0, _, _, _ => fail .unexpectedEnd 0
  | fuel + 1, verbose, start, opening => do
    let body : Bool → Reader (List Node) := fun verbose => do
      match ← readBranches fuel verbose false false with
      | [items] => pure items
      | choices => pure [.branch choices]
    match opening with
    | .capture name =>
      let index ← openGroup name
      let items ← body verbose
      close start
      closeGroup index items
      pure (.group (some index) {} items)
    | .plain switches =>
      let items ← body (switches.verbose.getD verbose)
      close start
      pure (.group none switches items)
    | .atomic =>
      let items ← body verbose
      close start
      pure (.atomic items)
    | .look behind negated =>
      let outer := (← get).lookGroups
      if behind && outer.isNone then
        modify fun s => { s with lookGroups := some s.groups.size }
      let items ← body verbose
      if behind && outer.isNone then modify fun s => { s with lookGroups := none }
      close start
      let s ← get
      let width := if behind then sequenceWidth s.groups.toList items else (0, 0)
      pure (.look behind negated width items)
    | .condition =>
      let g ← readConditionGroup
      checkLookGroup g
      let yes ← readSequence fuel verbose false []
      let no ← if ← accept '|' then
          let no ← readSequence fuel verbose false []
          if (← peek) = some ['|'] then fail .tooManyBranches 0 else pure no
        else pure []
      close start
      pure (.condition g yes no)
    | .part n => pure n
    | .nothing | .global => pure (.group none {} [])

end

end FieldCheck.Regex
