import FieldCheck.Regex.Escape

/-!
# Repetitions

* `readBounds` — the least and the greatest number in braces; braces that hold anything else stand
  for themselves.
* `readGreed` — the mark behind a repetition.
* `repeatLast` — puts a repetition around the part before it, which must be there and must not be
  a place or a repetition.
-/

set_option autoImplicit false

namespace FieldCheck.Regex

/-- The greatest number of repetitions that can be written. -/
def greatestRepeat : Nat := 4294967295

/-- The bounds in braces; nothing if the brace stands for itself. -/
def readBounds : Reader (Option (Nat × Option Nat)) := do
  let before ← get
  if (← peek) = some ['\x7d'] then return none
  let fuel := before.rest.length
  let low ← takeClass Char.isDigit fuel
  let high ← if ← accept ',' then takeClass Char.isDigit fuel else pure low
  if ← accept '\x7d' then
    let least := inBase 10 low
    if greatestRepeat ≤ least then failNowhere .repetitionTooLarge
    else if high.isEmpty then return some (least, none)
    else
      let most := inBase 10 high
      if greatestRepeat ≤ most then failNowhere .repetitionTooLarge
      else if most < least then
        let s ← get
        fail .minAboveMax (s.tell - before.tell)
      else return some (least, some most)
  else
    modify fun s => { s with rest := before.rest }
    return none

/-- How a repetition chooses, by the mark behind it. -/
def readGreed : Reader Greed := do
  if ← accept '?' then pure .lazy
  else if ← accept '+' then pure .possessive
  else pure .greedy

/-- Puts a repetition around the last of the parts read so far, kept in reverse. -/
def repeatLast (start : Nat) (least : Nat) (most : Option Nat) : List Node → Reader (List Node)
  | [] => do fail .nothingToRepeat ((← get).tell - start)
  | .anchor _ :: _ => do fail .nothingToRepeat ((← get).tell - start)
  | .repetition .. :: _ => do fail .multipleRepeat ((← get).tell - start)
  | n :: rest => do
    let greed ← readGreed
    pure (.repetition least most greed [n] :: rest)

end FieldCheck.Regex
