import FieldCheck.Regex.Escape

/-!
# Sets of characters in brackets

* `setMember` — a character or an escape.
* `readSet` — the members up to the closing bracket; a hyphen between two characters makes a range.
-/

set_option autoImplicit false

namespace FieldCheck.Regex

/-- One member of a set that starts with a token. -/
def setMember (t : List Char) : Reader SetItem :=
  match t with
  | ['\\', c] => setEscape c
  | c :: _ => pure (.char c.toNat)
  | [] => pure (.char 0)

/-- The members of a set; it began at `start`. -/
def readSet (start : Nat) : Nat → List SetItem → Reader (List SetItem)
  | 0, _ => fail .unexpectedEnd 0
  | fuel + 1, acc => do
    let ended : Reader (List SetItem) := do
      let s ← get
      fail .unterminatedSet (s.tell - start)
    match ← take with
    | none => ended
    | some t =>
      if t = [']'] && !acc.isEmpty then pure acc
      else
        let low ← setMember t
        if ← accept '-' then
          match ← take with
          | none => ended
          | some u =>
            if u = [']'] then pure (acc ++ [low, .char '-'.toNat])
            else
              let high ← setMember u
              let bad : Reader (List SetItem) :=
                fail (.badRange (String.ofList t) (String.ofList u)) (t.length + 1 + u.length)
              match low, high with
              | .char a, .char b =>
                if b < a then bad else readSet start fuel (acc ++ [.range a b])
              | _, _ => bad
        else readSet start fuel (acc ++ [low])

end FieldCheck.Regex
