import FieldCheck.Regex.Group
import FieldCheck.Regex.Layout
import FieldCheck.Regex.Switch

/-!
# Opening parentheses

* `Opening` — what the characters behind an opening parenthesis announce.
* `readOpening` — reads them.
* `close` — the parenthesis at the other end.
-/

set_option autoImplicit false

namespace FieldCheck.Regex

/-- What the characters behind an opening parenthesis announce. -/
inductive Opening where
  | capture (name : Option (List Char))
  | plain (switches : Switches)
  | atomic
  | look (behind negated : Bool)
  | condition
  | part (n : Node)
  | nothing
  | global

/-- A group that bears a name, or a reference by name. -/
def readNamed : Reader Opening := do
  if ← accept '<' then
    let name ← nameUntil '>' "group name"
    checkGroupName name
    return .capture (some name)
  else if ← accept '=' then
    let name ← nameUntil ')' "group name"
    checkGroupName name
    let s ← get
    let text := String.ofList name
    match s.names.lookup text with
    | none => fail (.unknownGroup text) (name.length + 1)
    | some g =>
      if !s.isClosed g then fail .openGroup (name.length + 1)
      else
        checkLookGroup g
        return .part (.reference g)
  else
    match ← take with
    | none => fail .unexpectedEnd 0
    | some t => fail (.unknownExtension (String.ofList ('P' :: t))) (t.length + 2)

/-- What stands behind an opening parenthesis at `start`. -/
def readOpening (start : Nat) : Reader Opening := do
  if ← accept '?' then
    match ← take with
    | none => fail .unexpectedEnd 0
    | some t =>
      if t = ['P'] then readNamed
      else if t = [':'] then return .plain {}
      else if t = ['#'] then
        skipGroupComment start ((← get).rest.length + 1)
        return .nothing
      else if t = ['='] then return .look false false
      else if t = ['!'] then return .look false true
      else if t = ['<'] then
        match ← take with
        | none => fail .unexpectedEnd 0
        | some u =>
          if u = ['='] then return .look true false
          else if u = ['!'] then return .look true true
          else fail (.unknownExtension (String.ofList ('<' :: u))) (u.length + 2)
      else if t = ['('] then return .condition
      else if t = ['>'] then return .atomic
      else if t = ['-'] || (switchOf? t).isSome then
        match ← readSwitches t with
        | none => return .global
        | some switches => return .plain switches
      else fail (.unknownExtension (String.ofList t)) (t.length + 1)
  else return .capture none

/-- Takes the parenthesis that closes a group opened at `start`. -/
def close (start : Nat) : Reader Unit := do
  if ← accept ')' then pure ()
  else
    let s ← get
    fail .unterminatedGroup (s.tell - start)

end FieldCheck.Regex
