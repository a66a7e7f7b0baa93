import FieldCheck.Number.Numeral
import FieldCheck.Regex.Scan
import FieldCheck.Text.Alphanumeric
import FieldCheck.Text.Digit

/-!
# Groups and their names

* `isGroupName` — a letter or a low line, then letters, digits and low lines.
* `openGroup`, `closeGroup` — give a group its number, and record how wide it is.
* `checkLookGroup` — a look-behind refers only to groups that were closed before it began.
* `readConditionGroup` — the group that a condition names or numbers.
-/

set_option autoImplicit false

namespace FieldCheck.Regex

open Text

/-- The characters that a group name may start with. -/
def startsGroupName (c : Char) : Bool :=
  c = '_' || (isAlphanumeric c && !isDecimalDigit c)

/-- Whether a text is a name that a group may have. -/
def isGroupName : List Char → Bool
  | [] => false
  | c :: rest => startsGroupName c && rest.all fun d => startsGroupName d || isDecimalDigit d

/-- Fails unless a text that has just been read is a name that a group may have. -/
def checkGroupName (name : List Char) : Reader Unit := do
  if isGroupName name then pure ()
  else fail (.badGroupName (String.ofList name)) (name.length + 1)

/-- Whether a group has been read to its end. -/
def Scan.isClosed (s : Scan) (group : Nat) : Bool := ((s.groups[group]?).bind id).isSome

/-- Within a look-behind only groups from before it may be referred to. -/
def checkLookGroup (group : Nat) : Reader Unit := do
  let s ← get
  match s.lookGroups with
  | none => pure ()
  | some n =>
    if !s.isClosed group then fail .openGroup 0
    else if n ≤ group then fail .groupOfSameLook 0
    else pure ()

/-- Opens a group. -/
def openGroup (name : Option (List Char)) : Reader Nat := do
  let s ← get
  let index := s.groups.size
  match name with
  | none =>
    set { s with groups := s.groups.push none }
    pure index
  | some name =>
    let text := String.ofList name
    match s.names.lookup text with
    | some earlier => fail (.redefinition text index earlier) (name.length + 1)
    | none =>
      set { s with groups := s.groups.push none, names := s.names ++ [(text, index)] }
      pure index

/-- Closes a group. -/
def closeGroup (index : Nat) (body : List Node) : Reader Unit :=
  modify fun s => { s with groups := s.groups.set! index (some (sequenceWidth s.groups.toList body)) }

/-- The number that no group reaches. -/
def groupLimit : Nat := 1073741823

/-- The group that a condition asks for. -/
def readConditionGroup : Reader Nat := do
  let name ← nameUntil ')' "group name"
  let back := name.length + 1
  let text := String.ofList name
  if isGroupName name then
    match (← get).names.lookup text with
    | none => fail (.unknownGroup text) back
    | some g => pure g
  else
    match readInteger name with
    | none => fail (.badGroupName text) back
    | some n =>
      if n < 0 then fail (.badGroupName text) back
      else if n = 0 then fail .badGroupNumber back
      else if groupLimit ≤ n.toNat then fail (.invalidReference n.toNat) back
      else
        let s ← get
        let g := n.toNat
        if (s.conditions.lookup g).isNone then
          set { s with conditions := s.conditions ++ [(g, s.tell - back)] }
        pure g

end FieldCheck.Regex
