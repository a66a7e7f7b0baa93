import FieldCheck.Regex.Fault
import FieldCheck.Regex.Node

/-!
# What a pattern is read from

* `Token` — one character, or a backslash with the character behind it.
* `Scan` — what is still to be read and what is known about groups and switches.
* `peek`, `take`, `accept` — the next token: looked at, taken, or taken if it is a given character.
* `takeClass`, `nameUntil` — several tokens at once.
* `fail` — gives up, at a place counted back from the next token.
-/

set_option autoImplicit false

namespace FieldCheck.Regex

/-- A character or an escape, and where it starts. -/
structure Token where
  text : List Char
  position : Nat

/-- Cuts a text into tokens; a backslash at the end is a token of its own. -/
def tokens : Nat → List Char → List Token
  | _, [] => []
  | n, '\\' :: c :: rest => ⟨['\\', c], n⟩ :: tokens (n + 2) rest
  | n, c :: rest => ⟨[c], n⟩ :: tokens (n + 1) rest

/-- What the reader knows. -/
structure Scan where
  source : String
  length : Nat
  rest : List Token
  flags : Flags
  /-- Set by the switch that asks for characters of all scripts. -/
  wide : Bool := false
  /-- Set by the switch that forbids repetitions. -/
  template : Bool := false
  /-- The widths of the groups that are closed; the first place stands for the whole. -/
  groups : Array (Option Width) := #[none]
  names : List (String × Nat) := []
  /-- The number of groups when the outermost look-behind began. -/
  lookGroups : Option Nat := none
  /-- The first place of each condition on a numbered group. -/
  conditions : List (Nat × Nat) := []

/-- Reading may fail and changes what is known. -/
abbrev Reader (α : Type) := StateT Scan (Except Fault) α

/-- The place where the next token starts. -/
def Scan.tell (s : Scan) : Nat :=
  match s.rest with
  | [] => s.length
  | t :: _ => t.position

/-- Fails at `back` characters before the next token. -/
def fail {α : Type} (c : Complaint) (back : Nat) : Reader α := do
  let s ← get
  throw ⟨c, s.source, some (s.tell - back)⟩

/-- Fails without a place. -/
def failNowhere {α : Type} (c : Complaint) : Reader α := do
  let s ← get
  throw ⟨c, s.source, none⟩

/-- A lone backslash must not come next. -/
def checkNext : Reader Unit := do
  let s ← get
  match s.rest with
  | t :: _ => if t.text = ['\\'] then throw ⟨.escapeAtEnd, s.source, some (s.length - 1)⟩
  | [] => pure ()

/-- The next token. -/
def peek : Reader (Option (List Char)) := do
  let s ← get
  pure (s.rest.head?.map Token.text)

/-- Takes the next token. -/
def take : Reader (Option (List Char)) := do
  let s ← get
  set { s with rest := s.rest.tail }
  checkNext
  pure (s.rest.head?.map Token.text)

/-- Takes the next token if it is the given character. -/
def accept (c : Char) : Reader Bool := do
  if (← peek) = some [c] then
    let _ ← take
    pure true
  else pure false

/-- Takes at most `n` tokens that are characters of a class. -/
def takeClass (p : Char → Bool) : Nat → Reader (List Char)
  | 0 => pure []
  | n + 1 => do
    match ← peek with
    | some [c] =>
      if p c then do
        let _ ← take
        let rest ← takeClass p n
        pure (c :: rest)
      else pure []
    | _ => pure []

/-- Takes tokens up to a closing character; `what` names the text in front of it. -/
def takeUntil (closer : Char) (what : String) : Nat → List Char → Reader (List Char)
  | 0, _ => fail .unexpectedEnd 0
  | n + 1, acc => do
    match ← take with
    | none =>
      if acc.isEmpty then fail (.missing what) 0
      else fail (.unterminatedName closer) acc.length
    | some t =>
      if t = [closer] then
        if acc.isEmpty then fail (.missing what) 1 else pure acc
      else takeUntil closer what n (acc ++ t)

/-- The text up to a closing character. -/
def nameUntil (closer : Char) (what : String) : Reader (List Char) := do
  let s ← get
  takeUntil closer what (s.rest.length + 1) []

end FieldCheck.Regex
