import FieldCheck.Rule.Check
import FieldCheck.Value.Reading

/-!
# Texts made of letters

* `Charset` — the Latin letters, with or without the accented ones.
* `alpha`, `alphanumeric` — letters only; letters and digits only.
* `startsWith`, `endsWith` — the text begins or ends with one of the arguments, if there are any.
-/

set_option autoImplicit false

namespace FieldCheck.Rules

open Text

/-- Sets of letters. -/
inductive Charset where
  | accented
  | latin
  deriving DecidableEq, Repr

/-- The set of a name. -/
def Charset.ofName? (name : String) : Option Charset :=
  if name = "default" then some .accented else if name = "latin" then some .latin else none

/-- Accented letters of the first 256 characters. -/
def isAccentedLetter (c : Char) : Bool :=
  let n := c.toNat
  (0xc0 ≤ n && n ≤ 0xd6) || (0xd8 ≤ n && n ≤ 0xf6) || (0xf8 ≤ n && n ≤ 0xff)

/-- Whether a letter belongs to a set. -/
def Charset.holds (s : Charset) (c : Char) : Bool :=
  c.isAlpha || (s == .accented && isAccentedLetter c)

/-- The set that an argument names. -/
def charset (arg : Value) (c : Context) : Except Crash Charset :=
  match plainText c arg with
  | .error crash => .error crash
  | .ok name =>
    match Charset.ofName? name with
    | some s => .ok s
    | none => .error (quoting c arg .unknownCharset)

/-- A text that is not empty and all of whose characters pass a test. -/
def madeOf (test : Charset → Char → Bool) : Check := fun v args c => do
  let set ← charset (← argument args 0) c
  pure (match v.scalarText? with
    | some s => !s.isEmpty && s.toList.all (test set)
    | none => false)

/-- Letters only. -/
def alpha : Check := madeOf Charset.holds

/-- Letters and digits of ASCII only. -/
def alphanumeric : Check := madeOf fun set c => set.holds c || c.isDigit

/-- A text that is related to one of the arguments, if there are any. -/
def related (test : List Char → List Char → Bool) : Check := fun v args c =>
  match v with
  | .text s =>
    if args.isEmpty then .ok true
    else holdsAny (fun arg => (plainText c arg).map fun t => test t.toList s.toList) args
  | _ => .ok false

/-- The text begins with one of the arguments. -/
def startsWith : Check := related fun arg s => arg.isPrefixOf s

/-- The text ends with one of the arguments. -/
def endsWith : Check := related fun arg s => arg.isSuffixOf s

end FieldCheck.Rules
