import FieldCheck.Regex.Scan
import FieldCheck.Text.Alphanumeric
import FieldCheck.Text.Digit

/-!
# Switches inside patterns

* `switchOf?` — the letters that are switches.
* `readSwitchesOn`, `readSwitchesOff` — the letters before and behind a hyphen.
* `readSwitches` — the switches of a group, or those of the whole expression, which take effect at
  once.
-/

set_option autoImplicit false

namespace FieldCheck.Regex

open Text

/-- The letters of the switches. -/
def switchLetters : List Char := ['i', 'L', 'm', 's', 'x', 'a', 't', 'u']

/-- The switch that a token is. -/
def switchOf? : List Char → Option Char
  | [c] => if switchLetters.contains c then some c else none
  | _ => none

/-- Whether a token is made of letters. -/
def isAlphabetic (t : List Char) : Bool := t.all fun c => isAlphanumeric c && !isDecimalDigit c

/-- Fails because a switch is not known or something else is missing. -/
def failSwitch {α : Type} (t : List Char) (what : String) : Reader α :=
  fail (if isAlphabetic t then .unknownSwitch else .missing what) t.length

/-- Switches that are turned on, up to what ends them. -/
def readSwitchesOn : Nat → List Char → Char → Reader (List Char × Char)
  | 0, _, _ => fail .unexpectedEnd 0
  | fuel + 1, acc, c => do
    if c = 'L' then fail .localeSwitch 0
    else
      let acc := acc ++ [c]
      if (c = 'a' && acc.contains 'u') || (c = 'u' && acc.contains 'a') then
        fail .clashingSwitches 0
      else
        match ← take with
        | none => fail (.missing "-, : or )") 0
        | some t =>
          if t = [')'] then pure (acc, ')')
          else if t = ['-'] then pure (acc, '-')
          else if t = [':'] then pure (acc, ':')
          else
            match switchOf? t with
            | some d => readSwitchesOn fuel acc d
            | none => failSwitch t "-, : or )"

/-- Switches that are turned off, up to the colon. -/
def readSwitchesOff : Nat → List Char → Char → Reader (List Char)
  | 0, _, _ => fail .unexpectedEnd 0
  | fuel + 1, acc, c => do
    if c = 'a' || c = 'u' || c = 'L' then fail .fixedSwitch 0
    else
      let acc := acc ++ [c]
      match ← take with
      | none => fail (.missing ":") 0
      | some t =>
        if t = [':'] then pure acc
        else
          match switchOf? t with
          | some d => readSwitchesOff fuel acc d
          | none => failSwitch t ":"

/-- What a letter does among those turned on and off. -/
def switched (on off : List Char) (c : Char) : Option Bool :=
  if on.contains c then some true else if off.contains c then some false else none

/-- The switches of the letters turned on and off. -/
def switchesOf (on off : List Char) : Switches :=
  { ignoreCase := switched on off 'i'
    multiline := switched on off 'm'
    dotAll := switched on off 's'
    verbose := switched on off 'x'
    ascii := if on.contains 'a' then some true else if on.contains 'u' then some false else none }

/-- Switches of a group, or nothing if they hold for the whole expression. -/
def readSwitches (first : List Char) : Reader (Option Switches) := do
  let fuel := (← get).rest.length + 2
  let (on, ending) ← match switchOf? first with
    | some c => readSwitchesOn fuel [] c
    | none => pure ([], '-')
  if ending = ')' then
    let s ← get
    let switches := switchesOf (on.filter (· != 'u')) []
    set { s with
      flags := s.flags.with switches
      wide := s.wide || on.contains 'u'
      template := s.template || on.contains 't' }
    return none
  else if on.contains 't' then fail .globalSwitchOn 1
  else if ending = ':' then return some (switchesOf on [])
  else
    match ← take with
    | none => fail (.missing "flag") 0
    | some t =>
      match switchOf? t with
      | none => failSwitch t "flag"
      | some c =>
        let off ← readSwitchesOff fuel [] c
        if off.contains 't' then fail .globalSwitchOff 1
        else if off.any on.contains then fail .switchedTwice 1
        else return some (switchesOf on off)

end FieldCheck.Regex
