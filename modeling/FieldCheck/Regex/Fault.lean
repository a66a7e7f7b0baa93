import FieldCheck.Text.Quoted

/-!
# Faults of regular expressions

* `Regex.Complaint` — what can be wrong with a regular expression, with its wording.
* `Regex.Fault` — a complaint with the place where it arose, with `Fault.message`, which adds line
  and column when the expression has several lines.
-/

set_option autoImplicit false

namespace FieldCheck.Regex

open Text

/-- What can be wrong with a regular expression. -/
inductive Complaint where
  | unterminatedGroup
  | unterminatedComment
  | unterminatedSet
  | unterminatedName (closer : Char)
  | unbalanced
  | unexpectedEnd
  | missing (what : String)
  | nothingToRepeat
  | multipleRepeat
  | minAboveMax
  | repetitionTooLarge
  | escapeAtEnd
  | badEscape (escape : String)
  | incompleteEscape (escape : String)
  | octalTooLarge (escape : String)
  | undefinedCharacter (name : String)
  | badRange (low high : String)
  | badGroupName (name : String)
  | badGroupNumber
  | unknownGroup (name : String)
  | openGroup
  | groupOfSameLook
  | invalidReference (group : Int)
  | redefinition (name : String) (group earlier : Nat)
  | unknownExtension (text : String)
  | tooManyBranches
  | lateSwitches
  | unknownSwitch
  | localeSwitch
  | clashingSwitches
  | fixedSwitch
  | globalSwitchOn
  | globalSwitchOff
  | switchedTwice
  | switchesIncompatible
  | variableLookBehind
  | farLookBehind
  | repeatInTemplate (mode : String)
  deriving DecidableEq, Repr

/-- The wording of a complaint. -/
def Complaint.message : Complaint → String
  | .unterminatedGroup => "missing ), unterminated subpattern"
  | .unterminatedComment => "missing ), unterminated comment"
  | .unterminatedSet => "unterminated character set"
  | .unterminatedName closer => "missing " ++ String.ofList [closer] ++ ", unterminated name"
  | .unbalanced => "unbalanced parenthesis"
  | .unexpectedEnd => "unexpected end of pattern"
  | .missing what => "missing " ++ what
  | .nothingToRepeat => "nothing to repeat"
  | .multipleRepeat => "multiple repeat"
  | .minAboveMax => "min repeat greater than max repeat"
  | .repetitionTooLarge => "the repetition number is too large"
  | .escapeAtEnd => "bad escape (end of pattern)"
  | .badEscape escape => "bad escape " ++ escape
  | .incompleteEscape escape => "incomplete escape " ++ escape
  | .octalTooLarge escape => "octal escape value " ++ escape ++ " outside of range 0-0o377"
  | .undefinedCharacter name => "undefined character name " ++ quotedString name
  | .badRange low high => "bad character range " ++ low ++ "-" ++ high
  | .badGroupName name => "bad character in group name " ++ quotedString name
  | .badGroupNumber => "bad group number"
  | .unknownGroup name => "unknown group name " ++ quotedString name
  | .openGroup => "cannot refer to an open group"
  | .groupOfSameLook => "cannot refer to group defined in the same lookbehind subpattern"
  | .invalidReference group => "invalid group reference " ++ toString group
  | .redefinition name group earlier =>
    "redefinition of group name " ++ quotedString name ++ " as group " ++ toString group ++
      "; was group " ++ toString earlier
  | .unknownExtension text => "unknown extension ?" ++ text
  | .tooManyBranches => "conditional backref with more than two branches"
  | .lateSwitches => "global flags not at the start of the expression"
  | .unknownSwitch => "unknown flag"
  | .localeSwitch => "bad inline flags: cannot use 'L' flag with a str pattern"
  | .clashingSwitches => "bad inline flags: flags 'a', 'u' and 'L' are incompatible"
  | .fixedSwitch => "bad inline flags: cannot turn off flags 'a', 'u' and 'L'"
  | .globalSwitchOn => "bad inline flags: cannot turn on global flag"
  | .globalSwitchOff => "bad inline flags: cannot turn off global flag"
  | .switchedTwice => "bad inline flags: flag turned on and off"
  | .switchesIncompatible => "ASCII and UNICODE flags are incompatible"
  | .variableLookBehind => "look-behind requires fixed-width pattern"
  | .farLookBehind => "looks too much behind"
  | .repeatInTemplate mode => "internal: unsupported template operator " ++ mode

/-- A complaint, and where in which expression it arose. -/
structure Fault where
  complaint : Complaint
  source : String
  position : Option Nat
  deriving DecidableEq, Repr

namespace Fault

/-- The line of a position, counted from one, and its column, counted from one. -/
def lineAndColumn (source : List Char) (position : Nat) : Nat × Nat :=
  let before := source.take position
  (before.count '\n' + 1, (before.reverse.takeWhile (· != '\n')).length + 1)

/-- The wording of a fault. -/
def message (f : Fault) : String :=
  match f.position with
  | none => f.complaint.message
  | some n =>
    let base := f.complaint.message ++ " at position " ++ toString n
    if f.source.toList.contains '\n' then
      let (line, column) := lineAndColumn f.source.toList n
      base ++ " (line " ++ toString line ++ ", column " ++ toString column ++ ")"
    else base

end Fault

end FieldCheck.Regex
