import FieldCheck.Text.Blank
import FieldCheck.Text.Pieces

/-!
# Arguments of a rule

The arguments of a rule stand behind its colon, separated by commas.  A regular expression between
slashes is one argument, whatever commas it holds, and so is a group in brackets.

* `slashedGroup?`, `balancedGroup?` — the first pieces that together form one argument.
* `splitArguments` — the arguments, unless brackets do not match.
-/

set_option autoImplicit false

namespace FieldCheck

open Text

/-- Whether a text ends a regular expression that a slash begins. -/
def closesSlashed (s : List Char) : Bool := 1 < s.length && s.getLast? == some '/'

/-- The fewest pieces that, behind `before`, end a regular expression, and the pieces after them. -/
def slashedGroup? : List Char → List (List Char) → Option (List Char × List (List Char))
  | _, [] => none
  | before, piece :: rest =>
    let text := before ++ piece
    if closesSlashed (trim text) then some (text, rest) else slashedGroup? (text ++ [',']) rest

/-- How many brackets are open after a text; nothing if one closes that was not open. -/
def depthAfter? : Nat → List Char → Option Nat
  | depth, [] => some depth
  | depth, c :: rest =>
    if c = '[' then depthAfter? (depth + 1) rest
    else if c = ']' then
      match depth with
      | 0 => none
      | depth + 1 => depthAfter? depth rest
    else depthAfter? depth rest

/-- The fewest pieces after which no bracket is open, and the pieces after them. -/
def balancedGroup? : Nat → List Char → List (List Char) → Option (List Char × List (List Char))
  | _, _, [] => none
  | depth, before, piece :: rest =>
    match depthAfter? depth piece with
    | none => none
    | some 0 => some (before ++ piece, rest)
    | some depth => balancedGroup? depth (before ++ piece ++ [',']) rest

/-- Whether a text begins with a slash, blanks aside. -/
def startsSlashed (s : List Char) : Bool := (trim s).head? == some '/'

/-- The pieces that form the first argument, and the pieces after them. -/
def firstGroup? : List (List Char) → Option (List Char × List (List Char))
  | [] => none
  | piece :: rest =>
    if startsSlashed piece then
      match slashedGroup? [] (piece :: rest) with
      | some group => some group
      | none => balancedGroup? 0 [] (piece :: rest)
    else balancedGroup? 0 [] (piece :: rest)

theorem slashedGroup?_length {before : List Char} {ps : List (List Char)} {g : List Char}
    {rest : List (List Char)} (h : slashedGroup? before ps = some (g, rest)) :
    rest.length < ps.length := by
  induction ps generalizing before with
  | nil => simp [slashedGroup?] at h
  | cons p ps ih =>
    simp only [slashedGroup?] at h
    split at h
    · simp_all
    · have := ih h
      simp only [List.length_cons]
      omega

theorem balancedGroup?_length {depth : Nat} {before : List Char} {ps : List (List Char)}
    {g : List Char} {rest : List (List Char)}
    (h : balancedGroup? depth before ps = some (g, rest)) : rest.length < ps.length := by
  induction ps generalizing depth before with
  | nil => simp [balancedGroup?] at h
  | cons p ps ih =>
    simp only [balancedGroup?] at h
    split at h
    · simp at h
    · simp_all
    · have := ih h
      simp only [List.length_cons]
      omega

theorem firstGroup?_length {ps : List (List Char)} {g : List Char} {rest : List (List Char)}
    (h : firstGroup? ps = some (g, rest)) : rest.length < ps.length := by
  cases ps with
  | nil => simp [firstGroup?] at h
  | cons p ps =>
    simp only [firstGroup?] at h
    split at h
    · split at h
      · next heq => exact slashedGroup?_length (by rw [heq]; exact h)
      · exact balancedGroup?_length h
    · exact balancedGroup?_length h

/-- The arguments that pieces form, untrimmed. -/
def groups? (ps : List (List Char)) : Option (List (List Char)) :=
  if ps.isEmpty then some []
  else
    match _h : firstGroup? ps with
    | none => none
    | some (g, rest) => (groups? rest).map (g :: ·)
termination_by ps.length
decreasing_by exact firstGroup?_length (by assumption)

/-- The arguments of a rule, trimmed; a blank text has none. -/
def splitArguments (s : List Char) : Option (List (List Char)) :=
  if (trim s).isEmpty then some [] else (groups? (pieces ',' s)).map (·.map trim)

end FieldCheck
