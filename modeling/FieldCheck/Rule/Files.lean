import FieldCheck.Media.Guess
import FieldCheck.Rule.Check
import FieldCheck.Value.Reading

/-!
# Files

A file is a dictionary with a name and perhaps a type, a thing with such attributes, a path, or
the name itself.

* `filesOf` — the files that a value holds.
* `mediaType` — the declared type of a file, else the one that its name suggests.
* `allows` — whether a pattern allows a type; `image/*` allows every image.
* `mime` — every file has an allowed type.
-/

set_option autoImplicit false

namespace FieldCheck.Rules

open Text

/-- The files that a value holds. -/
def filesOf : Value → List Value
  | .list items | .tuple items | .set items => items
  | .spec rules _ => rules.map Value.rule
  | v => [v]

/-- The first of two values that counts as true, else the second. -/
def either (a b : Option Value) : Value :=
  match a with
  | some v => if v.truthy then v else b.getD .absent
  | none => b.getD .absent

/-- What a file declares as its type. -/
def declaredType : Value → Value
  | .dict entries => either (textEntry entries "type") (textEntry entries "mime")
  | .file attributes _ => either (attributes.lookup "type") (attributes.lookup "content_type")
  | _ => .absent

/-- The name of a file. -/
def fileName : Value → Value
  | .dict entries => either (textEntry entries "name") (textEntry entries "filename")
  | .file attributes _ => (attributes.lookup "name").getD .absent
  | .text s => .text s
  | .path s => .path s
  | .rule r => .text r.name
  | _ => .absent

/-- The type that a name suggests. -/
def namedType : Value → Except Crash (Option String)
  | .text s | .path s => .ok (Media.guess s)
  | .bytes _ => .error .nameInBytes
  | v => .error (.notPath v.kind)

/-- The declared type of a file in lower case, else the one that its name suggests. -/
def mediaType (file : Value) : Except Crash (Option String) :=
  let declared := declaredType file
  if declared.truthy then .ok (some (lowerString declared.textForm))
  else
    let name := fileName file
    if name.truthy then namedType name else .ok none

/-- Whether a pattern allows a type. -/
def allows (pattern type : List Char) : Bool :=
  ("/*".toList.isSuffixOf pattern && pattern.dropLast.isPrefixOf type) || type == pattern

/-- Whether a file has an allowed type. -/
def allowedFile (patterns : List (List Char)) (file : Value) : Except Crash Bool :=
  match mediaType file with
  | .error crash => .error crash
  | .ok none => .ok false
  | .ok (some type) => .ok (patterns.any fun p => allows p type.toList)

/-- Patterns as they are compared: trimmed and in lower case. -/
def patternTexts (c : Context) : List Value → Except Crash (List (List Char))
  | [] => .ok []
  | arg :: rest =>
    match plainText c arg with
    | .error crash => .error crash
    | .ok text => (patternTexts c rest).map (lower (trim text.toList) :: ·)

/-- Every file has an allowed type. -/
def mime : Check := fun v args c =>
  match patternTexts c args with
  | .error crash => .error crash
  | .ok [] => .ok false
  | .ok patterns =>
    (holdsAny (fun file => (allowedFile patterns file).map not) (filesOf v)).map not

end FieldCheck.Rules
