import FieldCheck.Media.Table
import FieldCheck.Text.Case

/-!
# The media type of a file name

* `splitScheme` — a name without the scheme that may stand in front of it.
* `splitExtension` — a name cut before its extension, which needs something in front of it.
* `guess` — the media type that a name suggests.
-/

set_option autoImplicit false

namespace FieldCheck.Media

open Text

/-- The scheme in front of the first colon, if no slash comes before, and what follows. -/
def takeScheme : List Char → Option (List Char × List Char)
  | [] => none
  | c :: rest =>
    if c = ':' then some ([], rest)
    else if c = '/' then none
    else (takeScheme rest).map fun (scheme, after) => (c :: scheme, after)

/-- The scheme in lower case, if there is one, and the rest. -/
def splitScheme (name : List Char) : Option (List Char) × List Char :=
  match takeScheme name with
  | some (scheme, rest) => if scheme.isEmpty then (none, name) else (some (lower scheme), rest)
  | none => (none, name)

/-- A name cut before its extension.  A part of the path that is dots up to the last one has no
extension. -/
def splitExtension (name : List Char) : List Char × List Char :=
  let file := (name.reverse.takeWhile (· != '/')).reverse
  let ending := (file.reverse.takeWhile (· != '.')).reverse
  if !file.contains '.' then (name, [])
  else
    let stem := file.take (file.length - ending.length - 1)
    if stem.all (· == '.') then (name, [])
    else (name.take (name.length - ending.length - 1), '.' :: ending)

/-- Replaces extensions that stand for two. -/
def expandSuffix : Nat → List Char × List Char → List Char × List Char
  | 0, parts => parts
  | n + 1, (base, ending) =>
    match wholeSuffixes.lookup (String.ofList (lower ending)) with
    | some whole => expandSuffix n (splitExtension (base ++ whole.toList))
    | none => (base, ending)

/-- The media type of an extension. -/
def ofExtension (ending : List Char) : Option String :=
  let ending := String.ofList (lower ending)
  (mediaRows.find? fun row => row.2.contains ending).map Prod.fst

/-- The media type that data written into an address declares. -/
def ofData (body : List Char) : Option String :=
  if !body.contains ',' then none
  else
    let declared := (body.takeWhile (· != ',')).takeWhile (· != ';')
    if declared.contains '=' || !declared.contains '/' then some "text/plain"
    else some (String.ofList declared)

/-- The media type that a name suggests. -/
def guess (name : String) : Option String :=
  let (scheme, rest) := splitScheme name.toList
  if scheme = some "data".toList then ofData rest
  else
    let (base, ending) := expandSuffix 2 (splitExtension rest)
    if encodingSuffixes.contains (String.ofList ending) then ofExtension (splitExtension base).2
    else ofExtension ending

end FieldCheck.Media
