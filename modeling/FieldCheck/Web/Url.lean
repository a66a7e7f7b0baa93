import FieldCheck.Web.Host

/-!
# Web addresses

* `splitScheme?` — the scheme of an address in lower case, and what follows its colon.
* `Scheme` — files, the common schemes, which need no slashes and take a backslash for a slash, and
  all others.
* `hasHost` — whether a text is an address with a host.
-/

set_option autoImplicit false

namespace FieldCheck.Web

open Text

/-- The characters that a scheme may go on with. -/
def isSchemeChar (c : Char) : Bool :=
  c.isAlphanum || c = '+' || c = '-' || c = '.'

/-- The scheme of an address, and what follows its colon. -/
def splitScheme? (s : List Char) : Option (List Char × List Char) :=
  let scheme := s.takeWhile isSchemeChar
  match s.drop scheme.length with
  | ':' :: rest => if scheme.head?.any Char.isAlpha then some (scheme.map Char.toLower, rest) else none
  | _ => none

/-- Kinds of schemes. -/
inductive Scheme where
  | file
  | common
  | other
  deriving DecidableEq, Repr

/-- The kind of a scheme. -/
def Scheme.of (name : List Char) : Scheme :=
  let name := String.ofList name
  if name = "file" then .file
  else if ["http", "https", "ws", "wss", "ftp"].contains name then .common
  else .other

/-- The characters that end the part of an address that names the host. -/
def endsAuthority (scheme : Scheme) (c : Char) : Bool :=
  c = '/' || c = '?' || c = '#' || (scheme != .other && c = '\\')

/-- The text behind the last at sign. -/
def afterUser (authority : List Char) : List Char :=
  (authority.reverse.takeWhile (· != '@')).reverse

/-- The length of the host at the start of a text: up to a colon that is not in brackets. -/
def hostLength : Bool → List Char → Nat
  | _, [] => 0
  | bracketed, c :: rest =>
    if c = ':' && !bracketed then 0
    else hostLength (if c = '[' then true else if c = ']' then false else bracketed) rest + 1

/-- Whether a text is a port: digits that write at most 65535, or nothing. -/
def isPort (s : List Char) : Bool :=
  let ds := s.takeWhile (· != '\\')
  ds.all Char.isDigit && (numberIn? 10 ds).any (· ≤ 65535)

/-- Whether host and port are as they must be. -/
def isHostAndPort (scheme : Scheme) (s : List Char) : Bool :=
  let n := hostLength false s
  let host := s.take n
  let goodHost := if scheme = .common then isSpecialHost host else isOpaqueHost host
  goodHost && (match s.drop n with
    | [] => true
    | _ :: port => isPort port)

/-- Whether what follows the slashes names a host. -/
def hasAuthority (scheme : Scheme) (s : List Char) : Bool :=
  isHostAndPort scheme (afterUser (s.takeWhile fun c => !endsAuthority scheme c))

/-- Whether a text is the letter of a drive. -/
def isDriveLetter (s : List Char) : Bool :=
  match s with
  | [c, mark] => c.isAlpha && (mark = ':' || mark = '|')
  | _ => false

/-- Whether the address of a file names a host. -/
def hasFileHost (s : List Char) : Bool :=
  let isSlash := fun (c : Char) => c = '/' || c = '\\'
  match s with
  | a :: b :: rest =>
    if isSlash a && isSlash b then
      let host := rest.takeWhile fun c => !endsAuthority .file c
      !host.isEmpty && !isDriveLetter host && isSpecialHost host &&
        (decodedText? host).bind mapName != some "localhost".toList
    else false
  | _ => false

/-- Characters that are dropped at both ends of an address. -/
def isEdge (c : Char) : Bool := c.toNat ≤ 32

/-- Whether a text is an address with a host. -/
def hasHost (s : List Char) : Bool :=
  let s := ((s.dropWhile isEdge).reverse.dropWhile isEdge).reverse
  match splitScheme? s with
  | none => false
  | some (scheme, rest) =>
    match Scheme.of scheme with
    | .file => hasFileHost rest
    | .common => hasAuthority .common (rest.dropWhile fun c => c = '/' || c = '\\')
    | .other =>
      match rest with
      | '/' :: '/' :: rest => hasAuthority .other rest
      | _ => false

end FieldCheck.Web
