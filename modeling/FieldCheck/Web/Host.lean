import FieldCheck.Web.HostTable
import FieldCheck.Web.Number
import FieldCheck.Web.Punycode

/-!
# Hosts

* `percentDecode` — bytes written by number between other bytes.
* `mapName` — a name as it is compared: letters of ASCII in lower case, characters dropped or
  replaced, none refused.
* `isSpecialHost` — the hosts of the common schemes: a name, or an address by number.
* `isOpaqueHost` — the hosts of other schemes, which are taken as they are.
-/

set_option autoImplicit false

namespace FieldCheck.Web

open Text

/-- Bytes written as a percent sign and two hexadecimal digits. -/
def percentDecode : List UInt8 → List UInt8
  | 37 :: a :: b :: rest =>
    match digitIn? 16 (Char.ofNat a.toNat), digitIn? 16 (Char.ofNat b.toNat) with
    | some x, some y => UInt8.ofNat (16 * x + y) :: percentDecode rest
    | _, _ => 37 :: percentDecode (a :: b :: rest)
  | c :: rest => c :: percentDecode rest
  | [] => []

/-- A text with its percent signs resolved. -/
def decodedText? (s : List Char) : Option (List Char) :=
  if s.contains '%' then
    let bytes := ByteArray.mk (percentDecode (String.ofList s).toUTF8.toList).toArray
    (String.fromUTF8? bytes).map String.toList
  else some s

/-- Characters that no name of a special host may hold. -/
def isForbidden (c : Char) : Bool :=
  c.toNat ≤ 32 || c.toNat = 127 || "#%/:<>?@[\\]^|".toList.contains c

/-- The image of a character in a run. -/
def runImage? : List (Nat × Nat × Nat) → Nat → Option Char
  | [], _ => none
  | (first, last, image) :: rest, n =>
    if n < first then none
    else if n ≤ last then some (Char.ofNat (image + (n - first)))
    else runImage? rest n

/-- What a character becomes; nothing if it is refused. -/
def mapChar (c : Char) : Option (List Char) :=
  let n := c.toNat
  if n < 128 then some [c.toLower]
  else if refusedRanges.holds n then none
  else if droppedRanges.holds n then some []
  else
    match runImage? imageRuns n, imageTexts.lookup n with
    | some image, _ => some [image]
    | none, some text => some text.toList
    | none, none => some [c]

/-- A name as it is compared. -/
def mapName (s : List Char) : Option (List Char) := (s.mapM mapChar).map List.flatten

/-- Whether joiners stand only where they may. -/
def joinersFit : Option Char → List Char → Bool
  | _, [] => true
  | before, c :: rest =>
    (if c.toNat = 0x200c || c.toNat = 0x200d then
      before.any fun b => joinerHosts.contains b.toNat
    else true) && joinersFit (some c) rest

/-- Whether a label that is not all of ASCII may stand in a name. -/
def isWideLabel (label : List Char) : Bool :=
  !(label.head?.any fun c => markRanges.holds c.toNat) && joinersFit none label

/-- Whether a code point stays as it is in a name. -/
def isSettled (n : Nat) : Bool :=
  if n < 128 then
    let c := Char.ofNat n
    !isForbidden c && c.toLower = c
  else
    n < 0x110000 && !refusedRanges.holds n && !droppedRanges.holds n && !changedRanges.holds n

/-- Whether an encoded label stands for a label with letters beyond ASCII. -/
def isEncodedLabel (body : List Char) : Bool :=
  match Punycode.decode? body with
  | none => false
  | some ns =>
    ns.all isSettled && ns.any (127 < ·) && isWideLabel (ns.map Char.ofNat)

/-- Whether a label may stand in a name. -/
def isLabel (label : List Char) : Bool :=
  match label with
  | 'x' :: 'n' :: '-' :: '-' :: body => isEncodedLabel body
  | label => if label.all fun c => c.toNat < 128 then true else isWideLabel label

/-- Whether a text is a host of a common scheme, where names and addresses are told apart. -/
def isSpecialHost (s : List Char) : Bool :=
  match s with
  | '[' :: rest => rest.getLast? == some ']' && isGroupAddress rest.dropLast
  | s =>
    match (decodedText? s).bind mapName with
    | none => false
    | some name =>
      let labels := pieces '.' name
      !name.isEmpty && !name.any isForbidden && labels.all isLabel &&
        (!isNumericHost labels || isFourByteAddress labels)

/-- Characters that no other host may hold. -/
def isForbiddenOpaque (c : Char) : Bool :=
  c.toNat = 0 || "\t\n\r #/:<>?@[\\]^|".toList.contains c

/-- Whether a text that is not empty is a host of another scheme. -/
def isOpaqueHost (s : List Char) : Bool :=
  match s with
  | '[' :: rest => rest.getLast? == some ']' && isGroupAddress rest.dropLast
  | s => !s.isEmpty && !s.any isForbiddenOpaque

end FieldCheck.Web
