import FieldCheck.Text.CaseTable

/-!
# Letter case

* `lowerChar` — the one-character lower case; `capitalsOf` goes back.
* `lower` — the lower case of a text: a capital sigma at the end of a word takes its final shape,
  and a dotted capital I leaves its dot behind as a combining mark.
* `upperChar`, `capitalize` — upper case, which may be longer than the character it comes from.
-/

set_option autoImplicit false

namespace FieldCheck.Text

/-- The lower case of a character, where it is one character. -/
def lowerChar (c : Char) : Char :=
  if c.toNat < 128 then c.toLower else Char.ofNat (moveCase lowerRows c.toNat)

/-- Whether the nearest character that counts is cased. -/
def meetsCased : List Char → Bool
  | [] => false
  | c :: rest =>
    if casedRanges.holds c.toNat then true
    else if ignorableRanges.holds c.toNat then meetsCased rest
    else false

/-- Capital sigma. -/
def capitalSigma : Char := Char.ofNat 0x3a3

/-- The code points other than `n` whose lower case is `n`. -/
def capitalsOf (n : Nat) : List Nat :=
  if 97 ≤ n && n ≤ 122 then (n - 32) :: beyond else beyond
where
  /-- Those beyond ASCII, row by row. -/
  beyond : List Nat := lowerRows.filterMap fun (first, last, stride, shift) =>
    let m := ((n : Int) - shift).toNat
    if first ≤ m && m ≤ last && (m - first) % stride == 0 then some m else none

/-- The lower case of a text whose part before, reversed, is `before`. -/
def lowerFrom : List Char → List Char → List Char
  | _, [] => []
  | before, c :: rest =>
    let here :=
      if c.toNat < 128 then [c.toLower]
      else if c == capitalSigma then
        [Char.ofNat (if meetsCased before && !meetsCased rest then 0x3c2 else 0x3c3)]
      else if c.toNat == 0x130 then ['i', Char.ofNat 0x307]
      else [lowerChar c]
    here ++ lowerFrom (c :: before) rest

/-- The lower case of a text. -/
def lower (s : List Char) : List Char := lowerFrom [] s

/-- The same on strings. -/
def lowerString (s : String) : String := String.ofList (lower s.toList)

/-- The upper case of a character. -/
def upperChar (c : Char) : List Char :=
  if c.toNat < 128 then [c.toUpper]
  else match upperExpansions.find? (fun row => row.1 == c.toNat) with
    | some row => row.2.map Char.ofNat
    | none => [Char.ofNat (moveCase upperRows c.toNat)]

/-- The text with its first character in upper case. -/
def capitalize (s : String) : String :=
  match s.toList with
  | [] => ""
  | c :: rest => String.ofList (upperChar c ++ rest)

/-- The lower-case letters that share an upper case with a lower-case letter, itself included. -/
def kin (c : Char) : List Char :=
  match caseKin.find? (fun row => row.1 == c.toNat) with
  | some row => c :: row.2.map Char.ofNat
  | none => [c]

end FieldCheck.Text
