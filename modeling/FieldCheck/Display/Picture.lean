import FieldCheck.Display.EmojiTable
import FieldCheck.Text.Blank
import FieldCheck.Text.Case

/-!
# Pictures in texts

* `replaceNames` — puts pictures in the place of their names between colons.
* `shownText` — a text as it is shown: pictures for names, and control characters dropped.
-/

set_option autoImplicit false

namespace FieldCheck.Display

open Text

/-- The picture of a name in rows of names and pictures. -/
def pictureIn (name : String) : List String → Option (List Char)
  | [] => none
  | row :: rest =>
    match row.splitOn "=" with
    | [n, picture] => if n = name then some picture.toList else pictureIn name rest
    | _ => pictureIn name rest

/-- The picture of a name. -/
def picture? (name : List Char) : Option (List Char) :=
  pictureIn (String.ofList (lower name)) (emojiRows.flatMap fun row => row.splitOn " ")

/-- The marks that ask for a plain or a coloured form of a picture. -/
def variants : List (String × Char) :=
  [("text", Char.ofNat 0xfe0e), ("emoji", Char.ofNat 0xfe0f)]

/-- What stands for a name, of which the last part may ask for a form of the picture. -/
def pictureOf (name : List Char) : Option (List Char) :=
  let asked := variants.find? fun v =>
    let ending := '-' :: v.1.toList
    ending.length ≤ name.length && name.drop (name.length - ending.length) == ending
  match asked with
  | some v =>
    (picture? (name.take (name.length - v.1.length - 1))).map (· ++ [v.2])
  | none => picture? name

/-- The name up to the next colon, if no blank comes first, and the text behind that colon. -/
def takeName : List Char → Option (List Char × List Char)
  | [] => none
  | c :: rest =>
    if c = ':' then some ([], rest)
    else if isBlank c then none
    else (takeName rest).map fun (name, after) => (c :: name, after)

theorem takeName_length {s name after : List Char} (h : takeName s = some (name, after)) :
    after.length < s.length := by
  induction s generalizing name after with
  | nil => simp [takeName] at h
  | cons c rest ih =>
    simp only [takeName] at h
    split at h
    · simp_all
    · split at h
      · simp at h
      · obtain ⟨⟨n, a⟩, hp, hq⟩ := Option.map_eq_some_iff.1 h
        have := ih hp
        simp only [Prod.mk.injEq] at hq
        obtain ⟨_, rfl⟩ := hq
        simp only [List.length_cons]
        omega

/-- Puts pictures in the place of their names between colons. -/
def replaceNames : List Char → List Char
  | [] => []
  | c :: rest =>
    if c = ':' then
      match _h : takeName rest with
      | some (name, after) =>
        (match pictureOf name with
          | some picture => picture
          | none => ':' :: name ++ [':']) ++ replaceNames after
      | none => c :: replaceNames rest
    else c :: replaceNames rest
termination_by s => s.length
decreasing_by
  all_goals simp_wf
  · have := takeName_length (by assumption)
    omega

/-- Control characters that are not shown. -/
def isHidden (c : Char) : Bool := [7, 8, 11, 12, 13].contains c.toNat

/-- A text as it is shown. -/
def shownText (s : List Char) : List Char := (replaceNames s).filter fun c => !isHidden c

end FieldCheck.Display
