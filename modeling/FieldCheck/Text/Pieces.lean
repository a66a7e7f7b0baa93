/-!
# Texts cut at a separator

* `pieces` — a text cut at every separator; there is always a piece.
* `intercalate_pieces` — the pieces with the separator between them are the text again.
* `not_mem_of_mem_pieces` — no piece holds the separator.
-/

set_option autoImplicit false

namespace FieldCheck.Text

/-- A text cut at every separator. -/
def pieces (separator : Char) : List Char → List (List Char)
  | [] => [[]]
  | c :: rest =>
    if c = separator then [] :: pieces separator rest
    else
      match pieces separator rest with
      | [] => [[c]]
      | piece :: more => (c :: piece) :: more

theorem pieces_ne_nil (separator : Char) (s : List Char) : pieces separator s ≠ [] := by
  cases s with
  | nil => simp [pieces]
  | cons c rest =>
    simp only [pieces]
    split
    · simp
    · split <;> simp

/-- The pieces with the separator between them are the text again. -/
theorem intercalate_pieces (separator : Char) (s : List Char) :
    [separator].intercalate (pieces separator s) = s := by
  induction s with
  | nil => rfl
  | cons c rest ih =>
    have hne := pieces_ne_nil separator rest
    simp only [pieces]
    split
    · next h =>
      cases hp : pieces separator rest with
      | nil => exact absurd hp hne
      | cons p ps =>
        rw [hp] at ih
        rw [List.intercalate_cons_cons, ih, h]
        rfl
    · cases hp : pieces separator rest with
      | nil => exact absurd hp hne
      | cons p ps =>
        rw [hp] at ih
        cases ps with
        | nil => simp_all [List.intercalate]
        | cons q qs => simp_all [List.intercalate_cons_cons]

/-- No piece holds the separator. -/
theorem not_mem_of_mem_pieces {separator : Char} {s piece : List Char}
    (h : piece ∈ pieces separator s) : separator ∉ piece := by
  induction s generalizing piece with
  | nil => simp_all [pieces]
  | cons c rest ih =>
    simp only [pieces] at h
    split at h
    · rcases List.mem_cons.1 h with rfl | h
      · simp
      · exact ih h
    · next hc =>
      split at h
      · next hn => exact absurd hn (pieces_ne_nil separator rest)
      · next first more hp =>
        rcases List.mem_cons.1 h with rfl | h
        · have hf : first ∈ pieces separator rest := by simp [hp]
          simp only [List.mem_cons, not_or]
          exact ⟨fun e => hc e.symm, ih hf⟩
        · exact ih (by simp [hp, h])

end FieldCheck.Text
