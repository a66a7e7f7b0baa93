import FieldCheck.Proofs.RegisteredNames

/-!
# What snake case does to a name

Low lines come in where words begin, and capitals become small letters; nothing else happens.

* `wordStarts` — the capitals behind a small letter or a digit, counted without the reader's state.
* `length_separateWords`, `filter_separateWords` — one low line for each of them, and no other character.
* `isUpper_snakeCase` — no capital is left.

Principal result: `snakeString_laws`, with the fallback of the registry as the last part.
-/

set_option autoImplicit false

namespace FieldCheck

open Text

variable {s : List Char}

/-! ## Low lines between words -/

/-- The places where a capital directly follows a small letter or a digit. -/
def wordStarts (s : List Char) : Nat :=
  (s.zip s.tail).countP fun p => (p.1.isLower || p.1.isDigit) && p.2.isUpper

/-- Behind a character, one low line goes before each capital that starts a word. -/
theorem length_separateWords_behind (before : Char) (s : List Char) :
    (separateWords (opensWord before) s).length = s.length + wordStarts (before :: s) := by
  induction s generalizing before with
  | nil => rfl
  | cons c rest ih =>
    have hcount : wordStarts (before :: c :: rest) =
        wordStarts (c :: rest) + if opensWord before && c.isUpper then 1 else 0 := by
      rw [wordStarts, List.tail_cons, List.zip_cons_cons, List.countP_cons]
      rfl
    rw [separateWords, List.length_append, ih c, hcount, List.length_cons]
    split
    · rw [List.length_cons, List.length_singleton]
      omega
    · rw [List.length_singleton]
      omega

theorem length_separateWords (s : List Char) :
    (separateWords false s).length = s.length + wordStarts s := by
  cases s with
  | nil => rfl
  | cons c rest =>
    have hfirst : separateWords false (c :: rest) = c :: separateWords (opensWord c) rest := rfl
    rw [hfirst, List.length_cons, length_separateWords_behind, List.length_cons]
    omega

/-- Without low lines the words are the text without low lines. -/
theorem filter_separateWords (inWord : Bool) (s : List Char) :
    (separateWords inWord s).filter (· ≠ '_') = s.filter (· ≠ '_') := by
  induction s generalizing inWord with
  | nil => rfl
  | cons c rest ih =>
    have hhere : (if inWord && c.isUpper then ['_', c] else [c]).filter (· ≠ '_') =
        [c].filter (· ≠ '_') := by
      split
      · rfl
      · rfl
    rw [separateWords, List.filter_append, hhere, ih, ← List.filter_append, List.singleton_append]

/-! ## Lower case -/

/-- The characters of a name in snake case are those of its words in lower case. -/
theorem mem_snakeCase {d : Char} (h : isName s = true) (hd : d ∈ snakeCase s) :
    ∃ c : Char, c.toNat < 128 ∧ d = c.toLower := by
  rw [snakeCase_of_isName h] at hd
  obtain ⟨c, hc, rfl⟩ := List.mem_map.mp hd
  exact ⟨c, (toLower_of_continuesName (continuesName_of_mem_separateWords h hc)).1, rfl⟩

theorem isUpper_snakeCase (h : isName s = true) : ∀ d ∈ snakeCase s, d.isUpper = false := by
  intro d hd
  obtain ⟨c, hc, rfl⟩ := mem_snakeCase h hd
  exact (toLower_settled hc).1

theorem length_snakeCase (h : isName s = true) :
    (snakeCase s).length = s.length + wordStarts s := by
  rw [snakeCase_of_isName h, List.length_map, length_separateWords]

/-- A name in lower case, character by character. -/
theorem lower_of_isName (h : isName s = true) : lower s = s.map Char.toLower := by
  refine lowerFrom_of_ascii (fun c hc => ?_) []
  have hwords := mem_separateWords false hc
  exact (toLower_of_continuesName (continuesName_of_mem_separateWords h hwords)).1

/-- The only character of ASCII that is the low line in lower case is the low line. -/
theorem toLower_ne_lowLine {c : Char} (h : c.toNat < 128) :
    decide (c.toLower ≠ '_') = decide (c ≠ '_') :=
  forall_char_below (fun c => decide (c.toLower ≠ '_') = decide (c ≠ '_')) (by decide) h

/-- Deleting low lines and lower case may change places. -/
theorem filter_map_toLower (h : ∀ c ∈ s, c.toNat < 128) :
    (s.map Char.toLower).filter (· ≠ '_') = (s.filter (· ≠ '_')).map Char.toLower := by
  rw [List.filter_map]
  exact congrArg _ (List.filter_congr fun c hc => toLower_ne_lowLine (h c hc))

/-- Without low lines, snake case is lower case. -/
theorem filter_snakeCase (h : isName s = true) :
    (snakeCase s).filter (· ≠ '_') = (lower s).filter (· ≠ '_') := by
  have hascii : ∀ {c : Char}, c ∈ separateWords false s → c.toNat < 128 := fun hc =>
    (toLower_of_continuesName (continuesName_of_mem_separateWords h hc)).1
  calc (snakeCase s).filter (· ≠ '_')
      = ((separateWords false s).map Char.toLower).filter (· ≠ '_') := by rw [snakeCase_of_isName h]
    _ = ((separateWords false s).filter (· ≠ '_')).map Char.toLower :=
        filter_map_toLower fun _ hc => hascii hc
    _ = (s.filter (· ≠ '_')).map Char.toLower := by rw [filter_separateWords]
    _ = (s.map Char.toLower).filter (· ≠ '_') :=
        (filter_map_toLower fun _ hc => hascii (mem_separateWords false hc)).symm
    _ = (lower s).filter (· ≠ '_') := by rw [lower_of_isName h]

/-! ## The laws together -/

/-- What is looked up in snake case is found under exactly this name, or not at all. -/
theorem Registry.lookup_snakeString_eq_find? {name : String} (h : isName name.toList = true)
    (r : Registry) : r.lookup (snakeString name) = r.find? (snakeString name) := by
  rw [Registry.lookup, snakeString_snakeString h, Option.or_self]

/-- **Snake case puts a low line where a word begins and makes capitals small.**  What comes out is a name
without capitals, which stays as it is; without low lines it is the lower case of the name; there are as
many low lines more as there are capitals behind a small letter or a digit; and a registry finds it
under itself or not at all. -/
theorem snakeString_laws {name : String} (h : isName name.toList = true) :
    isName (snakeString name).toList = true ∧
    (∀ c ∈ (snakeString name).toList, c.isUpper = false) ∧
    snakeString (snakeString name) = snakeString name ∧
    (snakeString name).toList.filter (· ≠ '_') = (lowerString name).toList.filter (· ≠ '_') ∧
    (snakeString name).toList.length = name.toList.length + wordStarts name.toList ∧
    ∀ r : Registry, r.lookup (snakeString name) = r.find? (snakeString name) := by
  refine ⟨?_, ?_, snakeString_snakeString h, ?_, ?_, Registry.lookup_snakeString_eq_find? h⟩
  · rw [snakeString, String.toList_ofList]
    exact isName_snakeCase h
  · rw [snakeString, String.toList_ofList]
    exact isUpper_snakeCase h
  · rw [snakeString, lowerString, String.toList_ofList, String.toList_ofList]
    exact filter_snakeCase h
  · rw [snakeString, String.toList_ofList]
    exact length_snakeCase h

/-- A run of capitals is one word, and a digit ends a word as a small letter does. -/
theorem snakeString_laws_mixed :
    isName "HTTPServer2Go__aB_C9".toList = true ∧
    snakeString "HTTPServer2Go__aB_C9" = "httpserver2_go__a_b_c9" ∧
    wordStarts "HTTPServer2Go__aB_C9".toList = 2 ∧
    (snakeString "HTTPServer2Go__aB_C9").toList.length = 20 + 2 ∧
    snakeString "httpserver2_go__a_b_c9" = "httpserver2_go__a_b_c9" := by
  have hname : isName "HTTPServer2Go__aB_C9".toList = true := by decide
  have hsnake : snakeString "HTTPServer2Go__aB_C9" = "httpserver2_go__a_b_c9" := by decide
  obtain ⟨-, -, hsettled, -, hlength, -⟩ := snakeString_laws hname
  refine ⟨hname, hsnake, by decide, hlength, ?_⟩
  rw [← hsnake]
  exact hsettled

end FieldCheck
