import FieldCheck.Proofs.LetterCase
import FieldCheck.Rule.Files
import Mathlib.Data.List.Forall2

/-!
# The types of files, one file at a time

A list of files passes exactly if each of its files does, and a file passes exactly if some pattern allows its
type.  How the patterns are written down, and in which order, does not matter.

* `holdsAny_congr`, `passes_all_iff` — what a search with crashes depends on, and when every member of a
  list passes.
* `Allows`, `allows_iff` — a pattern names one type or all types of a kind.
* `passes_mime_iff` — the rule on the files of a value, file by file.
* `mime_congr` — two runs of the rule agree if their files have the same types and their patterns allow
  the same types.
* `SamePatterns` — the same patterns in another order, repeated, in other letter case and with other
  blanks around them.
* `Redeclared` — the same file, with the type that it declares in other letter case.

Principal result: `mime_file_by_file`.
-/

set_option autoImplicit false

namespace FieldCheck

/-! ## Searches that may crash -/

section Searching

variable {α : Type} {test other : α → Except Crash Bool} {xs ys : List α}

/-- A search depends on what the tests say of the members, in order. -/
theorem holdsAny_congr (h : List.Forall₂ (fun x y => test x = other y) xs ys) :
    holdsAny test xs = holdsAny other ys := by
  induction h with
  | nil => rfl
  | cons hxy _ ih => rw [holdsAny, holdsAny, hxy, ih]

/-- No member fails a test exactly if every member passes it; one that crashes does not pass. -/
theorem passes_all_iff :
    (holdsAny (fun x => (test x).map not) xs).map not = .ok true ↔ ∀ x ∈ xs, test x = .ok true := by
  induction xs with
  | nil => exact iff_of_true rfl nofun
  | cons x rest ih =>
    rw [List.forall_mem_cons, ← ih, holdsAny]
    cases test x with
    | error crash => simp [Except.map]
    | ok passed =>
      cases passed with
      | false => simp [Except.map]
      | true => simp [Except.map]

/-- A search in which no test crashes comes to an answer. -/
theorem holdsAny_answers (h : ∀ x ∈ xs, ∃ b, test x = .ok b) : ∃ b, holdsAny test xs = .ok b := by
  induction xs with
  | nil => exact ⟨false, rfl⟩
  | cons x rest ih =>
    obtain ⟨⟨b, hb⟩, hrest⟩ := List.forall_mem_cons.mp h
    rw [holdsAny, hb]
    cases b with
    | false => exact ih hrest
    | true => exact ⟨true, rfl⟩

end Searching

namespace Rules

open Text

variable {f g v : Value} {ps qs : List String} {c : Context}

/-! ## Patterns -/

/-- A pattern allows the type that it names; with a star behind a slash, every type that begins with what
is in front of the star. -/
def Allows (pattern type : List Char) : Prop :=
  type = pattern ∨ ∃ kind, pattern = kind ++ ['/', '*'] ∧ kind ++ ['/'] <+: type

theorem allows_iff {pattern type : List Char} : allows pattern type = true ↔ Allows pattern type := by
  have hstar : "/*".toList = ['/', '*'] := rfl
  rw [allows, Bool.or_eq_true, Bool.and_eq_true, beq_iff_eq, hstar, or_comm, Allows]
  refine or_congr_right ?_
  rw [List.isSuffixOf_iff_suffix, List.isPrefixOf_iff_prefix]
  constructor
  · rintro ⟨⟨kind, rfl⟩, hkind⟩
    refine ⟨kind, rfl, ?_⟩
    rwa [List.dropLast_append_cons] at hkind
  · rintro ⟨kind, rfl, hkind⟩
    refine ⟨⟨kind, rfl⟩, ?_⟩
    rwa [List.dropLast_append_cons]

theorem patternTexts_text (c : Context) (ps : List String) :
    patternTexts c (ps.map Value.text) = .ok (ps.map fun p => lower (trim p.toList)) := by
  induction ps with
  | nil => rfl
  | cons p rest ih =>
    rw [List.map_cons, patternTexts, ih]
    rfl

/-! ## One run of the rule -/

theorem mime_eq (hps : ps ≠ []) (v : Value) (c : Context) :
    mime v (ps.map Value.text) c =
      (holdsAny (fun file => (allowedFile (ps.map fun p => lower (trim p.toList)) file).map not)
        (filesOf v)).map not := by
  obtain ⟨p, rest, rfl⟩ := List.exists_cons_of_ne_nil hps
  rw [mime, patternTexts_text, List.map_cons]

theorem allowedFile_eq_true_iff {patterns : List (List Char)} :
    allowedFile patterns f = .ok true ↔
      ∃ type, mediaType f = .ok (some type) ∧ ∃ p ∈ patterns, Allows p type.toList := by
  unfold allowedFile
  cases mediaType f with
  | error crash => simp
  | ok found =>
    cases found with
    | none => simp
    | some type => simp [allows_iff]

/-- The rule passes exactly if every file has a type that some pattern allows. -/
theorem passes_mime_iff (hps : ps ≠ []) :
    mime v (ps.map Value.text) c = .ok true ↔ ∀ f ∈ filesOf v,
      ∃ type, mediaType f = .ok (some type) ∧
        ∃ p ∈ ps, Allows (lower (trim p.toList)) type.toList := by
  rw [mime_eq hps, passes_all_iff]
  refine forall₂_congr fun f _ => ?_
  rw [allowedFile_eq_true_iff]
  simp only [List.mem_map, exists_exists_and_eq_and]

theorem answers_mime (h : ∀ f ∈ filesOf v, ∃ found, mediaType f = .ok found) :
    ∃ b, mime v (ps.map Value.text) c = .ok b := by
  by_cases hps : ps = []
  · exact ⟨false, by rw [hps]; rfl⟩
  · have hall : ∀ f ∈ filesOf v,
        ∃ b, (allowedFile (ps.map fun p => lower (trim p.toList)) f).map not = .ok b := by
      intro f hf
      obtain ⟨found, hfound⟩ := h f hf
      rw [allowedFile, hfound]
      cases found with
      | none => exact ⟨_, rfl⟩
      | some type => exact ⟨_, rfl⟩
    obtain ⟨b, hb⟩ := holdsAny_answers hall
    exact ⟨!b, by rw [mime_eq hps, hb]; rfl⟩

/-! ## Two runs of the rule -/

theorem allowedFile_congr {patterns others : List (List Char)}
    (hpatterns : ∀ p, p ∈ patterns ↔ p ∈ others) (htype : mediaType f = mediaType g) :
    allowedFile patterns f = allowedFile others g := by
  have hany (type : List Char) :
      (patterns.any fun p => allows p type) = others.any fun p => allows p type := by
    rw [Bool.eq_iff_iff, List.any_eq_true, List.any_eq_true]
    exact exists_congr fun p => and_congr_left fun _ => hpatterns p
  unfold allowedFile
  rw [htype]
  simp only [hany]

/-- Runs on files of the same types, with the same patterns after trimming and in lower case, come to the
same. -/
theorem mime_congr {w : Value} (hps : ps ≠ []) (hqs : qs ≠ [])
    (hpatterns : ∀ p, p ∈ ps.map (fun p => lower (trim p.toList)) ↔
      p ∈ qs.map fun q => lower (trim q.toList))
    (hfiles : List.Forall₂ (fun f g => mediaType f = mediaType g) (filesOf v) (filesOf w)) :
    mime v (ps.map Value.text) c = mime w (qs.map Value.text) c := by
  rw [mime_eq hps, mime_eq hqs]
  refine congrArg _ (holdsAny_congr (hfiles.imp fun f g htype => ?_))
  exact congrArg _ (allowedFile_congr hpatterns htype)

/-- The same patterns: each of either list is one of the other, but for the case of ASCII letters and the
blanks around it. -/
structure SamePatterns (ps qs : List String) : Prop where
  there : ∀ p ∈ ps, ∃ q ∈ qs, Respaced p.toList q.toList
  back : ∀ q ∈ qs, ∃ p ∈ ps, Respaced p.toList q.toList

theorem SamePatterns.mem_iff (h : SamePatterns ps qs) (p : List Char) :
    p ∈ ps.map (fun p => lower (trim p.toList)) ↔ p ∈ qs.map fun q => lower (trim q.toList) := by
  rw [List.mem_map, List.mem_map]
  constructor
  · rintro ⟨p, hp, rfl⟩
    obtain ⟨q, hq, hsame⟩ := h.there p hp
    exact ⟨q, hq, (lower_trim_eq_of_respaced hsame).symm⟩
  · rintro ⟨q, hq, rfl⟩
    obtain ⟨p, hp, hsame⟩ := h.back q hq
    exact ⟨p, hp, lower_trim_eq_of_respaced hsame⟩

/-! ## Declared types -/

/-- Entries that are the same, but for the case of ASCII letters in a type that they declare. -/
def RedeclaredEntry (p q : Value × Value) : Prop :=
  q = p ∨ ∃ key ∈ ["type", "mime"], ∃ s t : String, p = (.text key, .text s) ∧
    q = (.text key, .text t) ∧ CaseAlike s.toList t.toList

/-- The same file, but for the case of ASCII letters in the types that it declares. -/
inductive Redeclared : Value → Value → Prop
  | same (f : Value) : Redeclared f f
  | dict {entries others : List (Value × Value)}
      (h : List.Forall₂ RedeclaredEntry entries others) : Redeclared (.dict entries) (.dict others)

/-- What may be declared in the place of something else. -/
inductive SameDeclared : Value → Value → Prop
  | same (v : Value) : SameDeclared v v
  | text {s t : String} (h : CaseAlike s.toList t.toList) : SameDeclared (.text s) (.text t)

theorem SameDeclared.truthy_eq {v w : Value} (h : SameDeclared v w) : w.truthy = v.truthy := by
  cases h with
  | same => rfl
  | @text s t halike =>
    have hlength : t.length = s.length := by
      have hmapped := congrArg List.length halike
      rw [List.length_map, List.length_map] at hmapped
      exact hmapped.symm
    show decide (t.length ≠ 0) = decide (s.length ≠ 0)
    rw [hlength]

theorem SameDeclared.lower_eq {v w : Value} (h : SameDeclared v w) :
    lowerString w.textForm = lowerString v.textForm := by
  cases h with
  | same => rfl
  | @text s t halike =>
    show String.ofList (lower t.toList) = String.ofList (lower s.toList)
    rw [lower_eq_of_caseAlike halike]

section Declared

variable {entries others : List (Value × Value)} {key : String}

theorem textEntry_cons_same (key : String) (v : Value) (rest : List (Value × Value)) :
    textEntry ((.text key, v) :: rest) key = some v := by
  simp [textEntry]

theorem textEntry_cons_other {p : Value × Value} (h : p.1 ≠ .text key)
    (rest : List (Value × Value)) : textEntry (p :: rest) key = textEntry rest key := by
  obtain ⟨k, v⟩ := p
  cases k with
  | text s =>
    have hne : s ≠ key := fun heq => h (by rw [heq])
    simp [textEntry, hne]
  | _ => rfl

/-- Under every key stands what may be declared in the place of what stood there. -/
theorem textEntry_redeclared (h : List.Forall₂ RedeclaredEntry entries others) (key : String) :
    Option.Rel SameDeclared (textEntry entries key) (textEntry others key) := by
  induction h with
  | nil => exact .none
  | @cons p q rest rest' hpq _ ih =>
    by_cases hkey : p.1 = .text key
    · obtain ⟨k, v⟩ := p
      obtain rfl : k = .text key := hkey
      rcases hpq with rfl | ⟨key', -, s, t, hp, rfl, halike⟩
      · rw [textEntry_cons_same, textEntry_cons_same]
        exact .some (.same v)
      · cases hp
        rw [textEntry_cons_same, textEntry_cons_same]
        exact .some (.text halike)
    · have hsame : q.1 = p.1 := by
        rcases hpq with rfl | ⟨key', -, s, t, rfl, rfl, -⟩
        · rfl
        · rfl
      rw [textEntry_cons_other hkey, textEntry_cons_other (hsame ▸ hkey)]
      exact ih

/-- Under the other keys stands what stood there. -/
theorem textEntry_of_redeclared (h : List.Forall₂ RedeclaredEntry entries others)
    (hkey : key ∉ ["type", "mime"]) : textEntry others key = textEntry entries key := by
  induction h with
  | nil => rfl
  | @cons p q rest rest' hpq _ ih =>
    rcases hpq with rfl | ⟨key', hkey', s, t, rfl, rfl, -⟩
    · by_cases hp : q.1 = .text key
      · obtain ⟨k, v⟩ := q
        obtain rfl : k = .text key := hp
        rw [textEntry_cons_same, textEntry_cons_same]
      · rw [textEntry_cons_other hp, textEntry_cons_other hp, ih]
    · have hne : (Value.text key') ≠ .text key := by
        rintro ⟨⟩
        exact hkey hkey'
      rw [textEntry_cons_other hne, textEntry_cons_other hne, ih]

/-- The first value that counts as true may be declared in the place of the first one that did. -/
theorem either_redeclared {a b a' b' : Option Value} (ha : Option.Rel SameDeclared a a')
    (hb : Option.Rel SameDeclared b b') : SameDeclared (either a b) (either a' b') := by
  have hsecond : SameDeclared (b.getD .absent) (b'.getD .absent) := by
    cases hb with
    | none => exact .same _
    | some h => exact h
  cases ha with
  | none => exact hsecond
  | @some v w h =>
    have htruthy : w.truthy = v.truthy := h.truthy_eq
    rw [either, either, htruthy]
    split
    · exact h
    · exact hsecond

theorem declaredType_redeclared (h : Redeclared f g) : SameDeclared (declaredType f) (declaredType g) := by
  cases h with
  | same => exact .same _
  | dict h => exact either_redeclared (textEntry_redeclared h "type") (textEntry_redeclared h "mime")

theorem fileName_redeclared (h : Redeclared f g) : fileName g = fileName f := by
  cases h with
  | same => rfl
  | dict h =>
    rw [fileName, fileName, textEntry_of_redeclared h (by decide),
      textEntry_of_redeclared h (by decide)]

/-- The case of letters in a declared type does not change the type. -/
theorem mediaType_redeclared (h : Redeclared f g) : mediaType f = mediaType g := by
  have hdeclared := declaredType_redeclared h
  unfold mediaType
  dsimp only
  rw [hdeclared.truthy_eq, hdeclared.lower_eq, fileName_redeclared h]

end Declared

/-! ## The laws together -/

/-- The files that stand for themselves: names, paths and dictionaries. -/
inductive IsFile : Value → Prop
  | name (s : String) : IsFile (.text s)
  | path (s : String) : IsFile (.path s)
  | dict (entries : List (Value × Value)) : IsFile (.dict entries)

/-- A file has a name that is a text or a path, or no name, or it needs none as it declares a type. -/
def HasReadableName (f : Value) : Prop :=
  (declaredType f).truthy = true ∨ fileName f = .absent ∨
    ∃ s, fileName f = .text s ∨ fileName f = .path s

theorem exists_mediaType (h : HasReadableName f) : ∃ found, mediaType f = .ok found := by
  unfold mediaType
  by_cases hdeclared : (declaredType f).truthy = true
  · exact ⟨_, by rw [if_pos hdeclared]⟩
  · rw [if_neg hdeclared]
    dsimp only
    split
    · rename_i hname
      rcases h with h | h | ⟨s, h | h⟩
      · exact absurd h hdeclared
      · rw [h] at hname
        cases hname
      · exact ⟨Media.guess s, by rw [h]; rfl⟩
      · exact ⟨Media.guess s, by rw [h]; rfl⟩
    · exact ⟨none, rfl⟩

/-- **The rule on files with given patterns**, in any context. -/
structure FileByFile (ps : List String) (c : Context) : Prop where
  /-- Two lists together pass exactly if each of them does. -/
  append_iff (xs ys : List Value) :
    mime (.list (xs ++ ys)) (ps.map Value.text) c = .ok true ↔
      mime (.list xs) (ps.map Value.text) c = .ok true ∧
        mime (.list ys) (ps.map Value.text) c = .ok true
  /-- A file is what the list of it is. -/
  single {f : Value} : IsFile f →
    mime f (ps.map Value.text) c = mime (.list [f]) (ps.map Value.text) c
  /-- Files pass exactly if each has a type that one of the patterns, trimmed and in lower case,
  allows. -/
  passes_iff (xs : List Value) :
    mime (.list xs) (ps.map Value.text) c = .ok true ↔ ∀ f ∈ xs,
      ∃ type, mediaType f = .ok (some type) ∧
        ∃ p ∈ ps, Allows (lower (trim p.toList)) type.toList
  /-- There is an answer for files with names that can be read. -/
  answers {xs : List Value} : (∀ f ∈ xs, HasReadableName f) →
    ∃ b, mime (.list xs) (ps.map Value.text) c = .ok b
  /-- What passes passes with more patterns, wherever they stand. -/
  more_patterns {qs : List String} : ps ⊆ qs → ∀ v, mime v (ps.map Value.text) c = .ok true →
    mime v (qs.map Value.text) c = .ok true
  /-- Order, repetition, letter case and outer blanks of the patterns do not count. -/
  same_patterns {qs : List String} : SamePatterns ps qs →
    ∀ v, mime v (qs.map Value.text) c = mime v (ps.map Value.text) c
  /-- The letter case of declared types does not count. -/
  redeclared {xs ys : List Value} : List.Forall₂ Redeclared xs ys →
    mime (.list ys) (ps.map Value.text) c = mime (.list xs) (ps.map Value.text) c

/-- **Files are looked at one by one**, and each needs a type that one of the patterns allows. -/
theorem mime_file_by_file (hps : ps ≠ []) (c : Context) : FileByFile ps c where
  append_iff xs ys := by
    rw [passes_mime_iff hps, passes_mime_iff hps, passes_mime_iff hps]
    exact List.forall_mem_append
  single hf := by
    cases hf with
    | name s => rfl
    | path s => rfl
    | dict entries => rfl
  passes_iff xs := passes_mime_iff hps
  answers h := answers_mime fun f hf => exists_mediaType (h f hf)
  more_patterns := by
    intro qs hsub v hpasses
    have hqs : qs ≠ [] := fun hnil => hps (List.subset_nil.mp (hnil ▸ hsub))
    rw [passes_mime_iff hps] at hpasses
    rw [passes_mime_iff hqs]
    intro f hf
    obtain ⟨type, htype, p, hp, hallows⟩ := hpasses f hf
    exact ⟨type, htype, p, hsub hp, hallows⟩
  same_patterns := by
    intro qs hsame v
    have hqs : qs ≠ [] := by
      rintro rfl
      obtain ⟨p, hp⟩ := List.exists_mem_of_ne_nil ps hps
      obtain ⟨q, hq, -⟩ := hsame.there p hp
      cases hq
    exact (mime_congr hps hqs hsame.mem_iff (List.forall₂_same.mpr fun _ _ => rfl)).symm
  redeclared := by
    intro xs ys h
    have hfiles : List.Forall₂ (fun f g => mediaType f = mediaType g) (filesOf (.list xs))
        (filesOf (.list ys)) := h.imp fun _ _ => mediaType_redeclared
    exact (mime_congr hps hps (fun _ => Iff.rfl) hfiles).symm

/-- A picture by its name, and one that declares its type against its name. -/
def pictures : List Value :=
  [.text "photo.JPG", .dict [(.text "name", .text "scan.bin"), (.text "type", .text "Image/PNG")]]

/-- With both patterns a document passes beside the pictures, and without the second one it does not. -/
theorem mime_file_by_file_mixed :
    [" Image/*\t", "application/PDF"] ≠ [] ∧
    FileByFile [" Image/*\t", "application/PDF"] {} ∧
    mime (.list pictures) [.text " Image/*\t", .text "application/PDF"] {} = .ok true ∧
    mime (.list (pictures ++ [.path "in/doc.pdf"])) [.text " Image/*\t", .text "application/PDF"] {} =
      .ok true ∧
    mime (.list (pictures ++ [.path "in/doc.pdf"])) [.text "image/*"] {} = .ok false := by
  have hps : [" Image/*\t", "application/PDF"] ≠ [] := by simp
  have hlaws := mime_file_by_file hps {}
  have hpictures : mime (.list pictures) [.text " Image/*\t", .text "application/PDF"] {} =
      .ok true := by decide +kernel
  have hdocument : mime (.path "in/doc.pdf") [.text " Image/*\t", .text "application/PDF"] {} =
      .ok true := by decide +kernel
  refine ⟨hps, hlaws, hpictures, (hlaws.append_iff _ _).mpr ⟨hpictures, ?_⟩, by decide +kernel⟩
  exact (hlaws.single (.path "in/doc.pdf")).symm.trans hdocument

end Rules

end FieldCheck
