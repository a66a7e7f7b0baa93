import FieldCheck.Proofs.Registries
import FieldCheck.Spec.Basic

/-!
# Names that are registered, and names that can be written

A specification trims what it reads as a name, and a registry does not.  A name that is registered with a
line feed at its end is therefore out of reach.

* `isNameLine_iff` — what is registered is a name, or a name with a line feed behind it.
* `isName_snakeCase`, `snakeCase_snakeCase` — a name stays a name in snake case, and snake case done twice
  is snake case done once.
* `ofText_of_trim_eq` — a text that trims to a name is read as the one rule of that name.
* `Registry.WellNamed` — the invariant: every name of a registry has passed the check.
* `Registry.Writable` — a name that, alone, is a specification of the rule that it is registered for.

Principal results: `registered_writable_iff`, and `registered_not_writable` on a name that is out of reach.
-/

set_option autoImplicit false

namespace FieldCheck

open Text

/-! ## Names -/

section Names

variable {c : Char} {s : List Char}

theorem isNameLine_iff : isNameLine s = true ↔
    isName s = true ∨ ∃ a, isName a = true ∧ s = a ++ ['\n'] := by
  unfold isNameLine
  rw [Bool.or_eq_true, Bool.and_eq_true, beq_iff_eq]
  constructor
  · rintro (h | ⟨hlast, h⟩)
    · exact Or.inl h
    · refine Or.inr ⟨s.dropLast, h, ?_⟩
      rw [List.dropLast_append_getLast? '\n' hlast]
  · rintro (h | ⟨a, h, rfl⟩)
    · exact Or.inl h
    · exact Or.inr ⟨by simp, by simpa using h⟩

theorem not_isName_lineFeed (a : List Char) : isName (a ++ ['\n']) = false := by
  cases h : isName (a ++ ['\n']) with
  | false => rfl
  | true =>
    have hblank := (isName_char h (List.mem_append_right a List.mem_cons_self)).1
    exact absurd hblank (by decide)

/-- The characters of names are of ASCII, where the lower case is that of one character. -/
theorem toLower_of_continuesName (h : continuesName c = true) :
    c.toNat < 128 ∧ continuesName c.toLower = true ∧
      (startsName c = true → startsName c.toLower = true) := by
  have hall : ∀ n < 128, continuesName (Char.ofNat n) = true →
      continuesName (Char.ofNat n).toLower = true ∧
        (startsName (Char.ofNat n) = true → startsName (Char.ofNat n).toLower = true) := by
    decide
  have hlt : c.toNat < 128 := Nat.lt_trans (toNat_of_continuesName h) (by decide)
  have hkept := hall c.toNat hlt
  rw [Char.ofNat_toNat] at hkept
  exact ⟨hlt, hkept h⟩

theorem lowerFrom_of_ascii (h : ∀ c ∈ s, c.toNat < 128) (before : List Char) :
    lowerFrom before s = s.map Char.toLower := by
  induction s generalizing before with
  | nil => rfl
  | cons c rest ih =>
    obtain ⟨hc, hrest⟩ := List.forall_mem_cons.mp h
    rw [lowerFrom, if_pos hc, ih hrest, List.map_cons, List.singleton_append]

theorem mem_of_mem_separateWords {inWord : Bool} (h : c ∈ separateWords inWord s) :
    c = '_' ∨ c ∈ s := by
  induction s generalizing inWord with
  | nil => cases h
  | cons d rest ih =>
    rw [separateWords, List.mem_append] at h
    rcases h with h | h
    · split at h
      · rcases List.mem_cons.mp h with rfl | h
        · exact Or.inl rfl
        · exact Or.inr (List.mem_singleton.mp h ▸ List.mem_cons_self)
      · exact Or.inr (List.mem_singleton.mp h ▸ List.mem_cons_self)
    · rcases ih h with rfl | h
      · exact Or.inl rfl
      · exact Or.inr (List.mem_cons_of_mem _ h)

/-- The characters between the words of a name are low lines, so that the whole is of ASCII. -/
theorem continuesName_of_mem_separateWords (h : isName s = true) {inWord : Bool}
    (hc : c ∈ separateWords inWord s) : continuesName c = true := by
  rcases mem_of_mem_separateWords hc with rfl | hc
  · decide
  · cases s with
    | nil => cases h
    | cons first rest =>
      rw [isName, Bool.and_eq_true, List.all_eq_true] at h
      rcases List.mem_cons.mp hc with rfl | hc
      · rw [continuesName, h.1, Bool.true_or]
      · exact h.2 c hc

/-- In a name the lower case is that of each character. -/
theorem snakeCase_of_isName (h : isName s = true) :
    snakeCase s = (separateWords false s).map Char.toLower :=
  lowerFrom_of_ascii
    (fun _ hc => (toLower_of_continuesName (continuesName_of_mem_separateWords h hc)).1) []

/-- A name stays a name in snake case: low lines come in, and letters of ASCII change their case. -/
theorem isName_snakeCase (h : isName s = true) : isName (snakeCase s) = true := by
  rw [snakeCase_of_isName h]
  cases s with
  | nil => cases h
  | cons c rest =>
    have hstarts : startsName c = true := by
      rw [isName, Bool.and_eq_true] at h
      exact h.1
    have hfirst : continuesName c = true := by rw [continuesName, hstarts, Bool.true_or]
    have hwords : separateWords false (c :: rest) = c :: separateWords (opensWord c) rest := rfl
    rw [hwords, List.map_cons, isName, Bool.and_eq_true, List.all_eq_true]
    refine ⟨(toLower_of_continuesName hfirst).2.2 hstarts, ?_⟩
    intro d hd
    obtain ⟨e, he, rfl⟩ := List.mem_map.mp hd
    have hcontinues := continuesName_of_mem_separateWords h (hwords ▸ List.mem_cons_of_mem c he)
    exact (toLower_of_continuesName hcontinues).2.1

/-- Without capitals there is nothing to put a low line in front of. -/
theorem separateWords_of_lower (h : ∀ c ∈ s, c.isUpper = false) (inWord : Bool) :
    separateWords inWord s = s := by
  induction s generalizing inWord with
  | nil => rfl
  | cons c rest ih =>
    obtain ⟨hc, hrest⟩ := List.forall_mem_cons.mp h
    rw [separateWords, hc, Bool.and_false, if_neg Bool.false_ne_true, ih hrest, List.singleton_append]

/-- The lower case of a character of ASCII is no capital, and is its own lower case. -/
theorem toLower_settled (h : c.toNat < 128) :
    c.toLower.isUpper = false ∧ c.toLower.toLower = c.toLower := by
  have hall : ∀ n < 128, (Char.ofNat n).toLower.isUpper = false ∧
      (Char.ofNat n).toLower.toLower = (Char.ofNat n).toLower := by decide
  have hsettled := hall c.toNat h
  rwa [Char.ofNat_toNat] at hsettled

/-- What is in snake case stays as it is there. -/
theorem snakeCase_snakeCase (h : isName s = true) : snakeCase (snakeCase s) = snakeCase s := by
  have hsettled : ∀ c ∈ snakeCase s, c.isUpper = false ∧ c.toLower = c := by
    rw [snakeCase_of_isName h]
    intro c hc
    obtain ⟨d, hd, rfl⟩ := List.mem_map.mp hc
    exact toLower_settled (toLower_of_continuesName (continuesName_of_mem_separateWords h hd)).1
  rw [snakeCase_of_isName (isName_snakeCase h), separateWords_of_lower fun c hc => (hsettled c hc).1]
  rw [List.map_congr_left (g := id) fun c hc => (hsettled c hc).2, List.map_id]

theorem snakeString_snakeString {name : String} (h : isName name.toList = true) :
    snakeString (snakeString name) = snakeString name := by
  rw [snakeString, snakeString, String.toList_ofList, snakeCase_snakeCase h]

end Names

/-! ## Names as specifications -/

/-- A text that trims to a name is read as the one rule of that name, without arguments. -/
theorem ofText_of_trim_eq {text name : String} (hname : isName name.toList = true)
    (htrim : trim text.toList = name.toList) :
    Spec.ofText text = .ok { rules := [{ name }], source := some text } := by
  have hread : Rule.read name.toList = .ok { name } := by
    have hplain : ∀ t ∈ ([] : List (List Char)), isPlainArgument t = true := nofun
    show Rule.read (ruleForm name false []) = .ok { name }
    rw [Rule.read_ruleForm hname hplain]
    rfl
  have hne : name.toList.isEmpty = false := by simpa using (trimmed_of_isName hname).ne_nil
  have hbar : '|' ∉ name.toList := fun h => (isName_char hname h).2.2.2 rfl
  simp only [Spec.ofText, htrim, hne, pieces_of_not_mem hbar, readSegments, hread]
  rfl

namespace Registry

/-! ## The invariant -/

/-- Every name has passed the check of names. -/
def WellNamed (r : Registry) : Prop := ∀ name ∈ r.names, isNameLine name.toList = true

section WellNamed

variable {r : Registry} {e : Entry}

theorem WellNamed.put (h : r.WellNamed) (he : isNameLine e.name.toList = true) :
    (r.put e).WellNamed := by
  intro name hname
  rw [names_put] at hname
  split at hname
  · exact h name hname
  · rcases List.mem_append.mp hname with hname | hname
    · exact h name hname
    · exact List.mem_singleton.mp hname ▸ he

theorem WellNamed.unregister (h : r.WellNamed) (name : String) : (r.unregister name).WellNamed := by
  intro other hother
  rw [names_unregister] at hother
  exact h other (List.mem_of_mem_filter hother)

theorem WellNamed.register {r' : Registry} {g : Registration} (h : r.WellNamed)
    (hregister : r.register g = .ok (e, r')) : r'.WellNamed := by
  obtain ⟨hmakes, rfl⟩ := register_eq_ok_iff.mp hregister
  exact h.put hmakes.valid

theorem WellNamed.registerAll (h : r.WellNamed) (gs : List Registration) :
    (r.registerAll gs).1.WellNamed := by
  induction gs generalizing r with
  | nil => exact h
  | cons g rest ih =>
    rw [Registry.registerAll]
    cases hregister : r.register g with
    | error fault => exact h
    | ok made => exact ih (h.register hregister)

/-- Every operation keeps the invariant. -/
theorem WellNamed.perform (h : r.WellNamed) (o : Operation) : (r.perform o).1.WellNamed := by
  cases o with
  | register g =>
    rw [Registry.perform]
    cases hregister : r.register g with
    | error fault => exact h
    | ok made => exact h.register hregister
  | unregister name => exact h.unregister name
  | lookup name =>
    rw [Registry.perform]
    split
    · exact h
    · exact h
  | get name => exact h
  | has name => exact h
  | addStandard override =>
    have hall := h.registerAll (standardRules.map (StandardRule.registration override))
    rw [Registry.perform]
    split
    · rename_i r' hdone
      rw [addStandard] at hdone
      rwa [hdone] at hall
    · rename_i r' fault hfault
      rw [addStandard] at hfault
      rwa [hfault] at hall

theorem wellNamed_run (moves : List Move) : ∀ k ∈ run moves, k.registry.WellNamed :=
  Chronicle.forall_run nofun (fun _ o h => WellNamed.perform h o) moves

end WellNamed

/-! ## Reach -/

/-- The name alone is a specification of one rule, which has that name and no arguments and means the
entry. -/
def Writable (r : Registry) (name : String) (e : Entry) : Prop :=
  ∃ rule : Rule Value, Spec.ofText name = .ok { rules := [rule], source := some name } ∧
    rule.name = name ∧ rule.args = [] ∧ r.lookup rule.name = some e

section Reach

variable {r : Registry} {e : Entry} {name : String}

theorem writable_of_isName (hname : isName name.toList = true) (h : r.find? name = some e) :
    r.Writable name e := by
  have hread := ofText_of_trim_eq hname (trimmed_of_isName hname).trim_eq
  exact ⟨_, hread, rfl, rfl, lookup_eq_some_iff.mpr (Or.inl h)⟩

/-- A name means entries of names only. -/
theorem isName_of_lookup_isName (hname : isName name.toList = true) (h : r.lookup name = some e) :
    isName e.name.toList = true := by
  rcases lookup_eq_some_iff.mp h with hfind | ⟨-, hfind⟩
  · rwa [name_of_find? hfind]
  · rw [name_of_find? hfind, snakeString, String.toList_ofList]
    exact isName_snakeCase hname

/-- The registered name, and the name in front of its line feed. -/
structure OutOfReach (r : Registry) (name shorter : String) (e : Entry) : Prop where
  written : name.toList = shorter.toList ++ ['\n']
  valid : isName shorter.toList = true
  /-- What is read from the registered name is the shorter one. -/
  read : Spec.ofText name = .ok { rules := [{ name := shorter }], source := some name }
  /-- The shorter name does not mean the entry. -/
  missed : r.lookup shorter ≠ some e

theorem outOfReach_of_lineFeed {a : List Char} (ha : isName a = true)
    (hname : name.toList = a ++ ['\n']) (h : r.find? name = some e) :
    r.OutOfReach name (String.ofList a) e := by
  have ha' : isName (String.ofList a).toList = true := by rwa [String.toList_ofList]
  have htrim : trim name.toList = (String.ofList a).toList := by
    rw [hname, String.toList_ofList, trim_concat_blank (by decide), (trimmed_of_isName ha).trim_eq]
  refine ⟨by rw [hname, String.toList_ofList], ha', ofText_of_trim_eq ha' htrim, ?_⟩
  intro hlookup
  have hfound := isName_of_lookup_isName ha' hlookup
  rw [name_of_find? h, hname, not_isName_lineFeed] at hfound
  cases hfound

/-- **A registered name can be written unless it ends with a line feed**: then it is read as the name in
front of the line feed, which does not mean the same rule. -/
theorem registered_writable_iff {moves : List Move} {k : Chronicle} (hk : k ∈ run moves)
    (h : k.registry.find? name = some e) :
    (k.registry.Writable name e ↔ isName name.toList = true) ∧
      (isName name.toList = true ∨
        ∃ shorter, k.registry.OutOfReach name shorter e) := by
  have hmem : name ∈ k.registry.names := find?_isSome_iff.mp (by rw [h]; rfl)
  rcases isNameLine_iff.mp (wellNamed_run moves k hk name hmem) with hname | ⟨a, ha, hname⟩
  · exact ⟨⟨fun _ => hname, fun _ => writable_of_isName hname h⟩, Or.inl hname⟩
  · have hout := outOfReach_of_lineFeed ha hname h
    refine ⟨⟨?_, ?_⟩, Or.inr ⟨_, hout⟩⟩
    · rintro ⟨rule, hread, hrule, -, -⟩
      rw [hout.read] at hread
      cases hread
      rw [← hrule]
      exact hout.valid
    · intro hother
      rw [hname, not_isName_lineFeed] at hother
      cases hother

/-- One rule, whose name has a line feed behind it. -/
def lineFeedMoves : List Move := [.on 0 (.register (constantRule "even\n" true))]

/-- What is written is read as the name without the line feed, and that name means nothing. -/
theorem registered_writable_iff_lineFeed :
    ∃ k, k ∈ run lineFeedMoves ∧ k.registry.find? "even\n" = some (constantEntry "even\n" true) ∧
      ¬k.registry.Writable "even\n" (constantEntry "even\n" true) ∧
      k.registry.OutOfReach "even\n" "even" (constantEntry "even\n" true) := by
  obtain ⟨k, hk⟩ : ∃ k, (run lineFeedMoves)[0]? = some k := ⟨_, rfl⟩
  have hmem : k ∈ run lineFeedMoves := List.mem_of_getElem? hk
  have hfind : k.registry.find? "even\n" = some (constantEntry "even\n" true) := by
    rw [← Option.some.inj hk]
    rfl
  obtain ⟨hwritable, hname | ⟨shorter, hout⟩⟩ := registered_writable_iff hmem hfind
  · exact absurd hname (by decide)
  · have hshorter : shorter = "even" := by
      have hwritten : "even".toList ++ ['\n'] = shorter.toList ++ ['\n'] := hout.written
      exact (String.toList_inj.mp (List.append_cancel_right hwritten)).symm
    refine ⟨k, hmem, hfind, ?_, hshorter ▸ hout⟩
    rw [hwritable]
    decide

/-- A name with a line feed behind it is registered, and is out of reach. -/
theorem registered_not_writable : ¬∀ (moves : List Move) (k : Chronicle) (name : String) (e : Entry),
    k ∈ run moves → k.registry.find? name = some e → k.registry.Writable name e := by
  intro hall
  have hwritable := hall lineFeedMoves _ "even\n" _ (List.mem_of_getElem? (i := 0) rfl) rfl
  obtain ⟨rule, hread, hrule, -, -⟩ := hwritable
  have hname : isName "even".toList = true := by decide
  have htrim : trim "even\n".toList = "even".toList := by decide
  rw [ofText_of_trim_eq hname htrim] at hread
  cases hread
  exact absurd hrule (by decide)

end Reach

end Registry

end FieldCheck
