import FieldCheck.Proofs.Portable
import FieldCheck.Proofs.Sizes

/-!
# Integers and their texts

The rules for sizes do not tell an integer from its text, be it the value or a bound.

* `blankedText` — the text of an integer between blanks, and `number?_blankedText`, what it is read as.
* `sizeOf_text`, `measure_text` — a text that is read as an integer has the size of that integer.
* `modePlace`, `standardAnswer?_congr` — the bounds and the size are all that a rule for sizes looks at.
* `MeasuredAlike` — an integer and its text are measured alike, as value and as bound.

Principal result: `integer_text_measured_alike`.
-/

set_option autoImplicit false

namespace FieldCheck

open Text

/-- The text of an integer between blanks. -/
def blankedText (front : List Char) (n : Int) (back : List Char) : Value :=
  .text (String.ofList (front ++ integerText n ++ back))

section Reading

variable {front back : List Char} {n : Int}

/-- The reader of integers trims, and what is left is the text that was written. -/
theorem number?_blankedText (hfront : ∀ c ∈ front, isBlank c = true)
    (hback : ∀ c ∈ back, isBlank c = true)
    (hdigits : (Nat.toDigits 10 n.natAbs).length ≤ digitLimit) :
    (blankedText front n back).number? = some (.int n) := by
  have htrim : trim (front ++ integerText n ++ back) = trim (integerText n) := by
    rw [trim_append_blank hback, trim_append_of_blank hfront]
  have hread : readInteger (front ++ integerText n ++ back) = some n := by
    have hplain := readInteger_integerText hdigits
    simp only [readInteger, htrim] at hplain ⊢
    exact hplain
  simp only [blankedText, Value.number?, String.toList_ofList, Number.ofText?, hread]

theorem blankedText_nil : blankedText [] n [] = .text (Value.int n).textForm := by
  rw [blankedText, List.nil_append, List.append_nil]
  rfl

end Reading

namespace Rules

/-! ## Sizes -/

section Sizes

variable {s : String} {n : Int} {mode : Value}

theorem SizeMode.ofValue?_eq_length_iff : SizeMode.ofValue? mode = some .length ↔ mode = .text "length" := by
  constructor
  · intro h
    unfold SizeMode.ofValue? at h
    split at h
    · cases h
    · split_ifs at h with hempty hlength hvalue
      · cases h
      · rw [hlength]
      · cases h
    · cases h
  · rintro rfl
    rfl

/-- A text that is read as an integer has the size of that integer, unless lengths are compared. -/
theorem sizeOf_text (hread : (Value.text s).number? = some (.int n)) {mode : SizeMode}
    (hlength : mode = .length → s = (Value.int n).textForm) :
    sizeOf mode (.text s) = sizeOf mode (.int n) := by
  cases mode with
  | suited =>
    show some ((Value.text s).number?.getD _) = some (.int n)
    rw [hread, Option.getD_some]
  | value =>
    show (Value.text s).number? = some (.int n)
    exact hread
  | length =>
    rw [hlength rfl]
    rfl

theorem measure_text (hread : (Value.text s).number? = some (.int n))
    (hlength : mode = .text "length" → s = (Value.int n).textForm) (c : Context) :
    measure (.text s) mode c = measure (.int n) mode c := by
  unfold measure
  cases hmode : SizeMode.ofValue? mode with
  | none => rfl
  | some m =>
    have hsize : sizeOf m (.text s) = sizeOf m (.int n) := by
      apply sizeOf_text hread
      rintro rfl
      exact hlength (SizeMode.ofValue?_eq_length_iff.mp hmode)
    simp only [hsize]

end Sizes

/-! ## Rules -/

/-- The mode stands behind the bounds. -/
def modePlace (rule : String) : Nat := if rule = "between" then 2 else 1

section Answers

variable {v w : Value} {args backs : List Value} {rule : String} {c : Context}

theorem bound_getD_congr (h : args[0]?.map (bound rule · c) = backs[0]?.map (bound rule · c))
    (limit : Value) :
    bound rule (args[0]?.getD limit) c = bound rule (backs[0]?.getD limit) c := by
  cases ha : args[0]? with
  | none =>
    cases hb : backs[0]? with
    | none => rfl
    | some b => simp [ha, hb] at h
  | some a =>
    cases hb : backs[0]? with
    | none => simp [ha, hb] at h
    | some b =>
      rw [ha, hb, Option.map_some, Option.map_some, Option.some.injEq] at h
      exact h

/-- A rule for sizes looks at its bounds and at the size, and at nothing else. -/
theorem standardAnswer?_congr (hrule : rule ∈ sizeRules) (hcount : args.length = backs.length)
    (hbounds : ∀ i < modePlace rule,
      args[i]?.map (bound rule · c) = backs[i]?.map (bound rule · c))
    (hsize : measure v (args[modePlace rule]?.getD .absent) c =
      measure w (backs[modePlace rule]?.getD .absent) c) :
    standardAnswer? rule v args c = standardAnswer? rule w backs c := by
  simp only [sizeRules, List.mem_cons, List.not_mem_nil, or_false] at hrule
  rcases hrule with rfl | rfl | rfl
  · have hmode : measure v (args[1]?.getD .absent) c = measure w (backs[1]?.getD .absent) c := hsize
    rw [standardAnswer?_min_args, standardAnswer?_min_args,
      bound_getD_congr (hbounds 0 (by decide)), hmode]
  · have hmode : measure v (args[1]?.getD .absent) c = measure w (backs[1]?.getD .absent) c := hsize
    rw [standardAnswer?_max_args, standardAnswer?_max_args,
      bound_getD_congr (hbounds 0 (by decide)), hmode]
  · by_cases hfew : args.length < 2
    · rw [standardAnswer?_between_few v args c hfew,
        standardAnswer?_between_few w backs c (hcount ▸ hfew)]
    · have hlow : 0 < args.length := by omega
      have hhigh : 1 < args.length := by omega
      have hlow' : 0 < backs.length := by omega
      have hhigh' : 1 < backs.length := by omega
      have hlo : bound "between" args[0] c = bound "between" backs[0] c := by
        simpa [hlow, hlow'] using hbounds 0 (by decide)
      have hhi : bound "between" args[1] c = bound "between" backs[1] c := by
        simpa [hhigh, hhigh'] using hbounds 1 (by decide)
      have hmode : measure v (args[2]?.getD .absent) c = measure w (backs[2]?.getD .absent) c := hsize
      rw [standardAnswer?_between_args v args c (List.getElem?_eq_getElem hlow)
          (List.getElem?_eq_getElem hhigh),
        standardAnswer?_between_args w backs c (List.getElem?_eq_getElem hlow')
          (List.getElem?_eq_getElem hhigh'), hlo, hhi, hmode]

/-- What is read as the same number is the same bound. -/
theorem standardAnswer?_set {a b : Value} {m : Number} (hrule : rule ∈ sizeRules)
    (ha : a.number? = some m) (hb : b.number? = some m) {i : Nat} (hi : i < modePlace rule)
    (c : Context) :
    standardAnswer? rule v (args.set i a) c = standardAnswer? rule v (args.set i b) c := by
  apply standardAnswer?_congr hrule
  · rw [List.length_set, List.length_set]
  · intro j _
    rw [List.getElem?_set, List.getElem?_set]
    split_ifs
    · rw [Option.map_some, Option.map_some, bound_eq_ok ha, bound_eq_ok hb]
    · rfl
    · rfl
  · rw [List.getElem?_set_ne (Nat.ne_of_lt hi), List.getElem?_set_ne (Nat.ne_of_lt hi)]

end Answers

/-! ## An integer and its text -/

/-- An integer and its text, bare or between blanks, are the same to the rules for sizes.  Only lengths
tell whether there are blanks. -/
structure MeasuredAlike (n : Int) (front back : List Char) : Prop where
  /-- The text is read as the integer. -/
  number : (Value.text (Value.int n).textForm).number? = some (.int n)
  blanked_number : (blankedText front n back).number? = some (.int n)
  /-- They have the same size, whatever the mode is, also one that is unknown. -/
  measured : ∀ mode c, measure (.text (Value.int n).textForm) mode c = measure (.int n) mode c
  blanked_measured : ∀ mode ≠ .text "length", ∀ c,
    measure (blankedText front n back) mode c = measure (.int n) mode c
  /-- They may be submitted for each other. -/
  submitted : ∀ rule ∈ sizeRules, ∀ args c,
    standardAnswer? rule (.text (Value.int n).textForm) args c = standardAnswer? rule (.int n) args c
  blanked_submitted : ∀ rule ∈ sizeRules, ∀ (args : List Value) c,
    args[modePlace rule]? ≠ some (.text "length") →
    standardAnswer? rule (blankedText front n back) args c = standardAnswer? rule (.int n) args c
  /-- They may stand for each other as a bound, in every place of a bound. -/
  bound : ∀ rule ∈ sizeRules, ∀ i < modePlace rule, ∀ v (args : List Value) c,
    standardAnswer? rule v (args.set i (.text (Value.int n).textForm)) c =
      standardAnswer? rule v (args.set i (.int n)) c
  blanked_bound : ∀ rule ∈ sizeRules, ∀ i < modePlace rule, ∀ v (args : List Value) c,
    standardAnswer? rule v (args.set i (blankedText front n back)) c =
      standardAnswer? rule v (args.set i (.int n)) c

/-- **An integer and its text are measured alike**, by every rule for sizes and in every mode, unless
the integer has more digits than are read. -/
theorem integer_text_measured_alike {n : Int} {front back : List Char}
    (hdigits : (Nat.toDigits 10 n.natAbs).length ≤ digitLimit)
    (hfront : ∀ c ∈ front, isBlank c = true) (hback : ∀ c ∈ back, isBlank c = true) :
    MeasuredAlike n front back := by
  have hplain : (Value.text (Value.int n).textForm).number? = some (.int n) := by
    rw [← blankedText_nil]
    exact number?_blankedText nofun nofun hdigits
  have hblanked := number?_blankedText hfront hback hdigits
  have hmeasured : ∀ mode c,
      measure (.text (Value.int n).textForm) mode c = measure (.int n) mode c :=
    fun mode => measure_text hplain fun _ => rfl
  have hmeasured' : ∀ mode ≠ .text "length", ∀ c,
      measure (blankedText front n back) mode c = measure (.int n) mode c :=
    fun mode hmode => measure_text hblanked fun h => absurd h hmode
  refine ⟨hplain, hblanked, hmeasured, hmeasured', ?_, ?_, ?_, ?_⟩
  · intro rule hrule args c
    exact standardAnswer?_congr hrule rfl (fun _ _ => rfl) (hmeasured _ c)
  · intro rule hrule args c hmode
    refine standardAnswer?_congr hrule rfl (fun _ _ => rfl) (hmeasured' _ ?_ c)
    cases harg : args[modePlace rule]? with
    | none => simp
    | some a => simpa [harg] using hmode
  · intro rule hrule i hi v args c
    exact standardAnswer?_set hrule hplain rfl hi c
  · intro rule hrule i hi v args c
    exact standardAnswer?_set hrule hblanked rfl hi c

/-- A negative integer that is beyond the exact range of binary numbers. -/
theorem integer_text_measured_alike_wide :
    (Nat.toDigits 10 (-9007199254740993 : Int).natAbs).length ≤ digitLimit ∧
      (∀ c ∈ [' ', '\t'], isBlank c = true) ∧ (∀ c ∈ ['\n'], isBlank c = true) ∧
      MeasuredAlike (-9007199254740993) [' ', '\t'] ['\n'] := by
  have hdigits : (Nat.toDigits 10 (-9007199254740993 : Int).natAbs).length ≤ digitLimit := by decide
  have hfront : ∀ c ∈ [' ', '\t'], isBlank c = true := List.all_eq_true.mp (by decide)
  have hback : ∀ c ∈ ['\n'], isBlank c = true := List.all_eq_true.mp (by decide)
  exact ⟨hdigits, hfront, hback, integer_text_measured_alike hdigits hfront hback⟩

end Rules

end FieldCheck
