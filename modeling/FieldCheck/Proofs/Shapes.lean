import FieldCheck.Proofs.Moments
import Mathlib.Data.List.Forall2

/-!
# What a shape asks for

A shape is cut from left to right, always at the longest token, and a text is of the shape if it can
be cut into pieces, one for each part.

* `shapeTokens`, `LongestToken`, `CutsInto` — the tokens, the one that counts at a place, and a shape
  with its parts.
* `LongestToken.unique`, `cutsInto_iff` — there is one way to cut a shape, and it is `shapeParts`.
* `IsNumber`, `ShapePart.Matches`, `Fits` — the pieces that a part asks for, and a text in such
  pieces.
* `mem_rests_iff` — what is left behind a part is what stands behind such a piece.

Principal results: `cutsInto_iff`, `fits_iff`.
-/

set_option autoImplicit false

namespace FieldCheck

open Text

/-! ## The cut -/

/-- The tokens of shapes, with what they ask for. -/
def shapeTokens : List (List Char × ShapePart) :=
  [(['Y', 'Y', 'Y', 'Y'], .digits 4), (['Y', 'Y'], .digits 2), (['M', 'M'], .paddedMonth),
    (['D', 'D'], .paddedDay), (['M'], .month), (['D'], .day)]

/-- A token starts a shape, and none that does is longer. -/
structure LongestToken (shape token : List Char) (part : ShapePart) : Prop where
  mem : (token, part) ∈ shapeTokens
  starts : token <+: shape
  longest : ∀ other ∈ shapeTokens, other.1 <+: shape → other.1.length ≤ token.length

/-- What is cut off first: the longest token, or one character where no token starts. -/
def CutsFirst (shape : List Char) (part : ShapePart) (behind : List Char) : Prop :=
  (∃ token, LongestToken shape token part ∧ shape = token ++ behind) ∨
    ∃ c, (∀ other ∈ shapeTokens, ¬other.1 <+: shape) ∧ part = .fixed c ∧ shape = c :: behind

/-- A shape, cut from left to right to its end. -/
inductive CutsInto : List Char → List ShapePart → Prop
  | nil : CutsInto [] []
  | cons {shape behind : List Char} {part : ShapePart} {parts : List ShapePart}
      (first : CutsFirst shape part behind) (rest : CutsInto behind parts) :
      CutsInto shape (part :: parts)

section Cut

variable {shape token token' behind behind' : List Char} {part part' : ShapePart}
  {parts : List ShapePart}

theorem part_of_token :
    ∀ one ∈ shapeTokens, ∀ other ∈ shapeTokens, one.1 = other.1 → one = other := by
  decide

/-- Of two tokens that start a shape and are as long as can be, both are one. -/
theorem LongestToken.unique (h : LongestToken shape token part)
    (h' : LongestToken shape token' part') : token = token' ∧ part = part' := by
  have hlength : token.length = token'.length :=
    Nat.le_antisymm (h'.longest _ h.mem h.starts) (h.longest _ h'.mem h'.starts)
  have htoken : token = token' := by
    rw [List.prefix_iff_eq_take.mp h.starts, List.prefix_iff_eq_take.mp h'.starts, hlength]
  exact Prod.mk.inj (part_of_token _ h.mem _ h'.mem htoken)

theorem CutsFirst.unique (h : CutsFirst shape part behind) (h' : CutsFirst shape part' behind') :
    part = part' ∧ behind = behind' := by
  rcases h with ⟨token, h, rfl⟩ | ⟨c, hnone, rfl, rfl⟩
  · rcases h' with ⟨token', h', hshape⟩ | ⟨c, hnone, -, -⟩
    · obtain ⟨rfl, rfl⟩ := h.unique h'
      exact ⟨rfl, List.append_cancel_left hshape⟩
    · exact absurd h.starts (hnone _ h.mem)
  · rcases h' with ⟨token', h', -⟩ | ⟨c', -, rfl, hshape⟩
    · exact absurd h'.starts (hnone _ h'.mem)
    · obtain ⟨rfl, rfl⟩ := List.cons.inj hshape
      exact ⟨rfl, rfl⟩

theorem token_ne_nil : ∀ one ∈ shapeTokens, one.1 ≠ [] := by
  decide

/-- Something is cut off. -/
theorem CutsFirst.length_lt (h : CutsFirst shape part behind) : behind.length < shape.length := by
  rcases h with ⟨token, h, rfl⟩ | ⟨c, -, -, rfl⟩
  · have hpos : 0 < token.length := List.length_pos_of_ne_nil (token_ne_nil _ h.mem)
    rw [List.length_append]
    omega
  · exact Nat.lt_succ_self _

theorem cutsFirst_token (token behind : List Char) (part : ShapePart)
    (hmem : (token, part) ∈ shapeTokens)
    (hlongest : ∀ other ∈ shapeTokens, other.1 <+: token ++ behind → other.1.length ≤ token.length) :
    CutsFirst (token ++ behind) part behind :=
  Or.inl ⟨token, ⟨hmem, List.prefix_append token behind, hlongest⟩, rfl⟩

/-- The parts of a shape start with what is cut off first. -/
theorem shapeParts_cons (c : Char) (rest : List Char) :
    ∃ part behind, CutsFirst (c :: rest) part behind ∧
      shapeParts (c :: rest) = part :: shapeParts behind := by
  generalize hshape : c :: rest = shape
  fun_cases shapeParts shape with
  | case1 behind =>
    have hfirst := cutsFirst_token ['Y', 'Y', 'Y', 'Y'] behind (.digits 4) (by decide)
      (by simp [shapeTokens])
    exact ⟨_, behind, hfirst, rfl⟩
  | case2 behind hlonger =>
    have hno : ¬['Y', 'Y'] <+: behind := fun ⟨t, ht⟩ => hlonger t ht.symm
    have hfirst := cutsFirst_token ['Y', 'Y'] behind (.digits 2) (by decide)
      (by simp [shapeTokens, hno])
    exact ⟨_, behind, hfirst, rfl⟩
  | case3 behind =>
    have hfirst := cutsFirst_token ['M', 'M'] behind .paddedMonth (by decide) (by simp [shapeTokens])
    exact ⟨_, behind, hfirst, rfl⟩
  | case4 behind =>
    have hfirst := cutsFirst_token ['D', 'D'] behind .paddedDay (by decide) (by simp [shapeTokens])
    exact ⟨_, behind, hfirst, rfl⟩
  | case5 behind hlonger =>
    have hno : ¬['M'] <+: behind := fun ⟨t, ht⟩ => hlonger t ht.symm
    have hfirst := cutsFirst_token ['M'] behind .month (by decide) (by simp [shapeTokens, hno])
    exact ⟨_, behind, hfirst, rfl⟩
  | case6 behind hlonger =>
    have hno : ¬['D'] <+: behind := fun ⟨t, ht⟩ => hlonger t ht.symm
    have hfirst := cutsFirst_token ['D'] behind .day (by decide) (by simp [shapeTokens, hno])
    exact ⟨_, behind, hfirst, rfl⟩
  | case7 d behind hyyyy hyy hmm hdd hm hd =>
    have hno : ∀ other ∈ shapeTokens, ¬other.1 <+: d :: behind := by
      rintro other hmem ⟨t, ht⟩
      simp only [shapeTokens, List.mem_cons, List.not_mem_nil, or_false] at hmem
      rcases hmem with rfl | rfl | rfl | rfl | rfl | rfl
      · exact hyy _ (List.cons.inj ht).1.symm (List.cons.inj ht).2.symm
      · exact hyy _ (List.cons.inj ht).1.symm (List.cons.inj ht).2.symm
      · exact hm (List.cons.inj ht).1.symm
      · exact hd (List.cons.inj ht).1.symm
      · exact hm (List.cons.inj ht).1.symm
      · exact hd (List.cons.inj ht).1.symm
    exact ⟨_, behind, Or.inr ⟨d, hno, rfl, rfl⟩, rfl⟩
  | case8 => cases hshape

theorem cutsInto_shapeParts (shape : List Char) : CutsInto shape (shapeParts shape) := by
  cases shape with
  | nil => exact .nil
  | cons c rest =>
    obtain ⟨part, behind, hfirst, hparts⟩ := shapeParts_cons c rest
    have : behind.length < (c :: rest).length := hfirst.length_lt
    rw [hparts]
    exact .cons hfirst (cutsInto_shapeParts behind)
termination_by shape.length
decreasing_by exact this

/-- **There is one way to cut a shape.** -/
theorem cutsInto_iff : CutsInto shape parts ↔ parts = shapeParts shape := by
  constructor
  · intro h
    induction h with
    | nil => rfl
    | @cons shape behind part parts hfirst _ ih =>
      cases shape with
      | nil => exact absurd hfirst.length_lt (Nat.not_lt_zero _)
      | cons c rest =>
        obtain ⟨part', behind', hfirst', hparts⟩ := shapeParts_cons c rest
        obtain ⟨rfl, rfl⟩ := hfirst.unique hfirst'
        rw [hparts, ih]
  · rintro rfl
    exact cutsInto_shapeParts shape

end Cut

/-! ## The pieces -/

/-- A number from one to `top`, as it is written. -/
def IsNumber (write : Nat → List Char) (top : Nat) (w : List Char) : Prop :=
  ∃ n, 1 ≤ n ∧ n ≤ top ∧ w = write n

/-- A number in two digits. -/
def twoDigits (n : Nat) : List Char := (padded 2 n).toList

/-- The pieces of text that a part asks for. -/
def ShapePart.Matches : ShapePart → List Char → Prop
  | .digits n, w => w.length = n ∧ ∀ c ∈ w, isDecimalDigit c = true
  | .paddedMonth, w => IsNumber twoDigits 12 w
  | .month, w => IsNumber (Nat.toDigits 10) 12 w
  | .paddedDay, w => IsNumber twoDigits 31 w
  | .day, w => IsNumber (Nat.toDigits 10) 31 w
  | .fixed c, w => w = [c]

/-- A text in consecutive pieces, one for each part, with nothing before or behind them. -/
def Fits (parts : List ShapePart) (s : List Char) : Prop :=
  ∃ pieces, List.Forall₂ ShapePart.Matches parts pieces ∧ s = pieces.flatten

section Pieces

variable {part : ShapePart} {parts : List ShapePart} {s r w : List Char} {top n : Nat}

@[simp] theorem fits_nil_iff : Fits [] s ↔ s = [] := by
  simp [Fits]

theorem fits_cons_iff :
    Fits (part :: parts) s ↔ ∃ w r, part.Matches w ∧ Fits parts r ∧ s = w ++ r := by
  constructor
  · rintro ⟨_, h, rfl⟩
    obtain ⟨w, pieces, hpart, hparts, rfl⟩ := List.forall₂_cons_left_iff.mp h
    exact ⟨w, pieces.flatten, hpart, ⟨pieces, hparts, rfl⟩, rfl⟩
  · rintro ⟨w, _, hpart, ⟨pieces, hparts, rfl⟩, rfl⟩
    exact ⟨w :: pieces, .cons hpart hparts, rfl⟩

theorem isNumber_iff_mem {write : Nat → List Char} :
    IsNumber write top w ↔ w ∈ (List.range' 1 top).map write := by
  simp only [IsNumber, List.mem_map, List.mem_range'_1]
  constructor
  · rintro ⟨n, hone, htop, rfl⟩
    exact ⟨n, by omega, rfl⟩
  · rintro ⟨n, hn, rfl⟩
    exact ⟨n, by omega, by omega, rfl⟩

instance {write : Nat → List Char} : Decidable (IsNumber write top w) :=
  decidable_of_iff _ isNumber_iff_mem.symm

/-! ### What is left behind a piece -/

theorem mem_afterDigits_iff : r ∈ afterDigits n s ↔
    ∃ w, (w.length = n ∧ ∀ c ∈ w, isDecimalDigit c = true) ∧ s = w ++ r := by
  induction n generalizing s with
  | zero =>
    simp only [afterDigits, List.mem_singleton, List.length_eq_zero_iff]
    constructor
    · rintro rfl
      exact ⟨[], ⟨rfl, nofun⟩, rfl⟩
    · rintro ⟨_, ⟨rfl, -⟩, rfl⟩
      rfl
  | succ n ih =>
    cases s with
    | nil =>
      refine ⟨nofun, ?_⟩
      rintro ⟨w, ⟨hlength, -⟩, hnil⟩
      rw [(List.append_eq_nil_iff.mp hnil.symm).1] at hlength
      cases hlength
    | cons c rest =>
      have hsplit : (∃ w, (w.length = n + 1 ∧ ∀ d ∈ w, isDecimalDigit d = true) ∧ c :: rest = w ++ r) ↔
          isDecimalDigit c = true ∧
            ∃ w, (w.length = n ∧ ∀ d ∈ w, isDecimalDigit d = true) ∧ rest = w ++ r := by
        constructor
        · rintro ⟨_ | ⟨d, w⟩, ⟨hlength, hdigits⟩, heq⟩
          · cases hlength
          · obtain ⟨rfl, rfl⟩ := List.cons.inj heq
            obtain ⟨hc, hdigits⟩ := List.forall_mem_cons.mp hdigits
            exact ⟨hc, w, ⟨Nat.succ.inj hlength, hdigits⟩, rfl⟩
        · rintro ⟨hc, w, ⟨hlength, hdigits⟩, rfl⟩
          exact ⟨c :: w, ⟨congrArg Nat.succ hlength, List.forall_mem_cons.mpr ⟨hc, hdigits⟩⟩, rfl⟩
      rw [hsplit, ← ih, afterDigits]
      split <;> simp_all

theorem eq_digitChar_iff {c : Char} (hn : n < 10) : c = Nat.digitChar n ↔ c.toNat = 48 + n := by
  rw [← Char.toNat_inj, Nat.toNat_digitChar_of_lt_ten hn]

theorem digitIn?_eq_some_iff {c : Char} :
    digitIn? 10 c = some n ↔ n < 10 ∧ c = Nat.digitChar n := by
  constructor
  · intro h
    obtain ⟨hvalue, hn⟩ := Option.filter_eq_some_iff.mp h
    have hn : n < 10 := of_decide_eq_true hn
    rw [eq_digitChar_iff hn]
    split at hvalue
    · rename_i hdigit
      have hlow : 48 ≤ c.toNat := (Char.isDigit_iff_toNat.mp hdigit).1
      cases hvalue
      omega
    · -- letters are digits from ten on
      split at hvalue
      · rename_i hsmall
        have hlow : 97 ≤ c.toNat := of_decide_eq_true (Bool.and_eq_true_iff.mp hsmall).1
        cases hvalue
        omega
      · split at hvalue
        · rename_i hcapital
          have hlow : 65 ≤ c.toNat := of_decide_eq_true (Bool.and_eq_true_iff.mp hcapital).1
          cases hvalue
          omega
        · cases hvalue
  · rintro ⟨hn, rfl⟩
    have hvalue : ∀ m < 10, digitIn? 10 (Nat.digitChar m) = some m := by decide
    exact hvalue n hn

theorem leads_iff {c : Char} :
    ('1' ≤ c && c ≤ '9') = true ↔ ∃ i, 1 ≤ i ∧ i < 10 ∧ c = Nat.digitChar i := by
  rw [Bool.and_eq_true, decide_eq_true_eq, decide_eq_true_eq]
  constructor
  · rintro ⟨hlow, hhigh⟩
    have hlow : 49 ≤ c.toNat := hlow
    have hhigh : c.toNat ≤ 57 := hhigh
    have hlt : c.toNat - 48 < 10 := by omega
    exact ⟨c.toNat - 48, by omega, hlt, (eq_digitChar_iff hlt).mpr (by omega)⟩
  · rintro ⟨i, hone, hlt, hc⟩
    rw [eq_digitChar_iff hlt] at hc
    have hlow : 49 ≤ c.toNat := by omega
    have hhigh : c.toNat ≤ 57 := by omega
    exact ⟨hlow, hhigh⟩

theorem twoDigits_eq : ∀ n < 100,
    twoDigits n = [Nat.digitChar (n / 10), Nat.digitChar (n % 10)] := by
  decide +kernel

/-- Two digits write the numbers below a hundred. -/
theorem numberIn?_pair_iff {a b : Char} :
    numberIn? 10 [a, b] = some n ↔ n < 100 ∧ [a, b] = twoDigits n := by
  have hpair : numberIn? 10 [a, b] = some n ↔
      ∃ i j, digitIn? 10 a = some i ∧ digitIn? 10 b = some j ∧ 10 * i + j = n := by
    simp [numberIn?, digitsValue, List.mapM_cons, Option.bind_eq_some_iff]
  rw [hpair]
  constructor
  · rintro ⟨i, j, hi, hj, rfl⟩
    obtain ⟨hi', rfl⟩ := digitIn?_eq_some_iff.mp hi
    obtain ⟨hj', rfl⟩ := digitIn?_eq_some_iff.mp hj
    have hlt : 10 * i + j < 100 := by omega
    rw [twoDigits_eq _ hlt, show (10 * i + j) / 10 = i by omega, show (10 * i + j) % 10 = j by omega]
    exact ⟨hlt, rfl⟩
  · rintro ⟨hn, heq⟩
    have hi : n / 10 < 10 := by omega
    have hj : n % 10 < 10 := Nat.mod_lt n (by decide)
    rw [twoDigits_eq n hn] at heq
    cases heq
    exact ⟨n / 10, n % 10, digitIn?_eq_some_iff.mpr ⟨hi, rfl⟩,
      digitIn?_eq_some_iff.mpr ⟨hj, rfl⟩, Nat.div_add_mod n 10⟩

theorem mem_afterPadded_iff (htop : top < 100) :
    r ∈ afterPadded top s ↔ ∃ w, IsNumber twoDigits top w ∧ s = w ++ r := by
  constructor
  · intro hr
    unfold afterPadded at hr
    split at hr
    · rename_i a b rest
      split at hr
      · rename_i hany
        obtain ⟨n, hn, hbounds⟩ := (Option.any_eq_true _ _).mp hany
        obtain ⟨-, hpair⟩ := numberIn?_pair_iff.mp hn
        obtain ⟨hone, hle⟩ := Bool.and_eq_true_iff.mp hbounds
        cases List.mem_singleton.mp hr
        exact ⟨_, ⟨n, of_decide_eq_true hone, of_decide_eq_true hle, hpair⟩, rfl⟩
      · cases hr
    · cases hr
  · rintro ⟨_, ⟨n, hone, hle, rfl⟩, rfl⟩
    have hlt : n < 100 := by omega
    have hn : numberIn? 10 [Nat.digitChar (n / 10), Nat.digitChar (n % 10)] = some n :=
      numberIn?_pair_iff.mpr ⟨hlt, (twoDigits_eq n hlt).symm⟩
    rw [twoDigits_eq n hlt]
    simp [afterPadded, hn, hone, hle]

/-- Without a leading zero numbers below a hundred have one digit or two. -/
theorem toDigits_of_lt_hundred : ∀ n < 100,
    Nat.toDigits 10 n = if n < 10 then [Nat.digitChar n] else twoDigits n := by
  decide +kernel

/-- A digit other than zero is a number, and may be the first digit of one. -/
theorem mem_afterPlain : r ∈ afterPlain top s ↔ ∃ i rest, 1 ≤ i ∧ i < 10 ∧
    s = Nat.digitChar i :: rest ∧ (r = rest ∨ r ∈ afterPadded top s) := by
  cases s with
  | nil => simp [afterPlain]
  | cons a rest =>
    have hplain : afterPlain top (a :: rest) =
        if '1' ≤ a && a ≤ '9' then rest :: afterPadded top (a :: rest) else [] := by
      cases h : afterPadded top (a :: rest) <;> simp [afterPlain, h]
    rw [hplain]
    split
    · rename_i hleads
      obtain ⟨i, hone, hlt, rfl⟩ := leads_iff.mp hleads
      rw [List.mem_cons]
      constructor
      · intro h
        exact ⟨i, rest, hone, hlt, rfl, h⟩
      · rintro ⟨_, _, -, -, heq, h⟩
        cases (List.cons.inj heq).2
        exact h
    · rename_i hleads
      refine ⟨nofun, ?_⟩
      rintro ⟨i, _, hone, hlt, heq, -⟩
      exact absurd (leads_iff.mpr ⟨i, hone, hlt, (List.cons.inj heq).1⟩) hleads

theorem mem_afterPlain_iff (hnine : 9 ≤ top) (htop : top < 100) :
    r ∈ afterPlain top s ↔ ∃ w, IsNumber (Nat.toDigits 10) top w ∧ s = w ++ r := by
  rw [mem_afterPlain]
  constructor
  · rintro ⟨i, rest, hone, hlt, rfl, rfl | hr⟩
    · refine ⟨[Nat.digitChar i], ⟨i, hone, by omega, ?_⟩, rfl⟩
      rw [toDigits_of_lt_hundred i (by omega), if_pos hlt]
    · obtain ⟨_, ⟨n, _, hle, rfl⟩, heq⟩ := (mem_afterPadded_iff htop).mp hr
      have hn : n < 100 := by omega
      -- the first digit is not zero
      have htens : 10 ≤ n := by
        rw [twoDigits_eq n hn] at heq
        have hhead : Nat.digitChar i = Nat.digitChar (n / 10) := (List.cons.inj heq).1
        rw [eq_digitChar_iff (by omega), Nat.toNat_digitChar_of_lt_ten hlt] at hhead
        omega
      refine ⟨twoDigits n, ⟨n, by omega, hle, ?_⟩, heq⟩
      rw [toDigits_of_lt_hundred n hn, if_neg (by omega)]
  · rintro ⟨_, ⟨n, hone, hle, rfl⟩, rfl⟩
    have hn : n < 100 := by omega
    rw [toDigits_of_lt_hundred n hn]
    split
    · rename_i hlt
      exact ⟨n, r, hone, hlt, rfl, Or.inl rfl⟩
    · have hr : r ∈ afterPadded top (twoDigits n ++ r) :=
        (mem_afterPadded_iff htop).mpr ⟨_, ⟨n, hone, hle, rfl⟩, rfl⟩
      refine ⟨n / 10, Nat.digitChar (n % 10) :: r, by omega, by omega, ?_, Or.inr hr⟩
      rw [twoDigits_eq n hn]
      rfl

/-- What is left behind a part is what stands behind a piece that the part asks for. -/
theorem mem_rests_iff : r ∈ part.rests s ↔ ∃ w, part.Matches w ∧ s = w ++ r := by
  cases part with
  | digits n => exact mem_afterDigits_iff
  | paddedMonth => exact mem_afterPadded_iff (by decide)
  | month => exact mem_afterPlain_iff (by decide) (by decide)
  | paddedDay => exact mem_afterPadded_iff (by decide)
  | day => exact mem_afterPlain_iff (by decide) (by decide)
  | fixed c =>
    cases s with
    | nil => simp [ShapePart.rests, ShapePart.Matches]
    | cons d rest =>
      simp only [ShapePart.rests, ShapePart.Matches, exists_eq_left, List.singleton_append,
        List.cons.injEq]
      split <;> simp_all [eq_comm]

/-- **The parts are found in a text exactly if it is made of pieces that they ask for.** -/
theorem fits_iff : fits parts s = true ↔ Fits parts s := by
  induction parts generalizing s with
  | nil => simp [fits]
  | cons part parts ih =>
    rw [fits_cons_iff, fits, List.any_eq_true]
    simp only [mem_rests_iff, ih]
    constructor
    · rintro ⟨r, ⟨w, hw, rfl⟩, hr⟩
      exact ⟨w, r, hw, hr, rfl⟩
    · rintro ⟨w, r, hw, hr, rfl⟩
      exact ⟨r, ⟨w, hw, rfl⟩, hr⟩

instance : Decidable (Fits parts s) := decidable_of_iff _ fits_iff

end Pieces

end FieldCheck
