import FieldCheck.Proofs.Sizes
import Mathlib.Algebra.Order.Field.Basic
import Mathlib.Algebra.Order.Field.Power
import Mathlib.Algebra.Order.Ring.Abs
import Mathlib.Algebra.Ring.Int.Parity
import Mathlib.Tactic.FieldSimp
import Mathlib.Tactic.Linarith
import Mathlib.Tactic.NormNum
import Mathlib.Tactic.Positivity
import Mathlib.Tactic.Ring

/-!
# Rounding to the binary format

A ratio is rounded to the nearest number of the binary format, a tie to the one with an even mantissa.

* `OnGrid`, `EvenOnGrid` — the numbers of the format, were there no greatest one, and those of them with
  an even mantissa.
* `IsNearest` — the nearest number of the grid; `IsNearest.mono`.
* `multiple_or_far`, `isNearest_of_scaled` — rounding to multiples of a unit that is fine enough.
* `IsRounded` — the same with the ends of the format, beyond which there are infinities.
* `roundedQuotient_spec`, `binaryOrder_spec`, `unit_spec` — quotients, and the unit they are measured in.

Principal results: `ofRatio_spec`, `toDouble_spec`.
-/

set_option autoImplicit false

namespace FieldCheck

/-! ## The grid -/

/-- The numbers with a mantissa below `2^53` and an exponent of at least `-1074`. -/
def OnGrid (x : Rat) : Prop := ∃ m e : Int, |m| < 2 ^ 53 ∧ -1074 ≤ e ∧ x = m * 2 ^ e

/-- Those that have an even mantissa. -/
def EvenOnGrid (x : Rat) : Prop :=
  ∃ m e : Int, Even m ∧ |m| < 2 ^ 53 ∧ -1074 ≤ e ∧ x = m * 2 ^ e

section Grid

variable {x y : Rat} {m e : Int}

theorem EvenOnGrid.onGrid (h : EvenOnGrid x) : OnGrid x := by
  obtain ⟨m, e, -, hm, he, rfl⟩ := h
  exact ⟨m, e, hm, he, rfl⟩

theorem OnGrid.neg (h : OnGrid x) : OnGrid (-x) := by
  obtain ⟨m, e, hm, he, rfl⟩ := h
  exact ⟨-m, e, by rwa [abs_neg], he, by push_cast; ring⟩

theorem EvenOnGrid.neg (h : EvenOnGrid x) : EvenOnGrid (-x) := by
  obtain ⟨m, e, heven, hm, he, rfl⟩ := h
  exact ⟨-m, e, heven.neg, by rwa [abs_neg], he, by push_cast; ring⟩

theorem two_zpow_succ (e : Int) : (2 : Rat) ^ (e + 1) = 2 * 2 ^ e := by
  rw [zpow_add_one₀ two_ne_zero, mul_comm]

/-- A mantissa of `2^53` is as good as one of `2^52`, with the next exponent. -/
theorem evenOnGrid_top (he : -1074 ≤ e) : EvenOnGrid (2 ^ 53 * 2 ^ e) := by
  refine ⟨2 ^ 52, e + 1, by decide, by decide, by omega, ?_⟩
  rw [two_zpow_succ]
  push_cast
  ring

theorem evenOnGrid_of_abs_eq (hm : |m| = 2 ^ 53) (he : -1074 ≤ e) : EvenOnGrid (m * 2 ^ e) := by
  rcases (abs_eq (by norm_num)).mp hm with rfl | rfl
  · exact_mod_cast evenOnGrid_top he
  · have hneg := (evenOnGrid_top he).neg
    rw [← neg_mul] at hneg
    exact_mod_cast hneg

theorem onGrid_of_abs_le (hm : |m| ≤ 2 ^ 53) (he : -1074 ≤ e) : OnGrid (m * 2 ^ e) := by
  rcases hm.lt_or_eq with hlt | heq
  · exact ⟨m, e, hlt, he, rfl⟩
  · exact (evenOnGrid_of_abs_eq heq he).onGrid

theorem evenOnGrid_of_abs_le (heven : Even m) (hm : |m| ≤ 2 ^ 53) (he : -1074 ≤ e) :
    EvenOnGrid (m * 2 ^ e) := by
  rcases hm.lt_or_eq with hlt | heq
  · exact ⟨m, e, heven, hlt, he, rfl⟩
  · exact evenOnGrid_of_abs_eq heq he

/-- Behind a number with an even mantissa comes another number, before the next even one. -/
theorem EvenOnGrid.exists_between_of_le {k f : Int} (hm : Even m) (hbound : |m| < 2 ^ 53)
    (he : -1074 ≤ e) (hk : Even k) (hef : e ≤ f) (hlt : (m : Rat) * 2 ^ e < k * 2 ^ f) :
    ∃ z, OnGrid z ∧ (m : Rat) * 2 ^ e < z ∧ z < k * 2 ^ f := by
  obtain ⟨n, rfl⟩ : ∃ n : Nat, f = e + n := ⟨(f - e).toNat, by omega⟩
  have hunit : (0 : Rat) < 2 ^ e := by positivity
  have hscaled : (k : Rat) * 2 ^ (e + n : Int) = (k * 2 ^ n : Int) * 2 ^ e := by
    rw [zpow_add₀ two_ne_zero, zpow_natCast]
    push_cast
    ring
  rw [hscaled] at hlt ⊢
  have hless : m < k * 2 ^ n := by exact_mod_cast lt_of_mul_lt_mul_right hlt hunit.le
  -- both are even, so that there is a mantissa between them
  have heven : Even (k * 2 ^ n) := hk.mul_right _
  have hroom : m + 1 < k * 2 ^ n := by
    obtain ⟨a, rfl⟩ := hm
    obtain ⟨b, hb⟩ := heven
    omega
  refine ⟨((m + 1 : Int) : Rat) * 2 ^ e, onGrid_of_abs_le ?_ he, ?_, ?_⟩
  · rw [abs_le]
    rw [abs_lt] at hbound
    omega
  · exact mul_lt_mul_of_pos_right (by exact_mod_cast Int.lt_succ m) hunit
  · exact mul_lt_mul_of_pos_right (by exact_mod_cast hroom) hunit

theorem EvenOnGrid.exists_between (hx : EvenOnGrid x) (hy : EvenOnGrid y) (hlt : x < y) :
    ∃ z, OnGrid z ∧ x < z ∧ z < y := by
  obtain ⟨m, e, hm, hbound, he, rfl⟩ := hx
  obtain ⟨k, f, hk, hbound', hf, rfl⟩ := hy
  rcases le_total e f with hef | hfe
  · exact EvenOnGrid.exists_between_of_le hm hbound he hk hef hlt
  · have hlt' : ((-k : Int) : Rat) * 2 ^ f < ((-m : Int) : Rat) * 2 ^ e := by
      push_cast
      linarith
    obtain ⟨z, hz, hleft, hright⟩ :=
      EvenOnGrid.exists_between_of_le hk.neg (by rwa [abs_neg]) hf hm.neg hfe hlt'
    push_cast at hleft hright
    exact ⟨-z, hz.neg, by linarith, by linarith⟩

end Grid

/-! ## The nearest number -/

/-- A nearest number of the grid; of two that are equally near it is the one with an even mantissa. -/
structure IsNearest (q x : Rat) : Prop where
  onGrid : OnGrid x
  closest : ∀ y, OnGrid y → |q - x| ≤ |q - y|
  even : ∀ y, OnGrid y → y ≠ x → |q - y| = |q - x| → EvenOnGrid x

section Nearest

variable {q q' x x' : Rat}

theorem IsNearest.neg (h : IsNearest q x) : IsNearest (-q) (-x) where
  onGrid := h.onGrid.neg
  closest := by
    intro y hy
    have hmirror : |-q - y| = |q - -y| := by rw [← abs_neg, neg_sub', neg_neg]
    rw [neg_sub_neg, abs_sub_comm, hmirror]
    exact h.closest (-y) hy.neg
  even := by
    intro y hy hne htie
    have hmirror : |-q - y| = |q - -y| := by rw [← abs_neg, neg_sub', neg_neg]
    rw [neg_sub_neg, abs_sub_comm x, hmirror] at htie
    exact (h.even (-y) hy.neg (fun heq => hne (by rw [← heq, neg_neg])) htie).neg

/-- A number of the grid is nearest to itself. -/
theorem isNearest_self (h : OnGrid x) : IsNearest x x where
  onGrid := h
  closest := by
    intro y _
    rw [sub_self, abs_zero]
    exact abs_nonneg _
  even := by
    intro y _ hne heq
    rw [sub_self, abs_zero, abs_eq_zero, sub_eq_zero] at heq
    exact absurd heq.symm hne

/-- What is not nearer to the lower of two numbers is not below their middle. -/
theorem middle_le (hlt : x' < x) (h : |q - x| ≤ |q - x'|) : x + x' ≤ 2 * q := by
  by_contra hbelow
  have hfar : x - q ≤ |q - x| := by
    rw [abs_sub_comm]
    exact le_abs_self _
  have hnear : |q - x'| < x - q := abs_lt.mpr ⟨by linarith, by linarith⟩
  linarith

theorem le_middle (hlt : x' < x) (h : |q - x'| ≤ |q - x|) : 2 * q ≤ x + x' := by
  by_contra habove
  have hfar : q - x' ≤ |q - x'| := le_abs_self _
  have hnear : |q - x| < q - x' := abs_lt.mpr ⟨by linarith, by linarith⟩
  linarith

/-- **Rounding keeps the order.**  Two numbers that were rounded out of order would both be nearest to
their middle, so both would be even; but then there is a nearer one between them. -/
theorem IsNearest.mono (h : IsNearest q x) (h' : IsNearest q' x') (hq : q ≤ q') : x ≤ x' := by
  by_contra hlt
  rw [not_le] at hlt
  have hleft := middle_le hlt (h.closest x' h'.onGrid)
  have hright := le_middle hlt (h'.closest x h.onGrid)
  obtain rfl : q = q' := by linarith
  have htie : |q - x'| = |q - x| := le_antisymm (h'.closest x h.onGrid) (h.closest x' h'.onGrid)
  obtain ⟨z, hz, hlow, hhigh⟩ := EvenOnGrid.exists_between
    (h'.even x h.onGrid hlt.ne' htie.symm) (h.even x' h'.onGrid hlt.ne htie) hlt
  have hcloser : |q - z| < |q - x| := by
    rw [abs_sub_comm q x, abs_of_pos (by linarith : 0 < x - q)]
    exact abs_lt.mpr ⟨by linarith, by linarith⟩
  exact absurd (h.closest z hz) (not_le.mpr hcloser)

end Nearest

/-! ## The ends of the format -/

/-- The power of two that the format does not reach. -/
def ceiling : Rat := 2 ^ 1024

/-- A number of the grid as one of the format: beyond its ends there are only the infinities. -/
def clipped (x : Rat) : Extended :=
  if ceiling ≤ x then ⊤ else if x ≤ -ceiling then ⊥ else Extended.point x

/-- What a rational is rounded to. -/
def IsRounded (q : Rat) (s : Extended) : Prop := ∃ x, IsNearest q x ∧ s = clipped x

section Ends

variable {q q' x y : Rat} {s s' : Extended}

theorem ceiling_pos : 0 < ceiling := by
  unfold ceiling
  positivity

theorem clipped_of_abs_lt (h : |x| < ceiling) : clipped x = Extended.point x := by
  obtain ⟨hlow, hhigh⟩ := abs_lt.mp h
  rw [clipped, if_neg (not_le.mpr hhigh), if_neg (not_le.mpr hlow)]

theorem clipped_top (h : ceiling ≤ x) : clipped x = ⊤ := if_pos h

theorem clipped_bot (h : x ≤ -ceiling) : clipped x = ⊥ := by
  have hpos := ceiling_pos
  rw [clipped, if_neg (by linarith), if_pos h]

theorem clipped_mono (h : x ≤ y) : clipped x ≤ clipped y := by
  by_cases htop : ceiling ≤ y
  · rw [clipped_top htop]
    exact le_top
  · by_cases hbot : x ≤ -ceiling
    · rw [clipped_bot hbot]
      exact bot_le
    · rw [not_le] at htop hbot
      rw [clipped_of_abs_lt (abs_lt.mpr ⟨hbot, h.trans_lt htop⟩),
        clipped_of_abs_lt (abs_lt.mpr ⟨hbot.trans_le h, htop⟩)]
      exact WithBot.coe_le_coe.mpr (WithTop.coe_le_coe.mpr h)

theorem IsRounded.mono (h : IsRounded q s) (h' : IsRounded q' s') (hq : q ≤ q') : s ≤ s' := by
  obtain ⟨x, hx, rfl⟩ := h
  obtain ⟨x', hx', rfl⟩ := h'
  exact clipped_mono (hx.mono hx' hq)

theorem IsRounded.unique (h : IsRounded q s) (h' : IsRounded q s') : s = s' :=
  le_antisymm (h.mono h' le_rfl) (h'.mono h le_rfl)

/-- A number of the format is rounded to itself. -/
theorem isRounded_self (hgrid : OnGrid x) (h : |x| < ceiling) : IsRounded x (Extended.point x) :=
  ⟨x, isNearest_self hgrid, (clipped_of_abs_lt h).symm⟩

end Ends

/-! ## Quotients -/

section Quotients

variable {num den : Nat}

theorem roundedQuotient_cases (num den : Nat) :
    (Double.roundedQuotient num den = num / den ∧ 2 * (num % den) ≤ den ∧
        (2 * (num % den) = den → Even (num / den))) ∨
      (Double.roundedQuotient num den = num / den + 1 ∧ den ≤ 2 * (num % den) ∧
        (2 * (num % den) = den → Even (num / den + 1))) := by
  unfold Double.roundedQuotient
  dsimp only
  split
  · exact Or.inl ⟨rfl, by omega, by omega⟩
  · split
    · exact Or.inr ⟨rfl, by omega, by omega⟩
    · split
      · rename_i heven
        exact Or.inl ⟨rfl, by omega, fun _ => Nat.even_iff.mpr heven⟩
      · rename_i hodd
        exact Or.inr ⟨rfl, by omega, fun _ => Nat.even_iff.mpr (by omega)⟩

theorem div_eq_quotient_add (hden : 0 < den) :
    (num : Rat) / den = (num / den : Nat) + (num % den : Nat) / den := by
  have hpos : (den : Rat) ≠ 0 := by exact_mod_cast hden.ne'
  have hsum : (num : Rat) = (num / den : Nat) * den + (num % den : Nat) := by
    exact_mod_cast (Nat.div_add_mod' num den).symm
  rw [div_eq_iff hpos, add_mul, div_mul_cancel₀ _ hpos]
  exact hsum

/-- The rounded quotient is at most a half away, and even where it is just a half away. -/
theorem roundedQuotient_spec (num : Nat) (hden : 0 < den) :
    |(num : Rat) / den - Double.roundedQuotient num den| ≤ 1 / 2 ∧
      (|(num : Rat) / den - Double.roundedQuotient num den| = 1 / 2 →
        Even (Double.roundedQuotient num den)) := by
  have hpos : (0 : Rat) < den := by exact_mod_cast hden
  have hless : num % den < den := Nat.mod_lt num hden
  rw [div_eq_quotient_add hden]
  rcases roundedQuotient_cases num den with ⟨hq, hhalf, heven⟩ | ⟨hq, hhalf, heven⟩
  · rw [hq, add_sub_cancel_left, abs_of_nonneg (by positivity), div_le_div_iff₀ hpos two_pos,
      div_eq_div_iff hpos.ne' two_ne_zero]
    constructor
    · exact_mod_cast (by omega : num % den * 2 ≤ 1 * den)
    · intro htie
      have : num % den * 2 = 1 * den := by exact_mod_cast htie
      exact heven (by omega)
  · have hdistance : |((num / den : Nat) : Rat) + (num % den : Nat) / den - (num / den + 1 : Nat)| =
        (den - num % den : Nat) / den := by
      rw [Nat.cast_sub hless.le, sub_div, div_self hpos.ne', Nat.cast_add_one, add_sub_add_left_eq_sub,
        abs_sub_comm, abs_of_nonneg]
      rw [sub_nonneg, div_le_one hpos]
      exact_mod_cast hless.le
    rw [hq, hdistance, div_le_div_iff₀ hpos two_pos, div_eq_div_iff hpos.ne' two_ne_zero]
    constructor
    · exact_mod_cast (by omega : (den - num % den) * 2 ≤ 1 * den)
    · intro htie
      have : (den - num % den) * 2 = 1 * den := by exact_mod_cast htie
      exact heven (by omega)

/-- The two factors of a ratio that is divided by a power of two. -/
theorem scaleBy_spec (num : Nat) (e : Int) (hden : 0 < den) :
    0 < (Double.scaleBy e num den).2 ∧
      ((Double.scaleBy e num den).1 : Rat) / (Double.scaleBy e num den).2 =
        (num : Rat) / den / 2 ^ e := by
  unfold Double.scaleBy
  split
  · rename_i he
    obtain ⟨n, rfl⟩ := Int.eq_ofNat_of_zero_le he
    refine ⟨Nat.mul_pos hden (Nat.two_pow_pos _), ?_⟩
    rw [zpow_natCast, Int.toNat_natCast, Nat.cast_mul, Nat.cast_pow, Nat.cast_ofNat, div_div]
  · rename_i he
    obtain ⟨n, rfl⟩ : ∃ n : Nat, e = -n := ⟨(-e).toNat, by omega⟩
    refine ⟨hden, ?_⟩
    rw [neg_neg, Int.toNat_natCast, zpow_neg, zpow_natCast, div_inv_eq_mul, Nat.cast_mul, Nat.cast_pow,
      Nat.cast_ofNat, mul_div_right_comm]

theorem two_zpow_quotient {k : Int} {a b : Nat} (h : k = a - b) : (2 : Rat) ^ k = 2 ^ a / 2 ^ b := by
  rw [h, zpow_sub₀ two_ne_zero, zpow_natCast, zpow_natCast]

/-- The powers of two around a ratio. -/
theorem binaryOrder_spec (hnum : 0 < num) (hden : 0 < den) :
    (2 : Rat) ^ Double.binaryOrder num den ≤ (num : Rat) / den ∧
      (num : Rat) / den < 2 ^ (Double.binaryOrder num den + 1) := by
  have hpos : (0 : Rat) < den := by exact_mod_cast hden
  have hnumLow : ((2 : Rat) ^ Nat.log2 num) ≤ num := by
    exact_mod_cast Nat.log2_self_le hnum.ne'
  have hnumHigh : (num : Rat) < 2 ^ (Nat.log2 num + 1) := by exact_mod_cast Nat.lt_log2_self
  have hdenLow : ((2 : Rat) ^ Nat.log2 den) ≤ den := by
    exact_mod_cast Nat.log2_self_le hden.ne'
  have hdenHigh : (den : Rat) < 2 ^ (Nat.log2 den + 1) := by exact_mod_cast Nat.lt_log2_self
  generalize hk : (Nat.log2 num : Int) - Nat.log2 den = k
  obtain ⟨hscaledPos, hscaled⟩ := scaleBy_spec num k hden
  have hunit : (0 : Rat) < 2 ^ k := by positivity
  have hbelow : (num : Rat) / den < 2 ^ (k + 1) := by
    rw [two_zpow_quotient (a := Nat.log2 num + 1) (b := Nat.log2 den) (by omega)]
    exact div_lt_div₀ hnumHigh hdenLow (by positivity) (by positivity)
  have habove : (2 : Rat) ^ (k - 1) ≤ (num : Rat) / den := by
    rw [two_zpow_quotient (a := Nat.log2 num) (b := Nat.log2 den + 1) (by omega)]
    exact div_le_div₀ (Nat.cast_nonneg num) hnumLow hpos hdenHigh.le
  have hcompare : (Double.scaleBy k num den).2 ≤ (Double.scaleBy k num den).1 ↔
      (2 : Rat) ^ k ≤ (num : Rat) / den := by
    rw [← one_le_div hunit, ← hscaled, one_le_div (by exact_mod_cast hscaledPos)]
    exact_mod_cast Iff.rfl
  unfold Double.binaryOrder
  dsimp only
  rw [hk]
  split
  · rename_i hle
    exact ⟨hcompare.mp hle, hbelow⟩
  · rename_i hle
    rw [sub_add_cancel]
    exact ⟨habove, lt_of_not_ge fun h => hle (hcompare.mpr h)⟩

/-- Numbers of the grid with a finer unit are smaller. -/
theorem small_of_lt {k e f : Int} (hk : |k| < 2 ^ 53) (hfe : f < e) :
    (k : Rat) * 2 ^ f < 2 ^ 52 * 2 ^ e := by
  have hmantissa : (k : Rat) < 2 ^ 53 := by exact_mod_cast (le_abs_self k).trans_lt hk
  have hunits : (2 : Rat) ^ (f + 1) ≤ 2 ^ e := zpow_le_zpow_right₀ one_le_two (by omega)
  calc (k : Rat) * 2 ^ f < 2 ^ 53 * 2 ^ f := mul_lt_mul_of_pos_right hmantissa (by positivity)
    _ = 2 ^ 52 * 2 ^ (f + 1) := by
      rw [two_zpow_succ]
      ring
    _ ≤ 2 ^ 52 * 2 ^ e := mul_le_mul_of_nonneg_left hunits (by positivity)

/-- If an integer is no more than a half away, any other is at least a half away. -/
theorem half_le_of_ne {t : Rat} {m j : Int} (hhalf : |t - m| ≤ 1 / 2) (hj : j ≠ m) :
    1 / 2 ≤ |t - j| := by
  have hstep : (1 : Rat) ≤ |(m : Rat) - j| := by
    exact_mod_cast Int.one_le_abs (sub_ne_zero.mpr hj.symm)
  have htriangle : |(m : Rat) - j| ≤ |t - m| + |t - j| := by
    rw [abs_sub_comm t m]
    simpa using abs_add_le ((m : Rat) - t) (t - j)
  linarith

/-- A number of the grid is a multiple of the unit, or so small that it is far away. -/
theorem multiple_or_far {t y : Rat} {m e : Int} (hhalf : |t - m| ≤ 1 / 2)
    (hfine : e = -1074 ∨ 2 ^ 52 ≤ t) (hy : OnGrid y) :
    (∃ j : Int, y = j * 2 ^ e) ∨ |t - m| * 2 ^ e < |t * 2 ^ e - y| := by
  obtain ⟨k, f, hk, hf, rfl⟩ := hy
  by_cases hef : e ≤ f
  · left
    obtain ⟨n, rfl⟩ : ∃ n : Nat, f = e + n := ⟨(f - e).toNat, by omega⟩
    refine ⟨k * 2 ^ n, ?_⟩
    rw [zpow_add₀ two_ne_zero, zpow_natCast]
    push_cast
    ring
  · right
    have hunit : (0 : Rat) < 2 ^ e := by positivity
    have hlarge : 2 ^ 52 ≤ t := hfine.resolve_left (by omega)
    have hsmall : (k : Rat) * 2 ^ f < 2 ^ 52 * 2 ^ e := small_of_lt hk (by omega)
    have hnear : |t - m| ≤ t - 2 ^ 52 := by
      have hcast : ((2 ^ 52 : Int) : Rat) = 2 ^ 52 := by norm_num
      have hpos : |t - 2 ^ 52| = t - 2 ^ 52 := abs_of_nonneg (sub_nonneg.mpr hlarge)
      rcases eq_or_ne (2 ^ 52) m with rfl | hne
      · rw [hcast, hpos]
      · have hbound := half_le_of_ne hhalf hne
        rw [hcast, hpos] at hbound
        exact hhalf.trans hbound
    calc |t - m| * 2 ^ e ≤ (t - 2 ^ 52) * 2 ^ e := mul_le_mul_of_nonneg_right hnear hunit.le
      _ < t * 2 ^ e - k * 2 ^ f := by
        rw [sub_mul]
        linarith
      _ ≤ |t * 2 ^ e - k * 2 ^ f| := le_abs_self _

/-- On a grid that is fine enough, the nearest multiple of the unit is the nearest number. -/
theorem isNearest_of_scaled {t : Rat} {m e : Int} (he : -1074 ≤ e) (hm : |m| ≤ 2 ^ 53)
    (hhalf : |t - m| ≤ 1 / 2) (heven : |t - m| = 1 / 2 → Even m) (hfine : e = -1074 ∨ 2 ^ 52 ≤ t) :
    IsNearest (t * 2 ^ e) (m * 2 ^ e) := by
  have hunit : (0 : Rat) < 2 ^ e := by positivity
  have hdistance (a : Rat) : |t * 2 ^ e - a * 2 ^ e| = |t - a| * 2 ^ e := by
    rw [← sub_mul, abs_mul, abs_of_pos hunit]
  refine ⟨onGrid_of_abs_le hm he, ?_, ?_⟩
  · intro y hy
    rw [hdistance]
    rcases multiple_or_far hhalf hfine hy with ⟨j, rfl⟩ | hfar
    · rw [hdistance]
      refine mul_le_mul_of_nonneg_right ?_ hunit.le
      rcases eq_or_ne j m with rfl | hj
      · exact le_rfl
      · exact hhalf.trans (half_le_of_ne hhalf hj)
    · exact hfar.le
  · intro y hy hne htie
    rw [hdistance] at htie
    rcases multiple_or_far hhalf hfine hy with ⟨j, rfl⟩ | hfar
    · rw [hdistance] at htie
      have hj : j ≠ m := fun h => hne (by rw [h])
      have htie' : |t - j| = |t - m| := mul_right_cancel₀ hunit.ne' htie
      have hmEven : Even m := heven (le_antisymm hhalf (htie' ▸ half_le_of_ne hhalf hj))
      exact evenOnGrid_of_abs_le hmEven hm he
    · exact absurd htie hfar.ne'

end Quotients

/-! ## Numbers of the format -/

/-- A rational with its sign. -/
def signed (negative : Bool) (x : Rat) : Rat := if negative then -x else x

section Numbers

variable {negative : Bool} {num den m : Nat} {e : Int} {q x : Rat}

theorem signed_zero (negative : Bool) : signed negative 0 = 0 := by
  cases negative
  · rfl
  · exact neg_zero

theorem abs_signed (negative : Bool) (x : Rat) : |signed negative x| = |x| := by
  cases negative
  · rfl
  · exact abs_neg x

theorem IsNearest.signed (h : IsNearest q x) (negative : Bool) :
    IsNearest (signed negative q) (signed negative x) := by
  cases negative
  · exact h
  · exact h.neg

theorem int_value (k : Int) : (Number.int k).value? = some (Extended.point k) := by
  show some (Extended.point (Dyadic.ofIntWithPrec k 0).toRat) = _
  rw [Dyadic.toRat_ofIntWithPrec_eq_mul_two_pow, neg_zero, zpow_zero, mul_one]

theorem finite_value (negative : Bool) (m : Nat) (e : Int) :
    (Number.float (.finite negative m e)).value? =
      some (Extended.point (signed negative (m * 2 ^ e))) := by
  have htoRat (k : Int) : (Dyadic.ofIntWithPrec k (-e)).toRat = k * 2 ^ e := by
    rw [Dyadic.toRat_ofIntWithPrec_eq_mul_two_pow, neg_neg]
  cases negative with
  | false =>
    show some (Extended.point (Dyadic.ofIntWithPrec m (-e)).toRat) = _
    rw [htoRat]
    rfl
  | true =>
    show some (Extended.point (Dyadic.ofIntWithPrec (-m) (-e)).toRat) = _
    rw [htoRat, Int.cast_neg, neg_mul]
    rfl

theorem infinite_value (negative : Bool) :
    (Number.float (.infinite negative)).value? = some (if negative then ⊥ else ⊤) := by
  cases negative <;> rfl

theorem clipped_signed (h : ceiling ≤ x) :
    clipped (signed negative x) = if negative then ⊥ else ⊤ := by
  cases negative
  · exact clipped_top h
  · exact clipped_bot (neg_le_neg h)

theorem ceiling_eq (n k : Nat) (h : n + k = 1024) : ceiling = 2 ^ n * 2 ^ (k : Int) := by
  rw [ceiling, zpow_natCast, ← pow_add, h]

theorem ceiling_le (hm : 2 ^ 52 ≤ m) (he : 971 < e) : ceiling ≤ m * 2 ^ e := by
  rw [ceiling_eq 52 972 (by decide)]
  exact mul_le_mul (by exact_mod_cast hm) (zpow_le_zpow_right₀ one_le_two (by omega))
    (by positivity) (Nat.cast_nonneg m)

theorem lt_ceiling (hm : m < 2 ^ 53) (he : e ≤ 971) : m * 2 ^ e < ceiling := by
  rw [ceiling_eq 53 971 (by decide)]
  exact mul_lt_mul (by exact_mod_cast hm) (zpow_le_zpow_right₀ one_le_two (by omega))
    (by positivity) (by positivity)

/-- The unit that a ratio is measured in. -/
def ratioUnit (num den : Nat) : Int := max Double.leastExponent (Double.binaryOrder num den - 52)

/-- A mantissa of at most `2^53` and an exponent as a number of the format. -/
def formatted (negative : Bool) (m : Nat) (e : Int) : Double :=
  let p := if m = 2 ^ Double.precision then (2 ^ 52, e + 1) else (m, e)
  if Double.greatestExponent < p.2 then .infinite negative else .finite negative p.1 p.2

/-- What is too great for the format is an infinity. -/
theorem bounded_value (hm : m < 2 ^ 53) (hfine : e ≤ 971 ∨ 2 ^ 52 ≤ m) :
    (Number.float (if Double.greatestExponent < e then .infinite negative
      else .finite negative m e)).value? = some (clipped (signed negative (m * 2 ^ e))) := by
  unfold Double.greatestExponent
  split
  · rename_i he
    rw [infinite_value, clipped_signed (ceiling_le (hfine.resolve_left (by omega)) he)]
  · rename_i he
    have hless : |signed negative (m * 2 ^ e)| < ceiling := by
      rw [abs_signed, abs_of_nonneg (by positivity)]
      exact lt_ceiling hm (by omega)
    rw [finite_value, clipped_of_abs_lt hless]

theorem formatted_value (negative : Bool) (hm : m ≤ 2 ^ 53) (hfine : e = -1074 ∨ 2 ^ 52 ≤ m) :
    (Number.float (formatted negative m e)).value? = some (clipped (signed negative (m * 2 ^ e))) := by
  unfold formatted Double.precision
  split
  · rename_i htop
    have hnext : ((2 ^ 53 : Nat) : Rat) * 2 ^ e = (2 ^ 52 : Nat) * 2 ^ (e + 1) := by
      rw [two_zpow_succ]
      push_cast
      ring
    rw [htop, hnext]
    exact bounded_value (by norm_num) (Or.inr le_rfl)
  · rename_i hne
    exact bounded_value (lt_of_le_of_ne hm hne) (hfine.imp_left fun h => by omega)

/-- The unit that is chosen for a ratio: the ratio has at most 53 bits in front of it, and as many
unless the unit is the least one. -/
theorem unit_spec (hnum : 0 < num) (hden : 0 < den) :
    -1074 ≤ ratioUnit num den ∧ (num : Rat) / den / 2 ^ ratioUnit num den < 2 ^ 53 ∧
      (ratioUnit num den = -1074 ∨ 2 ^ 52 ≤ (num : Rat) / den / 2 ^ ratioUnit num den) := by
  obtain ⟨hlow, hhigh⟩ := binaryOrder_spec hnum hden
  unfold ratioUnit Double.leastExponent
  generalize Double.binaryOrder num den = k at hlow hhigh
  refine ⟨le_max_left _ _, ?_, ?_⟩
  · rw [div_lt_iff₀ (by positivity), ← zpow_natCast, ← zpow_add₀ two_ne_zero]
    refine hhigh.trans_le (zpow_le_zpow_right₀ one_le_two ?_)
    have := le_max_right (-1074) (k - 52)
    push_cast
    omega
  · rcases le_total (k - 52) (-1074) with h | h
    · exact Or.inl (max_eq_left h)
    · right
      have hsum : ((52 : Nat) : Int) + (k - 52) = k := by omega
      rw [max_eq_right h, le_div_iff₀ (by positivity), ← zpow_natCast, ← zpow_add₀ two_ne_zero, hsum]
      exact hlow

/-- The mantissa of a ratio in its unit. -/
def ratioMantissa (num den : Nat) : Nat :=
  Double.roundedQuotient (Double.scaleBy (ratioUnit num den) num den).1
    (Double.scaleBy (ratioUnit num den) num den).2

theorem ofRatio_eq_formatted (negative : Bool) (hnum : 0 < num) (hden : 0 < den) :
    Double.ofRatio negative num den =
      formatted negative (ratioMantissa num den) (ratioUnit num den) := by
  rw [Double.ofRatio, if_neg (by simp [hnum.ne', hden.ne'])]
  rfl

/-- The mantissa is the ratio in its unit, rounded to an integer. -/
theorem ratioMantissa_spec (hden : 0 < den) :
    |(num : Rat) / den / 2 ^ ratioUnit num den - ratioMantissa num den| ≤ 1 / 2 ∧
      (|(num : Rat) / den / 2 ^ ratioUnit num den - ratioMantissa num den| = 1 / 2 →
        Even (ratioMantissa num den)) := by
  obtain ⟨hpos, hscaled⟩ := scaleBy_spec num (ratioUnit num den) hden
  rw [← hscaled]
  exact roundedQuotient_spec _ hpos

/-- It has at most 54 bits, and 53 of them unless the unit is the least one. -/
theorem ratioMantissa_bounds (hnum : 0 < num) (hden : 0 < den) :
    ratioMantissa num den ≤ 2 ^ 53 ∧ (ratioUnit num den = -1074 ∨ 2 ^ 52 ≤ ratioMantissa num den) := by
  obtain ⟨-, hsmall, hfine⟩ := unit_spec hnum hden
  obtain ⟨hbelow, habove⟩ := abs_le.mp (@ratioMantissa_spec num den hden).1
  constructor
  · have : (ratioMantissa num den : Rat) < (2 ^ 53 + 1 : Nat) := by
      push_cast
      linarith
    exact Nat.lt_succ_iff.mp (by exact_mod_cast this)
  · refine hfine.imp_right fun hlarge => ?_
    have : ((2 ^ 52 : Nat) : Rat) < (ratioMantissa num den + 1 : Nat) := by
      push_cast
      linarith
    exact Nat.lt_succ_iff.mp (by exact_mod_cast this)

/-- **The quotient of two positive numbers is rounded to the nearest number of the format.** -/
theorem ofRatio_spec (negative : Bool) (hnum : 0 < num) (hden : 0 < den) :
    ∃ x, IsNearest ((num : Rat) / den) x ∧
      (Number.float (Double.ofRatio negative num den)).value? =
        some (clipped (signed negative x)) := by
  obtain ⟨hleast, -, hfine⟩ := unit_spec hnum hden
  obtain ⟨hhalf, heven⟩ := @ratioMantissa_spec num den hden
  obtain ⟨hmost, hleastMantissa⟩ := ratioMantissa_bounds hnum hden
  rw [ofRatio_eq_formatted negative hnum hden]
  generalize ratioMantissa num den = m at *
  generalize ratioUnit num den = e at *
  have hratio : (num : Rat) / den = num / den / 2 ^ e * 2 ^ e :=
    (div_mul_cancel₀ _ (by positivity)).symm
  generalize (num : Rat) / den / 2 ^ e = t at *
  refine ⟨m * 2 ^ e, ?_, formatted_value negative hmost hleastMantissa⟩
  rw [hratio]
  have hmantissa : |(m : Int)| ≤ 2 ^ 53 := by
    rw [abs_of_nonneg (Int.natCast_nonneg m)]
    exact_mod_cast hmost
  exact_mod_cast isNearest_of_scaled hleast hmantissa (by exact_mod_cast hhalf)
    (fun htie => by exact_mod_cast heven (by exact_mod_cast htie)) hfine

end Numbers

/-! ## Decimal numbers -/

section Decimals

variable {c : Nat} {e : Int} {q : Rat}

theorem toDigits_bounds (hc : 0 < c) :
    10 ^ ((Nat.toDigits 10 c).length - 1) ≤ c ∧ c < 10 ^ (Nat.toDigits 10 c).length := by
  have hpos : 0 < (Nat.toDigits 10 c).length := List.length_pos_of_ne_nil Nat.toDigits_ne_nil
  refine ⟨?_, (Nat.length_toDigits_le_iff (by decide) hpos).mp le_rfl⟩
  rcases Nat.eq_zero_or_pos ((Nat.toDigits 10 c).length - 1) with hzero | hmore
  · rw [hzero]
    exact hc
  · by_contra hless
    have hshort := (Nat.length_toDigits_le_iff (by decide) hmore).mpr (Nat.lt_of_not_le hless)
    omega

/-- The powers of ten around a decimal number. -/
theorem order_spec (hc : 0 < c) (e : Int) :
    (10 : Rat) ^ Decimal.order c e ≤ c * 10 ^ e ∧ (c : Rat) * 10 ^ e < 10 ^ (Decimal.order c e + 1) := by
  obtain ⟨hlow, hhigh⟩ := toDigits_bounds hc
  have hpos : 0 < (Nat.toDigits 10 c).length := List.length_pos_of_ne_nil Nat.toDigits_ne_nil
  have hten : (10 : Rat) ≠ 0 := by norm_num
  have hunit : (0 : Rat) < 10 ^ e := by positivity
  unfold Decimal.order
  constructor
  · rw [zpow_add₀ hten]
    refine mul_le_mul_of_nonneg_right ?_ hunit.le
    have hexp : ((Nat.toDigits 10 c).length : Int) - 1 = ((Nat.toDigits 10 c).length - 1 : Nat) := by
      omega
    rw [hexp, zpow_natCast]
    exact_mod_cast hlow
  · have hexp : ((Nat.toDigits 10 c).length : Int) - 1 + e + 1 = (Nat.toDigits 10 c).length + e := by
      omega
    rw [hexp, zpow_add₀ hten, zpow_natCast]
    exact mul_lt_mul_of_pos_right (by exact_mod_cast hhigh) hunit

theorem exists_isNearest (hq : 0 < q) : ∃ x, IsNearest q x := by
  obtain ⟨n, hn⟩ := Int.eq_ofNat_of_zero_le (Rat.num_pos.mpr hq).le
  have hnum : 0 < n := by
    have := Rat.num_pos.mpr hq
    omega
  obtain ⟨x, hx, -⟩ := ofRatio_spec false hnum q.den_pos
  refine ⟨x, ?_⟩
  convert hx
  conv_lhs => rw [← Rat.num_div_den q, hn]
  rfl

theorem onGrid_ceiling : OnGrid ceiling := by
  refine ⟨2 ^ 52, 972, by norm_num, by norm_num, ?_⟩
  rw [ceiling_eq 52 972 (by decide), Int.cast_pow, Int.cast_ofNat, Nat.cast_ofNat]

/-- From the end of the format on everything is rounded to an infinity. -/
theorem isRounded_beyond (negative : Bool) (hq : ceiling ≤ q) :
    IsRounded (signed negative q) (if negative then ⊥ else ⊤) := by
  obtain ⟨x, hx⟩ := exists_isNearest (ceiling_pos.trans_le hq)
  have hceiling : ceiling ≤ x := (isNearest_self onGrid_ceiling).mono hx hq
  exact ⟨signed negative x, hx.signed negative, (clipped_signed hceiling).symm⟩

/-- What is nearer to zero than half the least number of the format is rounded to zero. -/
theorem isNearest_zero (hq : |q| < 2 ^ (-1075 : Int)) : IsNearest q 0 := by
  have hgrid : OnGrid 0 := ⟨0, -1074, by norm_num, le_rfl, by norm_num⟩
  -- any other number is farther away
  have hfar (y : Rat) (hy : OnGrid y) (hne : y ≠ 0) : |q - 0| < |q - y| := by
    obtain ⟨m, e, -, he, rfl⟩ := hy
    have hm : m ≠ 0 := by
      rintro rfl
      exact hne (by rw [Int.cast_zero, zero_mul])
    have hmantissa : (1 : Rat) ≤ |(m : Rat)| := by exact_mod_cast Int.one_le_abs hm
    have hunit : (2 : Rat) * 2 ^ (-1075 : Int) ≤ 2 ^ e := by
      rw [← two_zpow_succ]
      exact zpow_le_zpow_right₀ one_le_two (by omega)
    have hsize : (2 : Rat) ^ e ≤ |(m : Rat) * 2 ^ e| := by
      rw [abs_mul, abs_of_pos (by positivity : (0 : Rat) < 2 ^ e)]
      exact le_mul_of_one_le_left (by positivity) hmantissa
    have htriangle : |(m : Rat) * 2 ^ e| - |q| ≤ |q - m * 2 ^ e| := by
      rw [abs_sub_comm]
      exact abs_sub_abs_le_abs_sub _ _
    rw [sub_zero]
    linarith
  refine ⟨hgrid, fun y hy => ?_, fun y hy hne htie => ?_⟩
  · rcases eq_or_ne y 0 with rfl | hne
    · exact le_rfl
    · exact (hfar y hy hne).le
  · exact absurd htie (hfar y hy hne).ne'

theorem two_pow_le_ten_pow {a b : Nat} (h : 2 ^ a ≤ 10 ^ b) : (2 : Rat) ^ a ≤ 10 ^ b := by
  exact_mod_cast h

/-- A decimal number with more than 310 digits in front of the point is beyond the format. -/
theorem beyond_of_order (hc : 0 < c) (h : 310 < Decimal.order c e) : ceiling ≤ c * 10 ^ e := by
  have hpowers : (2 : Rat) ^ 1024 ≤ 10 ^ 311 := two_pow_le_ten_pow (by decide +kernel)
  have hten : (1 : Rat) ≤ 10 := by norm_num
  calc ceiling ≤ (10 : Rat) ^ 311 := hpowers
    _ = 10 ^ (311 : Int) := by rw [← zpow_natCast, Nat.cast_ofNat]
    _ ≤ 10 ^ Decimal.order c e := zpow_le_zpow_right₀ hten (by omega)
    _ ≤ c * 10 ^ e := (order_spec hc e).1

/-- One with more than 400 zeros behind the point is too small for it. -/
theorem tiny_of_order (hc : 0 < c) (h : Decimal.order c e < -400) :
    (c : Rat) * 10 ^ e < 2 ^ (-1075 : Int) := by
  have hpowers : (2 : Rat) ^ 1075 ≤ 10 ^ 400 := two_pow_le_ten_pow (by decide +kernel)
  have hten : (1 : Rat) ≤ 10 := by norm_num
  calc (c : Rat) * 10 ^ e < 10 ^ (Decimal.order c e + 1) := (order_spec hc e).2
    _ ≤ 10 ^ (-400 : Int) := zpow_le_zpow_right₀ hten (by omega)
    _ = (10 ^ 400)⁻¹ := by rw [zpow_neg, ← zpow_natCast, Nat.cast_ofNat]
    _ ≤ (2 ^ 1075)⁻¹ := inv_anti₀ (by positivity) hpowers
    _ = 2 ^ (-1075 : Int) := by rw [zpow_neg, ← zpow_natCast, Nat.cast_ofNat]

theorem isRounded_ofRatio (negative : Bool) {num den : Nat} (hnum : 0 < num) (hden : 0 < den)
    (hq : (num : Rat) / den = q) :
    ∃ s, (Number.float (Double.ofRatio negative num den)).value? = some s ∧
      IsRounded (signed negative q) s := by
  obtain ⟨x, hx, hvalue⟩ := ofRatio_spec negative hnum hden
  rw [hq] at hx
  exact ⟨_, hvalue, signed negative x, hx.signed negative, rfl⟩

theorem isRounded_zero : IsRounded 0 (Extended.point 0) :=
  isRounded_self ⟨0, 0, by norm_num, by norm_num, by norm_num⟩ (by rw [abs_zero]; exact ceiling_pos)

/-- **A decimal number is rounded to the nearest number of the format.** -/
theorem toDouble_spec (negative : Bool) (c : Nat) (e : Int) :
    ∃ s, (Number.float (Decimal.finite negative c e).toDouble).value? = some s ∧
      IsRounded (signed negative (c * 10 ^ e)) s := by
  have hzero (f : Int) : (Number.float (.finite negative 0 f)).value? = some (Extended.point 0) := by
    rw [finite_value, Nat.cast_zero, zero_mul, signed_zero]
  unfold Decimal.toDouble
  dsimp only
  split
  · rename_i hc
    refine ⟨_, hzero _, ?_⟩
    rw [hc, Nat.cast_zero, zero_mul, signed_zero]
    exact isRounded_zero
  · rename_i hc
    have hpos : 0 < c := Nat.pos_of_ne_zero hc
    split
    · rename_i hlarge
      exact ⟨_, infinite_value negative, isRounded_beyond negative (beyond_of_order hpos hlarge)⟩
    · split
      · rename_i hsmall
        have htiny : |signed negative (c * 10 ^ e)| < 2 ^ (-1075 : Int) := by
          rw [abs_signed, abs_of_nonneg (by positivity)]
          exact tiny_of_order hpos hsmall
        refine ⟨_, hzero _, 0, isNearest_zero htiny, ?_⟩
        rw [clipped_of_abs_lt (by rw [abs_zero]; exact ceiling_pos)]
      · split
        · rename_i he
          obtain ⟨n, rfl⟩ := Int.eq_ofNat_of_zero_le he
          refine isRounded_ofRatio negative (Nat.mul_pos hpos (Nat.pow_pos (by decide))) Nat.one_pos ?_
          rw [Int.toNat_natCast, zpow_natCast]
          push_cast
          rw [div_one]
        · rename_i he
          obtain ⟨n, rfl⟩ : ∃ n : Nat, e = -n := ⟨(-e).toNat, by omega⟩
          refine isRounded_ofRatio negative hpos (Nat.pow_pos (by decide)) ?_
          rw [neg_neg, Int.toNat_natCast, zpow_neg, zpow_natCast, div_eq_mul_inv]
          push_cast
          rfl

end Decimals

end FieldCheck
