import FieldCheck.Proofs.Rounding
import FieldCheck.Value.Same

/-!
# Numbers of all kinds on one line

Numbers are compared across their kinds by their exact values, a decimal number with the others by way of
scaled integers.  What is decided in this way is that both stand at the same place of the line.

* `Decimal.value?`, `Quantity.value?` — the place of a number; not-a-number has none.
* `Double.InFormat` — the numbers that the binary format has.
* `sameFinite_iff`, `isNat_iff`, `isDouble_iff` — comparisons of scaled integers, as equations of rationals.
* `Quantity.same_iff` — the comparison of two numbers, for every pair of kinds.

Principal result: `Quantity.same?_iff`.
-/

set_option autoImplicit false

namespace FieldCheck

/-! ## Places -/

/-- Where a decimal number is on the line, exactly; not-a-number is not on it. -/
def Decimal.value? : Decimal → Option Extended
  | .finite negative c e => some (Extended.point (signed negative (c * 10 ^ e)))
  | .infinite negative => some (if negative then ⊥ else ⊤)
  | .nan .. => none

/-- Where a number of any kind is on the line. -/
def Quantity.value? : Quantity → Option Extended
  | .int n => (Number.int n).value?
  | .float x => (Number.float x).value?
  | .decimal d => d.value?

/-- The mantissa and the exponent of a finite number are within the bounds of the format. -/
def Double.InFormat : Double → Prop
  | .finite _ m e => m < 2 ^ 53 ∧ -1074 ≤ e ∧ e ≤ 971
  | _ => True

/-- The numbers but for binary ones that the format does not have. -/
def Quantity.InFormat : Quantity → Prop
  | .float x => x.InFormat
  | _ => True

/-- Both are on the line, at one place. -/
def SamePlace (v w : Option Extended) : Prop := ∃ x, v = some x ∧ w = some x

section Places

variable {a b : Place} {m n : Number} {v w : Option Extended} {p q : Extended} {s t : Bool} {x y : Rat}

theorem SamePlace.comm : SamePlace v w ↔ SamePlace w v :=
  exists_congr fun _ => And.comm

@[simp] theorem samePlace_some_iff : SamePlace (some p) (some q) ↔ p = q := by
  simp [SamePlace, eq_comm]

@[simp] theorem not_samePlace_none : ¬SamePlace none w := by
  simp [SamePlace]

@[simp] theorem not_samePlace_none_right : ¬SamePlace v none := by
  simp [SamePlace]

theorem Place.same_eq_true_iff : a.same b = true ↔ SamePlace a.value? b.value? := by
  constructor
  · intro h
    cases ha : a.value? with
    | none => cases a <;> cases b <;> cases ha <;> cases h
    | some x =>
      cases hb : b.value? with
      | none => cases a <;> cases b <;> cases hb <;> cases h
      | some y => exact ⟨x, rfl, by rw [(Place.same_iff ha hb).mp h]⟩
  · rintro ⟨x, ha, hb⟩
    exact (Place.same_iff ha hb).mpr rfl

theorem Number.same_iff : m.same n = true ↔ SamePlace m.value? n.value? := Place.same_eq_true_iff

theorem int_eq_signed (n : Int) : (n : Rat) = signed (decide (n < 0)) n.natAbs := by
  rcases lt_or_ge n 0 with hn | hn
  · have habs : (n.natAbs : Int) = -n := by omega
    have hcast : ((n.natAbs : Nat) : Rat) = -n := by rw [← Int.cast_natCast, habs, Int.cast_neg]
    rw [decide_eq_true hn, signed, if_pos rfl, hcast, neg_neg]
  · have habs : (n.natAbs : Int) = n := by omega
    have hcast : ((n.natAbs : Nat) : Rat) = n := by rw [← Int.cast_natCast, habs]
    rw [decide_eq_false (by omega), signed, if_neg (by decide), hcast]

theorem point_inj : Extended.point x = Extended.point y ↔ x = y := by
  rw [WithBot.coe_inj, WithTop.coe_inj]

theorem point_ne_end (x : Rat) (s : Bool) : Extended.point x ≠ if s then ⊥ else ⊤ := by
  cases s
  · exact (Extended.point_lt_top x).ne
  · exact WithBot.coe_ne_bot

theorem ends_inj : (if s then ⊥ else ⊤ : Extended) = (if t then ⊥ else ⊤) ↔ s = t := by
  cases s <;> cases t <;> simp

/-- Rationals with signs agree if their sizes do, and their signs unless they are zero. -/
theorem signed_inj (hx : 0 ≤ x) (hy : 0 ≤ y) :
    signed s x = signed t y ↔ x = y ∧ (y = 0 ∨ s = t) := by
  unfold signed
  cases s <;> cases t <;> simp
  · constructor
    · intro h
      constructor <;> linarith
    · rintro ⟨rfl, rfl⟩
      exact neg_zero.symm
  · constructor
    · intro h
      constructor <;> linarith
    · rintro ⟨rfl, rfl⟩
      exact neg_zero

/-- The comparison of two finite numbers by their sizes, and by their signs unless they are zero. -/
theorem samePlace_finite {sizes signs zero : Bool} (hx : 0 ≤ x) (hy : 0 ≤ y)
    (hsizes : sizes = true ↔ x = y) (hsigns : signs = true ↔ s = t) (hzero : zero = true ↔ y = 0) :
    (sizes && (zero || signs)) = true ↔
      SamePlace (some (Extended.point (signed s x))) (some (Extended.point (signed t y))) := by
  rw [samePlace_some_iff, point_inj, signed_inj hx hy, Bool.and_eq_true, Bool.or_eq_true, hsizes, hsigns,
    hzero]

end Places

/-! ## Scaled integers -/

section Scaled

variable {c c' m n : Nat} {e e' x : Int}

/-- Only zero is zero whatever the exponent. -/
theorem zero_scaled_iff : (0 : Rat) = c * 10 ^ e ↔ c = 0 := by
  have hunit : (10 : Rat) ^ e ≠ 0 := by positivity
  rw [eq_comm, mul_eq_zero, or_iff_left hunit, Nat.cast_eq_zero]

/-- Numbers of the same value have their first digits at the same place. -/
theorem order_eq (hc : 0 < c) (hc' : 0 < c') (h : (c : Rat) * 10 ^ e = c' * 10 ^ e') :
    Decimal.order c e = Decimal.order c' e' := by
  obtain ⟨hlow, hhigh⟩ := order_spec hc e
  obtain ⟨hlow', hhigh'⟩ := order_spec hc' e'
  have hten : (1 : Rat) < 10 := by norm_num
  have hle := (zpow_lt_zpow_iff_right₀ hten).mp (hlow.trans_lt (h ▸ hhigh'))
  have hge := (zpow_lt_zpow_iff_right₀ hten).mp (hlow'.trans_lt (h ▸ hhigh))
  omega

/-- The number with the greater exponent is scaled to the lesser one. -/
theorem scaled_eq_iff (h : e ≤ e') :
    (c : Rat) * 10 ^ e = c' * 10 ^ e' ↔ c = c' * 10 ^ (e' - e).toNat := by
  obtain ⟨k, rfl⟩ : ∃ k : Nat, e' = e + k := ⟨(e' - e).toNat, by omega⟩
  have hunit : (10 : Rat) ^ e ≠ 0 := by positivity
  have hshift : (e + k - e).toNat = k := by omega
  rw [hshift, zpow_add₀ (by norm_num : (10 : Rat) ≠ 0), zpow_natCast, mul_comm ((10 : Rat) ^ e),
    ← mul_assoc, mul_left_inj' hunit]
  exact_mod_cast Iff.rfl

theorem sameFinite_iff : Decimal.sameFinite c e c' e' = true ↔ (c : Rat) * 10 ^ e = c' * 10 ^ e' := by
  unfold Decimal.sameFinite
  rcases Nat.eq_zero_or_pos c with rfl | hc
  · rw [Nat.cast_zero, zero_mul (10 ^ e : Rat), zero_scaled_iff]
    simp
  rcases Nat.eq_zero_or_pos c' with rfl | hc'
  · rw [Nat.cast_zero, zero_mul (10 ^ e' : Rat), eq_comm (b := (0 : Rat)), zero_scaled_iff]
    simp
  rw [if_neg (by simp [hc.ne', hc'.ne'])]
  by_cases horder : Decimal.order c e = Decimal.order c' e'
  · rw [if_neg (not_not.mpr horder)]
    rcases le_or_gt e e' with hle | hgt
    · rw [if_pos hle, decide_eq_true_iff, scaled_eq_iff hle]
    · rw [if_neg hgt.not_ge, decide_eq_true_iff, eq_comm, eq_comm (b := (c' : Rat) * 10 ^ e'),
        scaled_eq_iff hgt.le]
  · rw [if_pos horder]
    exact iff_of_false Bool.false_ne_true fun h => horder (order_eq hc hc' h)

/-- To be a natural number is to be the decimal number without point that it is. -/
theorem isNat_eq_sameFinite : Decimal.isNat c e n = Decimal.sameFinite c e n 0 := by
  have horder : ((Nat.toDigits 10 n).length : Int) - 1 = Decimal.order n 0 := by
    rw [Decimal.order, add_zero]
  unfold Decimal.isNat Decimal.sameFinite
  rw [horder, sub_zero, zero_sub]
  rcases lt_trichotomy e 0 with hneg | rfl | hpos
  · rw [if_neg hneg.not_ge, if_pos hneg.le]
  · rw [if_pos le_rfl, if_pos le_rfl, Int.toNat_zero, neg_zero, Int.toNat_zero, pow_zero, mul_one,
      mul_one]
  · rw [if_pos hpos.le, if_neg hpos.not_ge]

theorem isNat_iff : Decimal.isNat c e n = true ↔ (c : Rat) * 10 ^ e = n := by
  rw [isNat_eq_sameFinite, sameFinite_iff, zpow_zero, mul_one]

theorem zpow_eq_div {b : Rat} (hb : b ≠ 0) (e : Int) : b ^ e = b ^ e.toNat / b ^ (-e).toNat := by
  rw [← zpow_natCast, ← zpow_natCast, ← zpow_sub₀ hb]
  congr 1
  omega

theorem isDouble_iff (hm : m < 2 ^ 53) (hlow : -1074 ≤ x) (hhigh : x ≤ 971) :
    Decimal.isDouble c e m x = true ↔ (c : Rat) * 10 ^ e = m * 2 ^ x := by
  have hbase : (2 : Rat) ^ x ≠ 0 := by positivity
  unfold Decimal.isDouble
  rcases Nat.eq_zero_or_pos c with rfl | hc
  · rw [Nat.cast_zero, zero_mul (10 ^ e : Rat), eq_comm (a := (0 : Rat)), mul_eq_zero,
      or_iff_left hbase, Nat.cast_eq_zero]
    simp
  rcases Nat.eq_zero_or_pos m with rfl | hpos
  · rw [Nat.cast_zero, zero_mul (2 ^ x : Rat), eq_comm (b := (0 : Rat)), zero_scaled_iff]
    simp
  rw [if_neg (by simp [hc.ne', hpos.ne'])]
  split
  · rename_i hfar
    refine iff_of_false Bool.false_ne_true fun h => ?_
    rw [Bool.or_eq_true, decide_eq_true_iff, decide_eq_true_iff] at hfar
    rcases hfar with hlarge | hsmall
    · exact ((beyond_of_order hc hlarge).trans_eq h).not_gt (lt_ceiling hm hhigh)
    · have hleast : (2 : Rat) ^ (-1075 : Int) ≤ m * 2 ^ x :=
        calc (2 : Rat) ^ (-1075 : Int) ≤ 2 ^ x := zpow_le_zpow_right₀ one_le_two (by omega)
          _ ≤ m * 2 ^ x := le_mul_of_one_le_left (by positivity) (by exact_mod_cast hpos)
      exact (h ▸ tiny_of_order hc hsmall).not_ge hleast
  · rw [decide_eq_true_iff, zpow_eq_div (by norm_num : (10 : Rat) ≠ 0) e,
      zpow_eq_div (by norm_num : (2 : Rat) ≠ 0) x, ← mul_div_assoc, ← mul_div_assoc,
      div_eq_div_iff (by positivity) (by positivity)]
    exact_mod_cast Iff.rfl

end Scaled

/-! ## Comparisons -/

section Comparisons

variable {d d' : Decimal} {n : Int} {x : Double} {q q' : Quantity}

theorem Decimal.isInt_iff : d.isInt n = true ↔ SamePlace d.value? (Number.int n).value? := by
  rw [int_value, int_eq_signed]
  cases d with
  | finite negative c e =>
    refine samePlace_finite (by positivity) (Nat.cast_nonneg _) isNat_iff ?_ ?_
    · rw [beq_iff_eq, eq_comm]
    · rw [beq_iff_eq, Nat.cast_eq_zero, Int.natAbs_eq_zero]
  | infinite negative =>
    rw [Decimal.value?, samePlace_some_iff]
    exact iff_of_false Bool.false_ne_true (point_ne_end _ _).symm
  | nan => exact iff_of_false Bool.false_ne_true not_samePlace_none

theorem Decimal.isBinary_iff (hx : x.InFormat) :
    d.isBinary x = true ↔ SamePlace d.value? (Number.float x).value? := by
  cases d with
  | finite negative c e =>
    cases x with
    | finite negative' m f =>
      obtain ⟨hm, hlow, hhigh⟩ := hx
      rw [finite_value]
      refine samePlace_finite (by positivity) (by positivity) (isDouble_iff hm hlow hhigh) beq_iff_eq ?_
      rw [beq_iff_eq, mul_eq_zero, Nat.cast_eq_zero, or_iff_left (by positivity)]
    | infinite negative' =>
      rw [infinite_value, Decimal.value?, samePlace_some_iff]
      exact iff_of_false Bool.false_ne_true (point_ne_end _ _)
    | nan => exact iff_of_false Bool.false_ne_true not_samePlace_none_right
  | infinite negative =>
    cases x with
    | finite negative' m f =>
      rw [finite_value, Decimal.value?, samePlace_some_iff]
      exact iff_of_false Bool.false_ne_true (point_ne_end _ _).symm
    | infinite negative' =>
      rw [infinite_value, Decimal.value?, samePlace_some_iff, ends_inj]
      exact beq_iff_eq
    | nan => exact iff_of_false Bool.false_ne_true not_samePlace_none_right
  | nan => exact iff_of_false (by cases x <;> exact Bool.false_ne_true) not_samePlace_none

theorem Decimal.same_iff : d.same d' = true ↔ SamePlace d.value? d'.value? := by
  cases d with
  | finite negative c e =>
    cases d' with
    | finite negative' c' e' =>
      rw [SamePlace.comm]
      refine samePlace_finite (by positivity) (by positivity) (sameFinite_iff.trans eq_comm) ?_ ?_
      · rw [beq_iff_eq, eq_comm]
      · exact beq_iff_eq.trans (zero_scaled_iff.symm.trans eq_comm)
    | infinite negative' => exact iff_of_false Bool.false_ne_true (by simp [Decimal.value?, point_ne_end])
    | nan => exact iff_of_false Bool.false_ne_true not_samePlace_none_right
  | infinite negative =>
    cases d' with
    | finite negative' c' e' =>
      exact iff_of_false Bool.false_ne_true (by simp [Decimal.value?, (point_ne_end _ _).symm])
    | infinite negative' =>
      rw [Decimal.value?, Decimal.value?, samePlace_some_iff, ends_inj]
      exact beq_iff_eq
    | nan => exact iff_of_false Bool.false_ne_true not_samePlace_none_right
  | nan => exact iff_of_false (by cases d' <;> exact Bool.false_ne_true) not_samePlace_none

theorem Quantity.same_iff (hq : q.InFormat) (hq' : q'.InFormat) :
    q.same q' = true ↔ SamePlace q.value? q'.value? := by
  cases q with
  | int n =>
    cases q' with
    | int n' =>
      refine beq_iff_eq.trans ?_
      rw [Quantity.value?, Quantity.value?, int_value, int_value, samePlace_some_iff, point_inj,
        Int.cast_inj]
    | float x => exact Number.same_iff
    | decimal d => exact Decimal.isInt_iff.trans SamePlace.comm
  | float x =>
    cases q' with
    | int n => exact Number.same_iff.trans SamePlace.comm
    | float x' => exact Number.same_iff
    | decimal d => exact (Decimal.isBinary_iff hq).trans SamePlace.comm
  | decimal d =>
    cases q' with
    | int n => exact Decimal.isInt_iff
    | float x => exact Decimal.isBinary_iff hq'
    | decimal d' => exact Decimal.same_iff

theorem Quantity.value?_of_signals (h : q.signals = true) : q.value? = none := by
  cases q with
  | int => cases h
  | float => cases h
  | decimal d =>
    cases d with
    | finite => cases h
    | infinite => cases h
    | nan => rfl

/-- **Two numbers are the same just if they stand at one place of the line**, whatever their kinds are; what
signals is on the line as little as any other number that is none. -/
theorem Quantity.same?_iff (hq : q.InFormat) (hq' : q'.InFormat) :
    q.same? q' = some true ↔ SamePlace q.value? q'.value? := by
  unfold Quantity.same?
  split
  · rename_i hsignals
    refine iff_of_false (fun h => by cases h) ?_
    rcases Bool.or_eq_true_iff.mp hsignals with hleft | hright
    · rw [Quantity.value?_of_signals hleft]
      exact not_samePlace_none
    · rw [Quantity.value?_of_signals hright]
      exact not_samePlace_none_right
  · rw [Option.some.injEq, Quantity.same_iff hq hq']

end Comparisons

end FieldCheck
