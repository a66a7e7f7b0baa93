import FieldCheck.Proofs.Names
import Mathlib.Algebra.Order.Ring.Unbundled.Rat
import Mathlib.Order.WithBot

/-!
# Sizes and bounds on one line

The rules for sizes compare integers with binary numbers.  Each number but the one that is none has an
exact place on the line of the rationals with its two ends, and the rules go by these places.

* `Passes`, `Fails`, `Decides` — what a standard rule answers, its defaults filled in.
* `Number.value?`, `Number.lt_iff`, `Number.le_iff` — the place of a number, and the order of places.
* `exists_value_of_number?`, `exists_value_of_sizeOf` — neither a bound nor a size is not-a-number.
* `standardAnswer?_max_args`, `standardAnswer?_min_args`, `standardAnswer?_between_args` — what the rules
  answer, whatever their arguments are.
* `standardAnswer?_max`, `standardAnswer?_min`, `standardAnswer?_between` — the same for one of the modes.
* `decides_max`, `decides_min`, `decides_between` — the rules as comparisons.
* `SizesInOrder` — the laws that tie the three rules to each other.

Principal result: `sizes_in_order`.
-/

set_option autoImplicit false

namespace FieldCheck

/-! ## Answers of the standard rules -/

section Answers

variable {name : String} {v : Value} {args : List Value} {c : Context} {p : Prop}

/-- What the standard rule of a name answers, with its defaults behind the arguments. -/
def standardAnswer? (name : String) (v : Value) (args : List Value) (c : Context) :
    Option (Except Crash Value) :=
  (Registry.standard.lookup name).map fun e => (e.predicate v (e.fillArgs args) c).result

/-- A standard rule answers yes or no, or it crashes. -/
theorem standardAnswer?_of_mem {b : StandardRule} (hb : b ∈ standardRules) (v : Value)
    (args : List Value) (c : Context) :
    standardAnswer? b.name v args c =
      some ((b.check v (b.entry.fillArgs args) c).map Value.bool) := by
  rw [standardAnswer?, Registry.lookup, Registry.find?_standard hb]
  rfl

/-- The rule passes. -/
def Passes (name : String) (v : Value) (args : List Value) (c : Context) : Prop :=
  standardAnswer? name v args c = some (.ok (.bool true))

/-- The rule answers, and does not pass. -/
def Fails (name : String) (v : Value) (args : List Value) (c : Context) : Prop :=
  standardAnswer? name v args c = some (.ok (.bool false))

/-- The rule answers whether a statement holds. -/
structure Decides (name : String) (v : Value) (args : List Value) (c : Context) (p : Prop) : Prop where
  passes : Passes name v args c ↔ p
  fails : Fails name v args c ↔ ¬p

theorem decides_of_answer {answer : Bool}
    (h : standardAnswer? name v args c = some (.ok (.bool answer))) (hp : answer = true ↔ p) :
    Decides name v args c p where
  passes := by
    rw [Passes, h, ← hp]
    simp
  fails := by
    rw [Fails, h, ← hp, Bool.not_eq_true]
    simp

end Answers

/-! ## The line -/

/-- The rationals, with an end on either side. -/
abbrev Extended := WithBot (WithTop Rat)

/-- A rational as a point of the line. -/
abbrev Extended.point (q : Rat) : Extended := ((q : WithTop Rat) : Extended)

/-- Where a place is on the line. -/
def Place.value? : Place → Option Extended
  | .bottom => some ⊥
  | .point d => some (Extended.point d.toRat)
  | .top => some ⊤
  | .nowhere => none

/-- Where a number is on the line, exactly; not-a-number is not on it. -/
def Number.value? (n : Number) : Option Extended := n.place.value?

section Line

variable {a b : Place} {m n : Number} {x y : Extended}

theorem Extended.point_lt_top (q : Rat) : Extended.point q < ⊤ :=
  WithBot.coe_lt_coe.mpr (WithTop.coe_lt_top q)

theorem Place.lt_iff (ha : a.value? = some x) (hb : b.value? = some y) :
    a.lt b = true ↔ x < y := by
  cases a <;> cases b <;> cases ha <;> cases hb <;>
    simp [Place.lt, Dyadic.toRat_lt_toRat_iff, Extended.point_lt_top]

theorem Place.same_iff (ha : a.value? = some x) (hb : b.value? = some y) :
    a.same b = true ↔ x = y := by
  cases a <;> cases b <;> cases ha <;> cases hb <;>
    simp [Place.same, Dyadic.toRat_inj]

theorem Number.lt_iff (hm : m.value? = some x) (hn : n.value? = some y) :
    m.lt n = true ↔ x < y :=
  Place.lt_iff hm hn

theorem Number.le_iff (hm : m.value? = some x) (hn : n.value? = some y) :
    m.le n = true ↔ x ≤ y := by
  rw [Number.le, Bool.or_eq_true, Number.lt_iff hm hn, Number.same, Place.same_iff hm hn,
    le_iff_lt_or_eq]

end Line

/-! ## Never not-a-number -/

theorem ofRatio_isNaN (negative : Bool) (num den : Nat) :
    (Double.ofRatio negative num den).isNaN = false := by
  unfold Double.ofRatio
  split
  · rfl
  · dsimp only
    split_ifs <;> rfl

theorem toDouble_isNaN (d : Decimal) : d.toDouble.isNaN = d.isNaN := by
  cases d with
  | nan => rfl
  | infinite => rfl
  | finite negative c e =>
    unfold Decimal.toDouble
    dsimp only
    split_ifs
    · rfl
    · rfl
    · rfl
    · exact ofRatio_isNaN _ _ _
    · exact ofRatio_isNaN _ _ _

theorem Double.exists_value {x : Double} (h : x.isNaN = false) :
    ∃ y, (Number.float x).value? = some y := by
  cases x with
  | nan => cases h
  | infinite negative => cases negative <;> exact ⟨_, rfl⟩
  | finite => exact ⟨_, rfl⟩

section Sizes

variable {v : Value} {n : Number} {mode : Rules.SizeMode}

theorem exists_value_of_ofDecimal? {d : Decimal} (h : Number.ofDecimal? d = some n) :
    ∃ x, n.value? = some x := by
  unfold Number.ofDecimal? at h
  split at h
  · cases h
  · rename_i hnan
    cases h
    exact Double.exists_value (by rw [toDouble_isNaN]; simpa using hnan)

/-- No value is read as not-a-number. -/
theorem exists_value_of_number? (h : v.number? = some n) : ∃ x, n.value? = some x := by
  cases v with
  | int k =>
    cases h
    exact ⟨_, rfl⟩
  | float x =>
    simp only [Value.number?, Number.ofDouble?] at h
    split at h
    · cases h
    · rename_i hnan
      cases h
      exact Double.exists_value (by simpa using hnan)
  | decimal d => exact exists_value_of_ofDecimal? h
  | text s =>
    simp only [Value.number?, Number.ofText?] at h
    split at h
    · cases h
      exact ⟨_, rfl⟩
    · split at h
      · exact exists_value_of_ofDecimal? h
      · cases h
  | _ => cases h

/-- A size is a length, or the number that the value is or writes. -/
theorem sizeOf_cases (h : Rules.sizeOf mode v = some n) :
    (∃ k, n = Rules.lengthNumber k) ∨ v.number? = some n := by
  unfold Rules.sizeOf at h
  split at h
  · rename_i s
    cases mode with
    | length => exact Or.inl ⟨_, (Option.some.inj h).symm⟩
    | value => exact Or.inr h
    | suited =>
      cases hs : (Value.text s).number? with
      | none => exact Or.inl ⟨_, by rw [hs] at h; exact (Option.some.inj h).symm⟩
      | some k => exact Or.inr (by rw [hs] at h; exact h)
  · cases h
  · split at h
    · rename_i k hk
      split at h
      · exact Or.inl ⟨_, (Option.some.inj h).symm⟩
      · exact Or.inr (hk.trans h)
    · obtain ⟨k, -, hk⟩ := Option.map_eq_some_iff.mp h
      exact Or.inl ⟨k, hk.symm⟩

/-- No size is not-a-number. -/
theorem exists_value_of_sizeOf (h : Rules.sizeOf mode v = some n) : ∃ x, n.value? = some x := by
  rcases sizeOf_cases h with ⟨k, rfl⟩ | hnumber
  · exact ⟨_, rfl⟩
  · exact exists_value_of_number? hnumber

end Sizes

/-! ## The rules as comparisons -/

namespace Rules

/-- The mode as an argument. -/
def SizeMode.argument : SizeMode → Value
  | .suited => .absent
  | .length => .text "length"
  | .value => .text "value"

/-- What is written behind the bounds for a mode. -/
def SizeMode.arguments : SizeMode → List Value
  | .suited => []
  | mode => [mode.argument]

theorem measure_argument (v : Value) (mode : SizeMode) (c : Context) :
    measure v mode.argument c = .ok (sizeOf mode v) := by
  cases mode <;> rfl

section AnyArguments

variable (v : Value) {lo hi : Value} (args : List Value) (c : Context)

/-- A rule with one bound reads the bound and then the mode, and then it compares. -/
theorem bounded_eq (rule : String) (test : Number → Number → Bool) {limit mode : Value}
    (hlimit : args[0]? = some limit) (hmode : args[1]? = some mode) :
    bounded rule test v args c =
      (bound rule limit c).bind fun n =>
        (measure v mode c).map fun size => size.any fun s => test s n := by
  simp only [bounded, argument, hlimit, hmode, bind, Except.bind, pure, Except.pure]
  cases bound rule limit c with
  | error => rfl
  | ok n =>
    cases measure v mode c with
    | error => rfl
    | ok size => cases size <;> rfl

theorem filled_limit (limit mode : Value) :
    (args ++ [limit, mode].drop args.length)[0]? = some (args[0]?.getD limit) ∧
      (args ++ [limit, mode].drop args.length)[1]? = some (args[1]?.getD mode) := by
  match args with
  | [] => exact ⟨rfl, rfl⟩
  | [_] => exact ⟨rfl, rfl⟩
  | _ :: _ :: _ => exact ⟨rfl, rfl⟩

theorem standardAnswer?_bounded {name : String} {test : Number → Number → Bool} {limit mode : Value}
    (h : { name, check := bounded name test, defaults := [limit, mode] } ∈ standardRules) :
    standardAnswer? name v args c =
      some ((bound name (args[0]?.getD limit) c).bind fun n =>
        (measure v (args[1]?.getD mode) c).map fun size => .bool (size.any fun s => test s n)) := by
  obtain ⟨hlimit, hmode⟩ := filled_limit args limit mode
  rw [standardAnswer?_of_mem h]
  show some ((bounded name test v (args ++ [limit, mode].drop args.length) c).map Value.bool) = _
  rw [bounded_eq v _ c name test hlimit hmode]
  cases bound name (args[0]?.getD limit) c with
  | error => rfl
  | ok n => cases measure v (args[1]?.getD mode) c <;> rfl

theorem standardAnswer?_max_args :
    standardAnswer? "max" v args c =
      some ((bound "max" (args[0]?.getD (.int 10)) c).bind fun n =>
        (measure v (args[1]?.getD .absent) c).map fun size => .bool (size.any fun s => s.le n)) :=
  standardAnswer?_bounded v args c (by simp [standardRules, atMost])

theorem standardAnswer?_min_args :
    standardAnswer? "min" v args c =
      some ((bound "min" (args[0]?.getD (.int 1)) c).bind fun n =>
        (measure v (args[1]?.getD .absent) c).map fun size => .bool (size.any fun s => n.le s)) :=
  standardAnswer?_bounded v args c (by simp [standardRules, atLeast])

theorem standardAnswer?_between_args (hlo : args[0]? = some lo) (hhi : args[1]? = some hi) :
    standardAnswer? "between" v args c =
      some ((bound "between" lo c).bind fun m => (bound "between" hi c).bind fun n =>
        (measure v (args[2]?.getD .absent) c).map fun size =>
          .bool (size.any fun s => m.lt s && s.lt n)) := by
  obtain ⟨rest, rfl⟩ : ∃ rest, args = lo :: hi :: rest := by
    match args, hlo, hhi with
    | _ :: _ :: rest, hlo, hhi =>
      cases hlo
      cases hhi
      exact ⟨rest, rfl⟩
  have hrule : standardAnswer? "between" v (lo :: hi :: rest) c =
      some ((between v ((lo :: hi :: rest) ++ [].drop (lo :: hi :: rest).length) c).map Value.bool) :=
    rfl
  have hmode : (lo :: hi :: rest)[2]?.getD .absent = rest.headD .absent := by cases rest <;> rfl
  rw [hrule, List.drop_nil, List.append_nil, hmode]
  simp only [between, bind, Except.bind, pure, Except.pure]
  cases bound "between" lo c with
  | error => rfl
  | ok m =>
    cases bound "between" hi c with
    | error => rfl
    | ok n =>
      cases measure v (rest.headD .absent) c with
      | error => rfl
      | ok size => cases size <;> rfl

/-- There are no defaults for the bounds of `between`. -/
theorem standardAnswer?_between_few (h : args.length < 2) :
    standardAnswer? "between" v args c = some (.error .missingBounds) := by
  match args, h with
  | [], _ => rfl
  | [_], _ => rfl

end AnyArguments

section Answers

variable {v b lo hi : Value} {m n : Number} (mode : SizeMode) (c : Context)

theorem bound_eq_ok {rule : String} {c : Context} (hb : b.number? = some n) : bound rule b c = .ok n := by
  rw [bound, hb]

theorem standardAnswer?_max :
    standardAnswer? "max" v (b :: mode.arguments) c =
      some ((bound "max" b c).map fun n => .bool ((sizeOf mode v).any fun s => s.le n)) := by
  have hmode : (b :: mode.arguments)[1]?.getD .absent = mode.argument := by cases mode <;> rfl
  rw [standardAnswer?_max_args, hmode, measure_argument, List.getElem?_cons_zero, Option.getD_some]
  cases bound "max" b c <;> rfl

theorem standardAnswer?_min :
    standardAnswer? "min" v (b :: mode.arguments) c =
      some ((bound "min" b c).map fun n => .bool ((sizeOf mode v).any fun s => n.le s)) := by
  have hmode : (b :: mode.arguments)[1]?.getD .absent = mode.argument := by cases mode <;> rfl
  rw [standardAnswer?_min_args, hmode, measure_argument, List.getElem?_cons_zero, Option.getD_some]
  cases bound "min" b c <;> rfl

theorem standardAnswer?_between :
    standardAnswer? "between" v (lo :: hi :: mode.arguments) c =
      some ((bound "between" lo c).bind fun m => (bound "between" hi c).map fun n =>
        .bool ((sizeOf mode v).any fun s => m.lt s && s.lt n)) := by
  have hmode : (lo :: hi :: mode.arguments)[2]?.getD .absent = mode.argument := by cases mode <;> rfl
  rw [standardAnswer?_between_args v _ c rfl rfl, hmode, measure_argument]
  cases bound "between" lo c with
  | error => rfl
  | ok m => cases bound "between" hi c <;> rfl

theorem answer_max (hb : b.number? = some n) :
    standardAnswer? "max" v (b :: mode.arguments) c =
      some (.ok (.bool ((sizeOf mode v).any fun s => s.le n))) := by
  rw [standardAnswer?_max, bound_eq_ok hb]
  rfl

theorem answer_min (hb : b.number? = some n) :
    standardAnswer? "min" v (b :: mode.arguments) c =
      some (.ok (.bool ((sizeOf mode v).any fun s => n.le s))) := by
  rw [standardAnswer?_min, bound_eq_ok hb]
  rfl

theorem answer_between (hlo : lo.number? = some m) (hhi : hi.number? = some n) :
    standardAnswer? "between" v (lo :: hi :: mode.arguments) c =
      some (.ok (.bool ((sizeOf mode v).any fun s => m.lt s && s.lt n))) := by
  rw [standardAnswer?_between, bound_eq_ok hlo, bound_eq_ok hhi]
  rfl

end Answers

end Rules

/-- The number that a value is or writes stands at a place of the line. -/
def Value.StandsAt (v : Value) (x : Extended) : Prop := ∃ n, v.number? = some n ∧ n.value? = some x

namespace Rules

section Order

variable {v b lo hi : Value} {mode : SizeMode} {c : Context} {n : Number} {s x y : Extended}

theorem decides_max (hsize : sizeOf mode v = some n) (hn : n.value? = some s) (hb : b.StandsAt x) :
    Decides "max" v (b :: mode.arguments) c (s ≤ x) := by
  obtain ⟨m, hm, hx⟩ := hb
  refine decides_of_answer (answer_max mode c hm) ?_
  rw [hsize, Option.any_some, Number.le_iff hn hx]

theorem decides_min (hsize : sizeOf mode v = some n) (hn : n.value? = some s) (hb : b.StandsAt x) :
    Decides "min" v (b :: mode.arguments) c (x ≤ s) := by
  obtain ⟨m, hm, hx⟩ := hb
  refine decides_of_answer (answer_min mode c hm) ?_
  rw [hsize, Option.any_some, Number.le_iff hx hn]

theorem decides_between (hsize : sizeOf mode v = some n) (hn : n.value? = some s)
    (hlo : lo.StandsAt x) (hhi : hi.StandsAt y) :
    Decides "between" v (lo :: hi :: mode.arguments) c (x < s ∧ s < y) := by
  obtain ⟨l, hl, hx⟩ := hlo
  obtain ⟨h, hh, hy⟩ := hhi
  refine decides_of_answer (answer_between mode c hl hh) ?_
  rw [hsize, Option.any_some, Bool.and_eq_true, Number.lt_iff hx hn, Number.lt_iff hn hy]

/-- The laws of the rules for a value whose size stands at `s`, and for bounds at `x` and `y`. -/
structure SizesInOrder (v lo hi : Value) (mode : SizeMode) (c : Context) (s x y : Extended) : Prop where
  /-- Each rule is an exact comparison. -/
  max : Decides "max" v (hi :: mode.arguments) c (s ≤ y)
  min : Decides "min" v (lo :: mode.arguments) c (x ≤ s)
  between : Decides "between" v (lo :: hi :: mode.arguments) c (x < s ∧ s < y)
  /-- Between two bounds is above the one and below the other. -/
  inside : Passes "between" v (lo :: hi :: mode.arguments) c ↔
    Fails "max" v (lo :: mode.arguments) c ∧ Fails "min" v (hi :: mode.arguments) c
  /-- One bound leaves no size out, and only the size at the bound is on both sides. -/
  covered : Passes "min" v (lo :: mode.arguments) c ∨ Passes "max" v (lo :: mode.arguments) c
  both : Passes "min" v (lo :: mode.arguments) c ∧ Passes "max" v (lo :: mode.arguments) c ↔ s = x
  /-- A higher upper bound lets no less pass. -/
  raised : ∀ (hi' : Value) (y' : Extended), hi'.StandsAt y' → y ≤ y' →
    (Passes "max" v (hi :: mode.arguments) c → Passes "max" v (hi' :: mode.arguments) c) ∧
    (Passes "between" v (lo :: hi :: mode.arguments) c →
      Passes "between" v (lo :: hi' :: mode.arguments) c)
  /-- Nor does a lower one. -/
  lowered : ∀ (lo' : Value) (x' : Extended), lo'.StandsAt x' → x' ≤ x →
    (Passes "min" v (lo :: mode.arguments) c → Passes "min" v (lo' :: mode.arguments) c) ∧
    (Passes "between" v (lo :: hi :: mode.arguments) c →
      Passes "between" v (lo' :: hi :: mode.arguments) c)

/-- All laws are those of a linear order. -/
theorem sizesInOrder (hsize : sizeOf mode v = some n) (hn : n.value? = some s) (hlo : lo.StandsAt x)
    (hhi : hi.StandsAt y) : SizesInOrder v lo hi mode c s x y where
  max := decides_max hsize hn hhi
  min := decides_min hsize hn hlo
  between := decides_between hsize hn hlo hhi
  inside := by
    rw [(decides_between hsize hn hlo hhi).passes, (decides_max hsize hn hlo).fails,
      (decides_min hsize hn hhi).fails, not_le, not_le]
  covered := by
    rw [(decides_min hsize hn hlo).passes, (decides_max hsize hn hlo).passes]
    exact le_total x s
  both := by
    rw [(decides_min hsize hn hlo).passes, (decides_max hsize hn hlo).passes, and_comm]
    exact le_antisymm_iff.symm
  raised := by
    intro hi' y' hhi' hy
    rw [(decides_max hsize hn hhi).passes, (decides_max hsize hn hhi').passes,
      (decides_between hsize hn hlo hhi).passes, (decides_between hsize hn hlo hhi').passes]
    exact ⟨fun h => h.trans hy, fun h => ⟨h.1, h.2.trans_le hy⟩⟩
  lowered := by
    intro lo' x' hlo' hx
    rw [(decides_min hsize hn hlo).passes, (decides_min hsize hn hlo').passes,
      (decides_between hsize hn hlo hhi).passes, (decides_between hsize hn hlo' hhi).passes]
    exact ⟨hx.trans, fun h => ⟨hx.trans_lt h.1, h.2⟩⟩

theorem standsAt_of_number? {l : Number} (h : b.number? = some l) : ∃ x, b.StandsAt x := by
  obtain ⟨x, hx⟩ := exists_value_of_number? h
  exact ⟨x, l, h, hx⟩

/-- **The rules for sizes go by one order.**  Bounds stand on the line.  A value that has no size fails
each rule; the size of any other stands on the line too, and the rules compare it with the bounds. -/
theorem sizes_in_order (v : Value) (mode : SizeMode) (c : Context) {lo hi : Value}
    (hlo : lo.number?.isSome = true) (hhi : hi.number?.isSome = true) :
    ∃ x y, lo.StandsAt x ∧ hi.StandsAt y ∧
      ((measure v mode.argument c = .ok none ∧ Fails "min" v (lo :: mode.arguments) c ∧
          Fails "max" v (hi :: mode.arguments) c ∧
          Fails "between" v (lo :: hi :: mode.arguments) c) ∨
        ∃ n s, measure v mode.argument c = .ok (some n) ∧ n.value? = some s ∧
          SizesInOrder v lo hi mode c s x y) := by
  obtain ⟨l, hl⟩ := Option.isSome_iff_exists.mp hlo
  obtain ⟨h, hh⟩ := Option.isSome_iff_exists.mp hhi
  obtain ⟨x, hx⟩ := standsAt_of_number? hl
  obtain ⟨y, hy⟩ := standsAt_of_number? hh
  refine ⟨x, y, hx, hy, ?_⟩
  rw [measure_argument]
  cases hsize : sizeOf mode v with
  | none =>
    refine Or.inl ⟨rfl, ?_, ?_, ?_⟩
    · rw [Fails, answer_min mode c hl, hsize, Option.any_none]
    · rw [Fails, answer_max mode c hh, hsize, Option.any_none]
    · rw [Fails, answer_between mode c hl hh, hsize, Option.any_none]
  | some n =>
    obtain ⟨s, hs⟩ := exists_value_of_sizeOf hsize
    exact Or.inr ⟨n, s, rfl, hs, sizesInOrder hsize hs hx hy⟩

/-- A numeral between a decimal number and one that is beyond the greatest binary number. -/
theorem sizes_in_order_unbounded :
    (Value.decimal (.finite false 10 0)).number?.isSome = true ∧
      (Value.text "1e400").number?.isSome = true ∧
      ∃ n s x y, measure (.text "12.5") .absent {} = .ok (some n) ∧ n.value? = some s ∧
        SizesInOrder (.text "12.5") (.decimal (.finite false 10 0)) (.text "1e400") .suited {} s x y := by
  have hlo : (Value.decimal (.finite false 10 0)).number?.isSome = true := by decide
  have hhi : (Value.text "1e400").number?.isSome = true := by decide
  refine ⟨hlo, hhi, ?_⟩
  obtain ⟨x, y, -, -, ⟨hnone, -⟩ | ⟨n, s, hsize, hs, horder⟩⟩ :=
    sizes_in_order (.text "12.5") .suited {} hlo hhi
  · cases hnone
  · exact ⟨n, s, x, y, hsize, hs, horder⟩

end Order

end Rules

end FieldCheck
