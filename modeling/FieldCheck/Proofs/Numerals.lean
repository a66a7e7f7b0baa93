import FieldCheck.Proofs.Moments
import FieldCheck.Proofs.Rounding

/-!
# Numerals, and how they compare

A numeral writes an exact number.  The rules for sizes compare what is read of it: an integer as it is,
and any other number rounded to the binary format.

* `Numeral` — a sign, digits, a fraction and an exponent; its text and its exact value.
* `readInteger_text`, `readDecimal_text` — what is read of the text.
* `Amount` — an integer, a decimal number or a numeral; `Amount.exact` is the number it gives.
* `Amount.ComparedAs`, `Amount.exists_comparedAs` — the place at which it is compared.
* `Amount.SameFormat` — two amounts that are compared without rounding, or both rounded.
* `Rules.Interchangeable`, `Rules.ComparedByValue` — what the rules say of amounts and their spellings.

Principal results: `compared_by_value`, `not_compared_exactly`.
-/

set_option autoImplicit false

namespace FieldCheck

open Text

/-! ## Numerals -/

/-- What may stand in front of digits. -/
inductive Sign where
  | none
  | plus
  | minus

/-- The characters of a sign. -/
def Sign.text : Sign → List Char
  | .none => []
  | .plus => ['+']
  | .minus => ['-']

/-- Whether the sign turns a number round. -/
def Sign.isMinus : Sign → Bool
  | .minus => true
  | _ => false

/-- A row of digits, at least one. -/
structure Digits where
  chars : List Char
  nonempty : chars ≠ []
  isDigit : ∀ c ∈ chars, c.isDigit = true

/-- The number that digits write. -/
def Digits.value (ds : Digits) : Nat := Nat.ofDigitChars 10 ds.chars 0

/-- The digits of a number. -/
def Digits.ofNat (n : Nat) : Digits := ⟨Nat.toDigits 10 n, Nat.toDigits_ne_nil, toDigits_isDigit n⟩

/-- An exponent, with a small or a capital mark. -/
structure Exponent where
  capital : Bool
  sign : Sign
  power : Digits

/-- A plain numeral. -/
structure Numeral where
  sign : Sign
  whole : Digits
  fraction : Option Digits
  exponent : Option Exponent

/-- The characters of an exponent. -/
def Exponent.text (x : Exponent) : List Char :=
  (if x.capital then 'E' else 'e') :: (x.sign.text ++ x.power.chars)

/-- The power of ten of an exponent. -/
def Exponent.value (x : Exponent) : Int :=
  if x.sign.isMinus then -(x.power.value : Int) else x.power.value

namespace Numeral

/-- The digits behind the point. -/
def decimals (n : Numeral) : List Char := (n.fraction.map Digits.chars).getD []

/-- The point and what stands behind it. -/
def tail (n : Numeral) : List Char :=
  (n.fraction.map fun f => '.' :: f.chars).getD [] ++ (n.exponent.map Exponent.text).getD []

/-- The numeral without its sign. -/
def body (n : Numeral) : List Char := n.whole.chars ++ n.tail

/-- The characters of a numeral. -/
def chars (n : Numeral) : List Char := n.sign.text ++ n.body

/-- The part of a numeral's value that stands behind the point. -/
def part (n : Numeral) : Rat :=
  (n.fraction.map fun f => (f.value : Rat) / 10 ^ f.chars.length).getD 0

/-- The power of ten of a numeral. -/
def power (n : Numeral) : Int := (n.exponent.map Exponent.value).getD 0

/-- The exact value of a numeral. -/
def value (n : Numeral) : Rat := signed n.sign.isMinus ((n.whole.value + n.part) * 10 ^ n.power)

/-- A numeral that is read as an integer: no fraction, no exponent and not too many digits. -/
def IsWhole (n : Numeral) : Prop :=
  n.fraction = .none ∧ n.exponent = .none ∧ n.whole.chars.length ≤ digitLimit

/-- All digits of a numeral as one number. -/
def coefficient (n : Numeral) : Nat := Nat.ofDigitChars 10 (n.whole.chars ++ n.decimals) 0

/-- The power of ten of a numeral's last digit. -/
def lastPower (n : Numeral) : Int := n.power - n.decimals.length

/-- A numeral that a decimal number can hold. -/
def Fits (n : Numeral) : Prop := Decimal.representable n.coefficient n.lastPower = true

end Numeral

section Reading

variable {ds : List Char} {n : Numeral}

/-! ### The parts -/

theorem splitSign_append (sign : Sign) {c : Char} (hc : c.isDigit = true) (s : List Char) :
    splitSign (sign.text ++ c :: s) = (sign.isMinus, c :: s) := by
  cases sign with
  | none => exact splitSign_of_isDigit hc s
  | plus => rfl
  | minus => rfl

theorem digitsValue_digits (ds : List Char) :
    digitsValue 10 (ds.map fun c => c.toNat - 48) = Nat.ofDigitChars 10 ds 0 := by
  rw [digitsValue, List.foldl_map]
  rfl

theorem allDigits?_digits (h : ∀ c ∈ ds, c.isDigit = true) :
    allDigits? ds = some (ds.map fun c => c.toNat - 48) := by
  induction ds with
  | nil => rfl
  | cons c ds ih =>
    obtain ⟨hc, hds⟩ := List.forall_mem_cons.mp h
    have htail : ds.mapM digitValue? = some (ds.map fun c => c.toNat - 48) := ih hds
    rw [allDigits?, List.mapM_cons, digitValue?_of_isDigit hc, htail]
    rfl

theorem Exponent.readExponent_text (x : Exponent) : readExponent x.text = some x.value := by
  obtain ⟨capital, sign, ⟨ds, hne, hdigits⟩⟩ := x
  obtain ⟨c, ds, rfl⟩ := List.exists_cons_of_ne_nil hne
  have hsplit := splitSign_append sign (hdigits c List.mem_cons_self) ds
  have hpower := digitsValue_digits (c :: ds)
  cases capital <;>
    simp only [Exponent.text, readExponent, hsplit, allDigits?_digits hdigits, hpower, Option.map_some] <;>
    rfl

/-- A tail does not go on with a digit. -/
theorem Numeral.head_tail (n : Numeral) : ∀ c ∈ n.tail.head?, digitValue? c = none := by
  obtain ⟨-, -, fraction, exponent⟩ := n
  rintro c hc
  cases fraction with
  | some f =>
    cases hc
    decide
  | none =>
    cases exponent with
    | none => cases hc
    | some x =>
      obtain ⟨capital, sign, power⟩ := x
      cases hc
      cases capital
      · show digitValue? 'e' = none
        decide
      · show digitValue? 'E' = none
        decide

theorem Numeral.takePoint_tail (n : Numeral) :
    takePoint n.tail =
      (n.decimals.map fun c => c.toNat - 48, (n.exponent.map Exponent.text).getD []) := by
  obtain ⟨sign, whole, fraction, exponent⟩ := n
  have hstop := Numeral.head_tail ⟨sign, whole, none, exponent⟩
  cases fraction with
  | some f => exact takeDigits_digits f.isDigit hstop
  | none =>
    cases exponent with
    | none => rfl
    | some x =>
      obtain ⟨capital, sign, power⟩ := x
      cases capital <;> rfl

/-! ### The text -/

theorem Numeral.body_cons (n : Numeral) : ∃ c s, n.body = c :: s ∧ c.isDigit = true := by
  obtain ⟨c, ds, hds⟩ := List.exists_cons_of_ne_nil n.whole.nonempty
  refine ⟨c, ds ++ n.tail, ?_, n.whole.isDigit c ?_⟩
  · rw [Numeral.body, hds, List.cons_append]
  · rw [hds]
    exact List.mem_cons_self

/-- The characters of numerals. -/
def isNumeric (c : Char) : Bool := c.isDigit || ['+', '-', '.', 'e', 'E'].contains c

theorem isNumeric_of_isDigit {c : Char} (h : c.isDigit = true) : isNumeric c = true := by
  rw [isNumeric, h, Bool.true_or]

theorem Digits.numeric (ds : Digits) : ds.chars.all isNumeric = true :=
  List.all_eq_true.mpr fun c hc => isNumeric_of_isDigit (ds.isDigit c hc)

theorem Sign.numeric (sign : Sign) : sign.text.all isNumeric = true := by
  cases sign <;> rfl

theorem Exponent.numeric (x : Exponent) : x.text.all isNumeric = true := by
  obtain ⟨capital, sign, power⟩ := x
  have hmark : isNumeric (if capital then 'E' else 'e') = true := by
    cases capital <;> rfl
  rw [Exponent.text, List.all_cons, List.all_append, hmark, sign.numeric, power.numeric]
  rfl

theorem Numeral.numeric (n : Numeral) : n.chars.all isNumeric = true := by
  obtain ⟨sign, whole, fraction, exponent⟩ := n
  have hfraction : ((fraction.map fun f => '.' :: f.chars).getD []).all isNumeric = true := by
    cases fraction with
    | none => rfl
    | some f => exact f.numeric
  have hexponent : ((exponent.map Exponent.text).getD []).all isNumeric = true := by
    cases exponent with
    | none => rfl
    | some x => exact x.numeric
  simp only [Numeral.chars, Numeral.body, Numeral.tail, List.all_append, sign.numeric, whole.numeric,
    hfraction, hexponent, Bool.and_self]

theorem isSolid_of_isNumeric {c : Char} (h : isNumeric c = true) : isSolid c = true := by
  rw [isNumeric, Bool.or_eq_true] at h
  rcases h with hdigit | hmark
  · exact isSolid_of_isDigit hdigit
  · have hall : ['+', '-', '.', 'e', 'E'].all isSolid := by decide
    exact List.all_eq_true.mp hall c (List.contains_iff_mem.mp hmark)

theorem ne_low_of_isNumeric {c : Char} (h : isNumeric c = true) : (c != '_') = true := by
  rw [bne_iff_ne]
  rintro rfl
  revert h
  decide

theorem Numeral.trim_chars (n : Numeral) : trim n.chars = n.chars :=
  trim_of_solid (List.all_eq_true.mpr fun c hc =>
    isSolid_of_isNumeric (List.all_eq_true.mp n.numeric c hc))

theorem Numeral.filter_chars (n : Numeral) : n.chars.filter (· != '_') = n.chars :=
  List.filter_eq_self.mpr fun c hc => ne_low_of_isNumeric (List.all_eq_true.mp n.numeric c hc)

theorem Numeral.splitSign_chars (n : Numeral) : splitSign n.chars = (n.sign.isMinus, n.body) := by
  obtain ⟨c, s, hbody, hc⟩ := n.body_cons
  rw [Numeral.chars, hbody, splitSign_append n.sign hc]

/-! ### What is read -/

/-- The integer that a numeral without fraction and exponent writes. -/
def Numeral.integer (n : Numeral) : Int :=
  if n.sign.isMinus then -(n.whole.value : Int) else n.whole.value

theorem Numeral.groupedDigits_whole (n : Numeral) :
    groupedDigits false n.whole.chars = some (n.whole.chars.map fun c => c.toNat - 48) := by
  rw [groupedDigits_first n.whole.nonempty n.whole.isDigit, groupedDigits_digits n.whole.isDigit]

theorem Numeral.readInteger_chars (h : n.IsWhole) : readInteger n.chars = some n.integer := by
  obtain ⟨hfraction, hexponent, hlimit⟩ := h
  have hbody : n.body = n.whole.chars := by
    rw [Numeral.body, Numeral.tail, hfraction, hexponent]
    exact List.append_nil _
  have hfew : ¬digitLimit < n.whole.chars.length := Nat.not_lt.mpr hlimit
  rw [readInteger, n.trim_chars, n.splitSign_chars, hbody]
  simp only [n.groupedDigits_whole, List.length_map, hfew, if_false, digitsValue_digits]
  rfl

theorem Numeral.readInteger_chars_of_not (h : ¬n.IsWhole) : readInteger n.chars = none := by
  rw [readInteger, n.trim_chars, n.splitSign_chars, Numeral.body]
  cases htail : n.tail with
  | nil =>
    have hlong : digitLimit < n.whole.chars.length := by
      by_contra hshort
      have hparts := List.append_eq_nil_iff.mp htail
      refine h ⟨?_, ?_, Nat.le_of_not_lt hshort⟩
      · cases hfraction : n.fraction with
        | none => rfl
        | some f => simp [hfraction] at hparts
      · cases hexponent : n.exponent with
        | none => rfl
        | some x => simp [hexponent, Exponent.text] at hparts
    rw [List.append_nil]
    simp only [n.groupedDigits_whole, List.length_map, hlong, if_true]
  | cons c rest =>
    have hhead := n.head_tail
    have hlow : c ≠ '_' := by
      have hmem : c ∈ n.chars := by simp [Numeral.chars, Numeral.body, htail]
      exact bne_iff_ne.mp (ne_low_of_isNumeric (List.all_eq_true.mp n.numeric c hmem))
    rw [htail] at hhead
    simp only [groupedDigits_stopped n.whole.isDigit (hhead c rfl) hlow]

theorem Numeral.readDecimal_chars (h : n.Fits) :
    readDecimal n.chars = some (.finite n.sign.isMinus n.coefficient n.lastPower) := by
  have htake : takeDigits n.body = (n.whole.chars.map fun c => c.toNat - 48, n.tail) :=
    takeDigits_digits n.whole.isDigit n.head_tail
  have hne : (n.whole.chars.map fun c => c.toNat - 48) ≠ [] := by simpa using n.whole.nonempty
  have hexponent : readExponent ((n.exponent.map Exponent.text).getD []) = some n.power := by
    unfold Numeral.power
    cases n.exponent with
    | none => rfl
    | some x => exact x.readExponent_text
  have hread : readFinite n.sign.isMinus n.body =
      some (.finite n.sign.isMinus n.coefficient n.lastPower) := by
    rw [readFinite_eq _ htake hne n.takePoint_tail, hexponent, Option.bind_some, ← List.map_append,
      digitsValue_digits, List.length_map]
    exact if_pos h
  obtain ⟨c, s, hbody, hc⟩ := n.body_cons
  rw [readDecimal_of_isDigit (by rw [n.trim_chars, n.filter_chars, n.splitSign_chars, hbody]) hc,
    ← hbody, hread]

/-- The exact value of a numeral as that of the decimal number that is read. -/
theorem Numeral.value_eq (n : Numeral) :
    n.value = signed n.sign.isMinus (n.coefficient * 10 ^ n.lastPower) := by
  have hten : (10 : Rat) ≠ 0 := by norm_num
  have hsum : (n.coefficient : Rat) = (n.whole.value + n.part) * 10 ^ n.decimals.length := by
    rw [Numeral.coefficient, Nat.ofDigitChars_append, Nat.ofDigitChars_eq_ofDigitChars_zero,
      Numeral.part, Numeral.decimals]
    cases n.fraction with
    | none => simp [Digits.value]
    | some f =>
      simp only [Option.map_some, Option.getD_some, Digits.value]
      push_cast
      field_simp
  have hpower : (10 : Rat) ^ n.power = 10 ^ n.decimals.length * 10 ^ n.lastPower := by
    rw [← zpow_natCast, ← zpow_add₀ hten, Numeral.lastPower, add_sub_cancel]
  rw [Numeral.value, hpower, hsum, mul_assoc]

theorem Numeral.integer_eq (h : n.IsWhole) : (n.integer : Rat) = n.value := by
  obtain ⟨hfraction, hexponent, -⟩ := h
  have hpart : n.part = 0 := by rw [Numeral.part, hfraction]; rfl
  have hpower : n.power = 0 := by rw [Numeral.power, hexponent]; rfl
  rw [Numeral.value, hpart, hpower, zpow_zero, add_zero, mul_one, Numeral.integer, signed]
  split
  · rw [Int.cast_neg, Int.cast_natCast]
  · exact Int.cast_natCast _

end Reading

/-! ## Amounts -/

/-- The ways to give an exact number. -/
inductive Amount where
  | int (n : Int)
  | decimal (negative : Bool) (coefficient : Nat) (exponent : Int)
  | numeral (n : Numeral)

namespace Amount

/-- An amount as a value. -/
def toValue : Amount → Value
  | .int n => .int n
  | .decimal negative c e => .decimal (.finite negative c e)
  | .numeral n => .text (String.ofList n.chars)

/-- The number that an amount gives. -/
def exact : Amount → Rat
  | .int n => n
  | .decimal negative c e => signed negative (c * 10 ^ e)
  | .numeral n => n.value

/-- An integer, or a numeral that is read as one. -/
def IsWhole : Amount → Prop
  | .int _ => True
  | .decimal .. => False
  | .numeral n => n.IsWhole

/-- A numeral has to fit into a decimal number, unless it is read as an integer. -/
def Fits : Amount → Prop
  | .numeral n => n.IsWhole ∨ n.Fits
  | _ => True

/-- A number of the binary format. -/
def IsBinary (a : Amount) : Prop := OnGrid a.exact ∧ |a.exact| < ceiling

/-- The place at which an amount is compared: its own if it is read as an integer, and otherwise that of
the nearest number of the binary format. -/
def ComparedAs (a : Amount) (s : Extended) : Prop :=
  (a.IsWhole → s = Extended.point a.exact) ∧ (¬a.IsWhole → IsRounded a.exact s)

/-- An amount that is compared at its own place. -/
def IsKept (a : Amount) : Prop := a.IsWhole ∨ a.IsBinary

/-- Two amounts that are both read as integers, or both at the place of a binary number. -/
def SameFormat (a b : Amount) : Prop :=
  (a.IsWhole ∧ b.IsWhole) ∨ ((a.IsWhole → a.IsBinary) ∧ (b.IsWhole → b.IsBinary))

end Amount

section Compared

variable {a b : Amount} {s x y : Extended} {m n k : Number} {v w : Value}

/-! ### Where amounts stand -/

theorem Numeral.number?_of_whole {n : Numeral} (h : n.IsWhole) :
    (Value.text (String.ofList n.chars)).number? = some (.int n.integer) := by
  simp [Value.number?, Number.ofText?, Numeral.readInteger_chars h]

theorem Numeral.number?_of_not_whole {n : Numeral} (hwhole : ¬n.IsWhole) (h : n.Fits) :
    (Value.text (String.ofList n.chars)).number? =
      some (.float (Decimal.finite n.sign.isMinus n.coefficient n.lastPower).toDouble) := by
  simp [Value.number?, Number.ofText?, Numeral.readInteger_chars_of_not hwhole,
    Numeral.readDecimal_chars h, Number.ofDecimal?, Decimal.isNaN]

theorem Amount.standsAt_of_whole (h : a.IsWhole) : a.toValue.StandsAt (Extended.point a.exact) := by
  cases a with
  | int k => exact ⟨_, rfl, int_value k⟩
  | decimal => exact h.elim
  | numeral n =>
    refine ⟨_, Numeral.number?_of_whole h, ?_⟩
    rw [int_value, Numeral.integer_eq h]
    rfl

theorem Amount.exists_rounded (hwhole : ¬a.IsWhole) (hfits : a.Fits) :
    ∃ s, a.toValue.StandsAt s ∧ IsRounded a.exact s := by
  cases a with
  | int k => exact absurd trivial hwhole
  | decimal negative c e =>
    obtain ⟨s, hs, hrounded⟩ := toDouble_spec negative c e
    exact ⟨s, ⟨_, rfl, hs⟩, hrounded⟩
  | numeral n =>
    obtain ⟨s, hs, hrounded⟩ := toDouble_spec n.sign.isMinus n.coefficient n.lastPower
    rw [← n.value_eq] at hrounded
    exact ⟨s, ⟨_, Numeral.number?_of_not_whole hwhole (hfits.resolve_left hwhole), hs⟩, hrounded⟩

/-- **Every amount stands at the place at which it is said to be compared.** -/
theorem Amount.exists_comparedAs (h : a.Fits) : ∃ s, a.toValue.StandsAt s ∧ a.ComparedAs s := by
  by_cases hwhole : a.IsWhole
  · exact ⟨_, Amount.standsAt_of_whole hwhole, fun _ => rfl, fun hnot => absurd hwhole hnot⟩
  · obtain ⟨s, hs, hrounded⟩ := Amount.exists_rounded hwhole h
    exact ⟨s, hs, fun hyes => absurd hyes hwhole, fun _ => hrounded⟩

/-! ### The order of places and the order of amounts -/

theorem Amount.ComparedAs.eq_of_kept (h : a.ComparedAs s) (hkept : a.IsKept) :
    s = Extended.point a.exact := by
  by_cases hwhole : a.IsWhole
  · exact h.1 hwhole
  · obtain ⟨hgrid, hbound⟩ := hkept.resolve_left hwhole
    exact (h.2 hwhole).unique (isRounded_self hgrid hbound)

theorem Amount.ComparedAs.isRounded (h : a.ComparedAs s) (hbinary : a.IsWhole → a.IsBinary) :
    IsRounded a.exact s := by
  by_cases hwhole : a.IsWhole
  · obtain ⟨hgrid, hbound⟩ := hbinary hwhole
    rw [h.1 hwhole]
    exact isRounded_self hgrid hbound
  · exact h.2 hwhole

theorem Extended.point_le_point {p q : Rat} : Extended.point p ≤ Extended.point q ↔ p ≤ q := by
  rw [WithBot.coe_le_coe, WithTop.coe_le_coe]

theorem Extended.point_lt_point {p q : Rat} : Extended.point p < Extended.point q ↔ p < q := by
  rw [WithBot.coe_lt_coe, WithTop.coe_lt_coe]

/-- Amounts of one format never change their order. -/
theorem Amount.ComparedAs.mono (ha : a.ComparedAs s) (hb : b.ComparedAs x) (hformat : a.SameFormat b)
    (h : a.exact ≤ b.exact) : s ≤ x := by
  rcases hformat with ⟨hwhole, hwhole'⟩ | ⟨hbinary, hbinary'⟩
  · rw [ha.1 hwhole, hb.1 hwhole', Extended.point_le_point]
    exact h
  · exact (ha.isRounded hbinary).mono (hb.isRounded hbinary') h

theorem Amount.SameFormat.symm (h : a.SameFormat b) : b.SameFormat a := by
  rcases h with ⟨hwhole, hwhole'⟩ | ⟨hbinary, hbinary'⟩
  · exact Or.inl ⟨hwhole', hwhole⟩
  · exact Or.inr ⟨hbinary', hbinary⟩

theorem Amount.ComparedAs.unique (ha : a.ComparedAs s) (hb : b.ComparedAs x)
    (hformat : a.SameFormat b) (h : a.exact = b.exact) : s = x :=
  le_antisymm (ha.mono hb hformat h.le) (hb.mono ha hformat.symm h.ge)

/-! ### Values at one place -/

theorem Rules.sizeOf_suited (h : v.number? = some n) : sizeOf .suited v = some n := by
  cases v <;> simp_all [sizeOf, Value.number?]

/-- A place of the line is the place of no other number. -/
theorem Place.eq_of_value? {p q : Place} (hp : p.value? = some s) (hq : q.value? = some s) : p = q := by
  have htop (r : Rat) : Extended.point r ≠ ⊤ := (Extended.point_lt_top r).ne
  cases p <;> cases q <;> cases hp <;> simp_all [Place.value?, Dyadic.toRat_inj, eq_comm]

end Compared

/-! ### Amounts at the limits -/

/-- The first integer that no binary number equals, with a fraction. -/
def Amount.wide : Amount := .numeral ⟨.none, .ofNat 9007199254740993, some (.ofNat 0), none⟩

/-- A numeral beyond the greatest binary number. -/
def Amount.beyond : Amount :=
  .numeral ⟨.plus, .ofNat 1, none, some ⟨true, .plus, .ofNat 400⟩⟩

/-- The exponent of a numeral that no decimal number can hold. -/
def Exponent.far : Exponent := ⟨false, .none, .ofNat 9999999999999999999⟩

/-- That numeral. -/
def Amount.far : Amount := .numeral ⟨.none, .ofNat 1, none, some .far⟩

theorem Amount.wide_exact : Amount.wide.exact = 9007199254740993 := by
  have hwhole : (Digits.ofNat 9007199254740993).value = 9007199254740993 := by decide
  have hpart : (Digits.ofNat 0).value = 0 := by decide
  simp [wide, exact, Numeral.value, Numeral.part, Numeral.power, signed, Sign.isMinus, hwhole, hpart]

theorem Amount.far_exact : Amount.far.exact = 10 ^ Exponent.far.value := by
  have hwhole : (Digits.ofNat 1).value = 1 := by decide
  simp [far, exact, Numeral.value, Numeral.part, Numeral.power, signed, Sign.isMinus, hwhole]

theorem Amount.hundred_le_far : 100 ≤ Amount.far.exact := by
  have hpower : 2 ≤ Exponent.far.value := by decide
  have hten : (1 : Rat) ≤ 10 := by norm_num
  calc (100 : Rat) = 10 ^ (2 : Int) := by norm_num
    _ ≤ 10 ^ Exponent.far.value := zpow_le_zpow_right₀ hten hpower
    _ = Amount.far.exact := Amount.far_exact.symm

/-! ## What the rules answer -/

namespace Rules

/-- Two values that the rules for sizes do not tell from each other, as values or as bounds. -/
structure Interchangeable (v w : Value) (c : Context) : Prop where
  max : ∀ b, standardAnswer? "max" v [b] c = standardAnswer? "max" w [b] c
  min : ∀ b, standardAnswer? "min" v [b] c = standardAnswer? "min" w [b] c
  between : ∀ lo hi, standardAnswer? "between" v [lo, hi] c = standardAnswer? "between" w [lo, hi] c
  maxBound : ∀ u, standardAnswer? "max" u [v] c = standardAnswer? "max" u [w] c
  minBound : ∀ u, standardAnswer? "min" u [v] c = standardAnswer? "min" u [w] c
  lowBound : ∀ u hi, standardAnswer? "between" u [v, hi] c = standardAnswer? "between" u [w, hi] c
  highBound : ∀ u lo, standardAnswer? "between" u [lo, v] c = standardAnswer? "between" u [lo, w] c

section Comparison

variable {v w : Value} {s : Extended}

theorem suited_max (v b : Value) (c : Context) :
    standardAnswer? "max" v [b] c =
      some ((bound "max" b c).map fun n => .bool ((sizeOf .suited v).any fun s => s.le n)) :=
  standardAnswer?_max .suited c

theorem suited_min (v b : Value) (c : Context) :
    standardAnswer? "min" v [b] c =
      some ((bound "min" b c).map fun n => .bool ((sizeOf .suited v).any fun s => n.le s)) :=
  standardAnswer?_min .suited c

theorem suited_between (v lo hi : Value) (c : Context) :
    standardAnswer? "between" v [lo, hi] c =
      some ((bound "between" lo c).bind fun m => (bound "between" hi c).map fun n =>
        .bool ((sizeOf .suited v).any fun s => m.lt s && s.lt n)) :=
  standardAnswer?_between .suited c

/-- The rules see nothing of a number but its place. -/
theorem interchangeable (hv : v.StandsAt s) (hw : w.StandsAt s) (c : Context) :
    Interchangeable v w c := by
  obtain ⟨m, hm, hms⟩ := hv
  obtain ⟨n, hn, hns⟩ := hw
  have hplace : m.place = n.place := Place.eq_of_value? hms hns
  have hlt (k : Number) : m.lt k = n.lt k := by rw [Number.lt, Number.lt, hplace]
  have hgt (k : Number) : k.lt m = k.lt n := by rw [Number.lt, Number.lt, hplace]
  have hle (k : Number) : m.le k = n.le k := by
    rw [Number.le, Number.le, hlt, Number.same, Number.same, hplace]
  have hge (k : Number) : k.le m = k.le n := by
    rw [Number.le, Number.le, hgt, Number.same, Number.same, hplace]
  have hsize : sizeOf .suited v = some m := sizeOf_suited hm
  have hsize' : sizeOf .suited w = some n := sizeOf_suited hn
  constructor
  · intro b
    simp only [suited_max, hsize, hsize', Option.any_some, hle]
  · intro b
    simp only [suited_min, hsize, hsize', Option.any_some, hge]
  · intro lo hi
    simp only [suited_between, hsize, hsize', Option.any_some, hlt, hgt]
  · intro u
    simp only [suited_max, bound_eq_ok hm, bound_eq_ok hn, Except.map, hge]
  · intro u
    simp only [suited_min, bound_eq_ok hm, bound_eq_ok hn, Except.map, hle]
  · intro u hi
    simp only [suited_between, bound_eq_ok hm, bound_eq_ok hn, Except.bind, hlt]
  · intro u lo
    simp only [suited_between, bound_eq_ok hm, bound_eq_ok hn, Except.map, hgt]

end Comparison

/-- What the rules for sizes say of an amount and of two bounds. -/
structure ComparedByValue (v lo hi : Amount) (c : Context) : Prop where
  /-- The rules compare the places of the amounts. -/
  places : ∃ s x y, v.ComparedAs s ∧ lo.ComparedAs x ∧ hi.ComparedAs y ∧
    Decides "max" v.toValue [hi.toValue] c (s ≤ y) ∧
    Decides "min" v.toValue [lo.toValue] c (x ≤ s) ∧
    Decides "between" v.toValue [lo.toValue, hi.toValue] c (x < s ∧ s < y)
  /-- For amounts at their own places the comparison is exact. -/
  exactMax : v.IsKept → hi.IsKept → Decides "max" v.toValue [hi.toValue] c (v.exact ≤ hi.exact)
  exactMin : v.IsKept → lo.IsKept → Decides "min" v.toValue [lo.toValue] c (lo.exact ≤ v.exact)
  exactBetween : v.IsKept → lo.IsKept → hi.IsKept →
    Decides "between" v.toValue [lo.toValue, hi.toValue] c (lo.exact < v.exact ∧ v.exact < hi.exact)
  /-- For amounts of one format it never goes against the exact order. -/
  orderedMax : v.SameFormat hi → v.exact ≤ hi.exact → Passes "max" v.toValue [hi.toValue] c
  orderedMin : v.SameFormat lo → lo.exact ≤ v.exact → Passes "min" v.toValue [lo.toValue] c
  orderedBetween : v.SameFormat lo → v.SameFormat hi →
    Passes "between" v.toValue [lo.toValue, hi.toValue] c → lo.exact < v.exact ∧ v.exact < hi.exact
  /-- Two spellings of one number in one format do not differ. -/
  spellings : ∀ w : Amount, w.Fits → v.SameFormat w → v.exact = w.exact →
    Interchangeable v.toValue w.toValue c

section Amounts

variable {v lo hi : Amount} {c : Context} {s x y : Extended}

theorem decides_max_amount (hv : v.toValue.StandsAt s) (hhi : hi.toValue.StandsAt y) :
    Decides "max" v.toValue [hi.toValue] c (s ≤ y) := by
  obtain ⟨n, hn, hs⟩ := hv
  exact decides_max (sizeOf_suited hn) hs hhi

theorem decides_min_amount (hv : v.toValue.StandsAt s) (hlo : lo.toValue.StandsAt x) :
    Decides "min" v.toValue [lo.toValue] c (x ≤ s) := by
  obtain ⟨n, hn, hs⟩ := hv
  exact decides_min (sizeOf_suited hn) hs hlo

theorem decides_between_amount (hv : v.toValue.StandsAt s) (hlo : lo.toValue.StandsAt x)
    (hhi : hi.toValue.StandsAt y) :
    Decides "between" v.toValue [lo.toValue, hi.toValue] c (x < s ∧ s < y) := by
  obtain ⟨n, hn, hs⟩ := hv
  exact decides_between (sizeOf_suited hn) hs hlo hhi

/-- **The rules for sizes compare numbers by value, up to the rounding of those that are not written as
integers.**  Rounding keeps the order, so that it can at most make two rounded amounts equal that are
not; only an integer that no binary number equals can come to the wrong side of a rounded amount. -/
theorem compared_by_value (c : Context) (hv : v.Fits) (hlo : lo.Fits) (hhi : hi.Fits) :
    ComparedByValue v lo hi c := by
  obtain ⟨s, hs, hvs⟩ := Amount.exists_comparedAs hv
  obtain ⟨x, hx, hlox⟩ := Amount.exists_comparedAs hlo
  obtain ⟨y, hy, hhiy⟩ := Amount.exists_comparedAs hhi
  have hmax : Decides "max" v.toValue [hi.toValue] c (s ≤ y) := decides_max_amount hs hy
  have hmin : Decides "min" v.toValue [lo.toValue] c (x ≤ s) := decides_min_amount hs hx
  have hbetween : Decides "between" v.toValue [lo.toValue, hi.toValue] c (x < s ∧ s < y) :=
    decides_between_amount hs hx hy
  constructor
  · exact ⟨s, x, y, hvs, hlox, hhiy, hmax, hmin, hbetween⟩
  · intro hkept hkept'
    rwa [hvs.eq_of_kept hkept, hhiy.eq_of_kept hkept', Extended.point_le_point] at hmax
  · intro hkept hkept'
    rwa [hvs.eq_of_kept hkept, hlox.eq_of_kept hkept', Extended.point_le_point] at hmin
  · intro hkept hkept' hkept''
    rwa [hvs.eq_of_kept hkept, hlox.eq_of_kept hkept', hhiy.eq_of_kept hkept'',
      Extended.point_lt_point, Extended.point_lt_point] at hbetween
  · intro hformat h
    exact hmax.passes.mpr (hvs.mono hhiy hformat h)
  · intro hformat h
    exact hmin.passes.mpr (hlox.mono hvs hformat.symm h)
  · intro hformat hformat' hpasses
    obtain ⟨hlow, hhigh⟩ := hbetween.passes.mp hpasses
    constructor
    · by_contra h
      exact not_le.mpr hlow (hvs.mono hlox hformat (not_lt.mp h))
    · by_contra h
      exact not_le.mpr hhigh (hhiy.mono hvs hformat'.symm (not_lt.mp h))
  · intro w hw hformat h
    obtain ⟨z, hz, hwz⟩ := Amount.exists_comparedAs hw
    obtain rfl : s = z := hvs.unique hwz hformat h
    exact interchangeable hs hz c

/-- A number that is rounded, between an integer and a numeral that is rounded to an infinity. -/
theorem compared_by_value_wide :
    Amount.wide.Fits ∧ (Amount.int 9007199254740992).Fits ∧ Amount.beyond.Fits ∧
      ComparedByValue .wide (.int 9007199254740992) .beyond {} := by
  have hwide : Amount.wide.Fits := Or.inr (by show Decimal.representable _ _ = true; decide)
  have hbeyond : Amount.beyond.Fits := Or.inr (by show Decimal.representable _ _ = true; decide)
  exact ⟨hwide, trivial, hbeyond, compared_by_value {} hwide trivial hbeyond⟩

/-- The rules do not compare all amounts exactly.  Rounded, a numeral passes a limit that it is above;
and one that no decimal number can hold is measured by its length. -/
theorem not_compared_exactly :
    (Amount.wide.toValue = .text "9007199254740993.0" ∧
      ¬Amount.wide.exact ≤ (Amount.int 9007199254740992).exact ∧
      Passes "max" Amount.wide.toValue [.int 9007199254740992] {}) ∧
    (Amount.far.toValue = .text "1e9999999999999999999" ∧
      (Amount.int 100).exact ≤ Amount.far.exact ∧
      Fails "min" Amount.far.toValue [.int 100] {}) := by
  have hwide : Amount.wide.toValue = .text "9007199254740993.0" := congrArg Value.text (by decide)
  have hfar : Amount.far.toValue = .text "1e9999999999999999999" := congrArg Value.text (by decide)
  have hmax : ((sizeOf .suited (.text "9007199254740993.0")).any
      fun s => s.le (.int 9007199254740992)) = true := by decide +kernel
  have hmin : ((sizeOf .suited (.text "1e9999999999999999999")).any
      fun s => (Number.int 100).le s) = false := by decide +kernel
  refine ⟨⟨hwide, ?_, ?_⟩, hfar, ?_, ?_⟩
  · rw [Amount.wide_exact, not_le]
    show ((9007199254740992 : Int) : Rat) < 9007199254740993
    norm_num
  · rw [hwide, Passes, suited_max, bound_eq_ok rfl, Except.map, hmax]
  · exact_mod_cast Amount.hundred_le_far
  · rw [hfar, Fails, suited_min, bound_eq_ok rfl, Except.map, hmin]

end Amounts

end Rules

end FieldCheck
