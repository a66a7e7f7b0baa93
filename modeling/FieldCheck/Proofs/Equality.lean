import FieldCheck.Proofs.Quantities
import Mathlib.Data.List.Forall2

/-!
# Equality of values

Two values are the same if the comparison answers so.  Not-a-number is not the same as itself, so that this is
not an equivalence; but two values that are the same are so in either order, and the same as the same values.
Values have no identity: a not-a-number that two collections share keeps them apart like any other.

* `IsEqualityAt` — a relation has these two laws at a thing; they pass on to rows, and to collections
  in which each member has a partner (`Covers`).
* `Value.Same` — the comparison says yes; `Value.key?`, `same_iff_key` — what a value without members is
  compared by.
* `Value.WellFormed` — the numbers are those of their formats, sets have no member twice and dictionaries
  no key; `wellFormed_ofMembers`, `wellFormed_ofEntries`.
* `list_same_iff`, `set_same_iff`, `dict_same_iff`, `rule_same_iff` and so on — the comparison of collections.

Principal results: `Value.WellFormed.isEqualityAt`, `Value.WellFormed.same_comm`.
-/

set_option autoImplicit false

namespace FieldCheck

/-! ## The laws of equality -/

section Laws

variable {α β : Type} {R S : α → α → Prop} {good : α → Prop} {x y : α} {xs ys : List α}

/-- What is related to this thing is so in return, and is related to the same things. -/
def IsEqualityAt (R : α → α → Prop) (good : α → Prop) (x : α) : Prop :=
  ∀ y, good y → R x y → R y x ∧ ∀ z, good z → (R x z ↔ R y z)

theorem isEqualityAt_eq (good : α → Prop) (x : α) : IsEqualityAt Eq good x := by
  rintro y - rfl
  exact ⟨rfl, fun _ _ => Iff.rfl⟩

/-- The laws hold as well at whatever is related. -/
theorem IsEqualityAt.of_related (h : IsEqualityAt R good x) (hy : good y) (hxy : R x y) :
    IsEqualityAt R good y := by
  intro z hz hyz
  have hsame := (h y hy hxy).2
  obtain ⟨-, hsame'⟩ := h z hz ((hsame z hz).mpr hyz)
  exact ⟨(hsame' y hy).mp hxy, fun w hw => (hsame w hw).symm.trans (hsame' w hw)⟩

theorem IsEqualityAt.and (h : IsEqualityAt R good x) (h' : IsEqualityAt S good x) :
    IsEqualityAt (fun x y => R x y ∧ S x y) good x := by
  rintro y hy ⟨hR, hS⟩
  obtain ⟨hback, hsame⟩ := h y hy hR
  obtain ⟨hback', hsame'⟩ := h' y hy hS
  exact ⟨⟨hback, hback'⟩, fun z hz => and_congr (hsame z hz) (hsame' z hz)⟩

/-- The laws of a part of things are laws of the things. -/
theorem IsEqualityAt.on {good' : β → Prop} (f : β → α) {x : β} (h : IsEqualityAt R good (f x))
    (hgood : ∀ y, good' y → good (f y)) : IsEqualityAt (fun x y => R (f x) (f y)) good' x := by
  intro y hy hxy
  obtain ⟨hback, hsame⟩ := h (f y) (hgood y hy) hxy
  exact ⟨hback, fun z hz => hsame (f z) (hgood z hz)⟩

/-- A row is related to another member by member. -/
theorem IsEqualityAt.forall₂ (h : ∀ x ∈ xs, IsEqualityAt R good x) :
    IsEqualityAt (List.Forall₂ R) (fun ys => ∀ y ∈ ys, good y) xs := by
  intro ys hys hxy
  induction hxy with
  | nil => exact ⟨.nil, fun zs _ => Iff.rfl⟩
  | cons hxy _ ih =>
    rw [List.forall_mem_cons] at h hys
    obtain ⟨hback, hsame⟩ := h.1 _ hys.1 hxy
    obtain ⟨hbacks, hsames⟩ := ih h.2 hys.2
    refine ⟨.cons hback hbacks, fun zs hzs => ?_⟩
    cases zs with
    | nil => simp
    | cons z zs =>
      rw [List.forall_mem_cons] at hzs
      rw [List.forall₂_cons, List.forall₂_cons, hsame z hzs.1, hsames zs hzs.2]

/-- There are as many members, and each has a partner among the others. -/
def Covers (R : α → α → Prop) (xs ys : List α) : Prop :=
  xs.length = ys.length ∧ ∀ x ∈ xs, ∃ y ∈ ys, R x y

/-- If no partner is shared, and there are no more partners than members, then each is a partner. -/
theorem exists_partner (hcover : ∀ x ∈ xs, ∃ y ∈ ys, R x y) (hlength : ys.length ≤ xs.length)
    (hown : xs.Pairwise fun x x' => ∀ y ∈ ys, R x y → ¬R x' y) : ∀ y ∈ ys, ∃ x ∈ xs, R x y := by
  induction xs generalizing ys with
  | nil =>
    have hnil : ys = [] := List.eq_nil_of_length_eq_zero (by simpa using hlength)
    simp [hnil]
  | cons x xs ih =>
    rw [List.forall_mem_cons] at hcover
    rw [List.pairwise_cons] at hown
    obtain ⟨⟨y, hy, hxy⟩, hrest⟩ := hcover
    obtain ⟨front, behind, rfl⟩ := List.append_of_mem hy
    have hothers : ∀ x' ∈ xs, ∃ z ∈ front ++ behind, R x' z := by
      intro x' hx'
      obtain ⟨z, hz, hx'z⟩ := hrest x' hx'
      have hne : z ≠ y := by
        rintro rfl
        exact hown.1 x' hx' z hz hxy hx'z
      refine ⟨z, ?_, hx'z⟩
      simpa [hne] using hz
    have hsub : ∀ z ∈ front ++ behind, z ∈ front ++ y :: behind := by
      intro z hz
      rw [List.mem_append] at hz ⊢
      exact hz.imp_right (List.mem_cons_of_mem y)
    have hpartners := ih hothers (by simp at hlength ⊢; omega)
      (hown.2.imp fun hfree z hz => hfree z (hsub z hz))
    intro z hz
    rcases List.mem_append.mp hz with hfront | hbehind
    · obtain ⟨x', hx', hR⟩ := hpartners z (List.mem_append_left _ hfront)
      exact ⟨x', List.mem_cons_of_mem x hx', hR⟩
    · rcases List.mem_cons.mp hbehind with rfl | hbehind
      · exact ⟨x, List.mem_cons_self, hxy⟩
      · obtain ⟨x', hx', hR⟩ := hpartners z (List.mem_append_right _ hbehind)
        exact ⟨x', List.mem_cons_of_mem x hx', hR⟩

/-- Members that are unlike each other have partners of their own, so that every partner has a member. -/
theorem Covers.exists_partner (hlaws : ∀ x ∈ xs, IsEqualityAt R good x) (hxs : ∀ x ∈ xs, good x)
    (hunlike : xs.Pairwise fun x x' => ¬R x x') (hys : ∀ y ∈ ys, good y) (h : Covers R xs ys) :
    ∀ y ∈ ys, ∃ x ∈ xs, R x y := by
  refine FieldCheck.exists_partner h.2 h.1.ge (hunlike.imp_of_mem ?_)
  intro x x' hx hx' hne y hy hxy hx'y
  have hback := (hlaws x' hx' y (hys y hy) hx'y).1
  exact hne (((hlaws x hx y (hys y hy) hxy).2 x' (hxs x' hx')).mpr hback)

/-- A collection without repetitions is related to another if each member has a partner. -/
theorem IsEqualityAt.covers (hlaws : ∀ x ∈ xs, IsEqualityAt R good x) (hxs : ∀ x ∈ xs, good x)
    (hunlike : xs.Pairwise fun x x' => ¬R x x') :
    IsEqualityAt (Covers R) (fun ys => ∀ y ∈ ys, good y) xs := by
  intro ys hys h
  have honto := h.exists_partner hlaws hxs hunlike hys
  refine ⟨⟨h.1.symm, ?_⟩, fun zs hzs => and_congr (by rw [h.1]) ⟨?_, ?_⟩⟩
  · intro y hy
    obtain ⟨x, hx, hxy⟩ := honto y hy
    exact ⟨x, hx, (hlaws x hx y (hys y hy) hxy).1⟩
  · intro hcover y hy
    obtain ⟨x, hx, hxy⟩ := honto y hy
    obtain ⟨z, hz, hxz⟩ := hcover x hx
    exact ⟨z, hz, ((hlaws x hx y (hys y hy) hxy).2 z (hzs z hz)).mp hxz⟩
  · intro hcover x hx
    obtain ⟨y, hy, hxy⟩ := h.2 x hx
    obtain ⟨z, hz, hyz⟩ := hcover y hy
    exact ⟨z, hz, ((hlaws x hx y (hys y hy) hxy).2 z (hzs z hz)).mpr hyz⟩

end Laws

/-! ## Values without members -/

/-- The comparison of two values answers, and the answer is yes. -/
def Value.Same (a b : Value) : Prop := a.same? b = some true

/-- What a moment is compared by: without an offset itself, else the instant that it names. -/
def Stamp.key (s : Stamp) : Moment ⊕ Int :=
  match s.offset with
  | none => .inl s.moment
  | some o => .inr (s.moment.instant - o * 1000000)

/-- What values are compared by. -/
inductive Key where
  | absent
  | place (x : Extended)
  | text (s : String)
  | bytes (bs : List Nat)
  | date (d : Date)
  | stamp (k : Moment ⊕ Int)
  | pattern (p : Regex.Pattern)
  | path (s : String)
  | file (mark : Nat)
  | thing (mark : Nat)

/-- The key of a value; one with members has none, nor has not-a-number. -/
def Value.key? : Value → Option Key
  | .absent => some .absent
  | .text s => some (.text s)
  | .bytes bs => some (.bytes bs)
  | .date d => some (.date d)
  | .stamp s => some (.stamp s.key)
  | .pattern p => some (.pattern p)
  | .path s => some (.path s)
  | .file _ n => some (.file n)
  | .thing _ n => some (.thing n)
  | v => (v.quantity?.bind Quantity.value?).map .place

/-- Whether a value is one without members. -/
def Value.isAtom : Value → Bool
  | .list _ | .tuple _ | .set _ | .dict _ | .rule _ | .spec .. => false
  | _ => true

/-- A binary number is one of the format. -/
def Value.InFormat (v : Value) : Prop := ∀ q, v.quantity? = some q → q.InFormat

section Atoms

variable {a b : Value} {q q' : Quantity}

theorem Stamp.same_iff (s t : Stamp) : s.same t = true ↔ s.key = t.key := by
  unfold Stamp.same Stamp.key
  cases s.offset <;> cases t.offset <;> simp

theorem key?_of_quantity (ha : a.quantity? = some q) : a.key? = q.value?.map .place := by
  cases a <;> cases ha <;> rfl

theorem key?_ne_place (ha : a.quantity? = none) (x : Extended) : a.key? ≠ some (.place x) := by
  cases a <;> cases ha <;> simp [Value.key?, Value.quantity?]

theorem same_numbers_iff (ha : a.quantity? = some q) (hb : b.quantity? = some q') :
    a.Same b ↔ q.same? q' = some true := by
  cases a <;> cases ha <;> cases b <;> cases hb <;> simp only [Value.Same, Value.same?, Value.quantity?]

theorem not_same_number (ha : a.quantity? = some q) (hb : b.quantity? = none) : ¬a.Same b := by
  cases a <;> cases ha <;> cases b <;> cases hb <;> simp [Value.Same, Value.same?, Value.quantity?]

theorem same_plain_iff (hatom : a.isAtom = true) (ha : a.quantity? = none) :
    a.Same b ↔ ∃ k, b.key? = some k ∧ a.key? = some k := by
  cases a <;> cases hatom <;> cases ha <;> cases b <;>
    simp [Value.Same, Value.same?, Value.key?, Value.quantity?, Stamp.same_iff]

/-- A value without members is the same as the values with its key. -/
theorem same_iff_key (hatom : a.isAtom = true) (ha : a.InFormat) (hb : b.InFormat) :
    a.Same b ↔ ∃ k, b.key? = some k ∧ a.key? = some k := by
  cases hq : a.quantity? with
  | none => exact same_plain_iff hatom hq
  | some q =>
    cases hq' : b.quantity? with
    | none =>
      refine iff_of_false (not_same_number hq hq') ?_
      rintro ⟨k, hkb, hka⟩
      rw [key?_of_quantity hq] at hka
      obtain ⟨x, -, rfl⟩ := Option.map_eq_some_iff.mp hka
      exact key?_ne_place hq' x hkb
    | some q' =>
      rw [same_numbers_iff hq hq', Quantity.same?_iff (ha q hq) (hb q' hq'), key?_of_quantity hq,
        key?_of_quantity hq']
      constructor
      · rintro ⟨x, hx, hx'⟩
        exact ⟨.place x, by rw [hx']; rfl, by rw [hx]; rfl⟩
      · rintro ⟨k, hk', hk⟩
        obtain ⟨x, hx, rfl⟩ := Option.map_eq_some_iff.mp hk
        obtain ⟨x', hx', heq⟩ := Option.map_eq_some_iff.mp hk'
        cases heq
        exact ⟨x, hx, hx'⟩

end Atoms

/-! ## Collections -/

/-- Entries are related if their keys and their values are the same. -/
def EqualEntry (p q : Value × Value) : Prop := p.1.Same q.1 ∧ p.2.Same q.2

/-- Each entry is looked up among the others by its key, and the value that is found is the same. -/
def EqualEntries (ps qs : List (Value × Value)) : Prop :=
  ps.length = qs.length ∧
    ∀ p ∈ ps, ∃ q, qs.find? (fun q => p.1.same? q.1 == some true) = some q ∧ p.2.Same q.2

/-- The names and marks are equal, and the arguments are the same. -/
def EqualRule (r r' : Rule Value) : Prop :=
  r.name = r'.name ∧ List.Forall₂ Value.Same r.args r'.args ∧ r.isRegex = r'.isRegex ∧ r.bail = r'.bail

section Collections

variable {b : Value} {xs ys : List Value} {ps qs : List (Value × Value)} {r r' : Rule Value}
  {rs rs' : List (Rule Value)}

theorem sameAll?_iff : sameAll? xs ys = some true ↔ List.Forall₂ Value.Same xs ys := by
  induction xs generalizing ys with
  | nil => cases ys <;> simp [sameAll?]
  | cons x xs ih =>
    cases ys with
    | nil => simp [sameAll?]
    | cons y ys =>
      rw [List.forall₂_cons, ← ih, sameAll?, Value.Same]
      cases x.same? y with
      | none => simp
      | some answer => cases answer <;> simp

theorem allFound_iff : allFound xs ys = true ↔ ∀ x ∈ xs, ∃ y ∈ ys, x.Same y := by
  induction xs with
  | nil => simp [allFound]
  | cons x xs ih => simp [allFound, ih, Value.Same]

theorem sameEntries?_iff : sameEntries? ps qs = some true ↔
    ∀ p ∈ ps, ∃ q, qs.find? (fun q => p.1.same? q.1 == some true) = some q ∧ p.2.Same q.2 := by
  induction ps with
  | nil => simp [sameEntries?]
  | cons p ps ih =>
    obtain ⟨k, v⟩ := p
    rw [List.forall_mem_cons, ← ih, sameEntries?]
    cases qs.find? fun q => k.same? q.1 == some true with
    | none => simp
    | some q =>
      simp only [Option.some.injEq, exists_eq_left', Value.Same]
      cases v.same? q.2 with
      | none => simp
      | some answer => cases answer <;> simp

theorem sameRule?_iff : sameRule? r r' = some true ↔ EqualRule r r' := by
  obtain ⟨name, args, isRegex, bail⟩ := r
  obtain ⟨name', args', isRegex', bail'⟩ := r'
  rw [sameRule?, EqualRule, ← sameAll?_iff]
  by_cases hname : name = name'
  · cases sameAll? args args' with
    | none => simp [hname]
    | some answer => cases answer <;> simp [hname]
  · simp [hname]

theorem sameRules?_iff : sameRules? rs rs' = some true ↔ List.Forall₂ EqualRule rs rs' := by
  induction rs generalizing rs' with
  | nil => cases rs' <;> simp [sameRules?]
  | cons r rs ih =>
    cases rs' with
    | nil => simp [sameRules?]
    | cons r' rs' =>
      rw [List.forall₂_cons, ← ih, ← sameRule?_iff, sameRules?]
      cases sameRule? r r' with
      | none => simp
      | some answer => cases answer <;> simp

theorem list_same_iff : (Value.list xs).Same b ↔ ∃ ys, b = .list ys ∧ List.Forall₂ Value.Same xs ys := by
  cases b with
  | list ys =>
    rw [Value.Same, Value.same?]
    split
    · rename_i hne
      refine iff_of_false (by simp) ?_
      rintro ⟨_, heq, hsame⟩
      cases heq
      exact hne hsame.length_eq
    · simp [sameAll?_iff]
  | _ => simp [Value.Same, Value.same?, Value.quantity?]

theorem tuple_same_iff : (Value.tuple xs).Same b ↔ ∃ ys, b = .tuple ys ∧ List.Forall₂ Value.Same xs ys := by
  cases b with
  | tuple ys => simp [Value.Same, Value.same?, sameAll?_iff]
  | _ => simp [Value.Same, Value.same?, Value.quantity?]

theorem set_same_iff : (Value.set xs).Same b ↔ ∃ ys, b = .set ys ∧ Covers Value.Same xs ys := by
  cases b with
  | set ys => simp [Value.Same, Value.same?, Covers, allFound_iff]
  | _ => simp [Value.Same, Value.same?, Value.quantity?]

theorem dict_same_iff : (Value.dict ps).Same b ↔ ∃ qs, b = .dict qs ∧ EqualEntries ps qs := by
  cases b with
  | dict qs =>
    rw [Value.Same, Value.same?]
    split
    · rename_i hne
      simp [EqualEntries, hne]
    · rename_i hlength
      simp [EqualEntries, sameEntries?_iff, not_not.mp hlength]
  | _ => simp [Value.Same, Value.same?, Value.quantity?]

theorem rule_same_iff : (Value.rule r).Same b ↔ ∃ r', b = .rule r' ∧ EqualRule r r' := by
  cases b with
  | rule r' => simp [Value.Same, Value.same?, sameRule?_iff]
  | _ => simp [Value.Same, Value.same?, Value.quantity?]

theorem spec_same_iff {s : List (Rule Value) × Option String} :
    (Value.spec s.1 s.2).Same b ↔
      ∃ t : List (Rule Value) × Option String, b = .spec t.1 t.2 ∧ List.Forall₂ EqualRule s.1 t.1 := by
  cases b with
  | spec rs' source' => simp [Value.Same, Value.same?, sameRules?_iff]
  | _ => simp [Value.Same, Value.same?, Value.quantity?]

end Collections

/-! ## Well-formed values -/

/-- No two entries have the same key. -/
def DistinctKeys (ps : List (Value × Value)) : Prop := ps.Pairwise fun p q => ¬p.1.Same q.1

/-- The binary numbers are those of the format, no set has a member twice, and no dictionary a key. -/
inductive Value.WellFormed : Value → Prop
  | atom {v : Value} (hatom : v.isAtom = true) (hformat : v.InFormat) : v.WellFormed
  | list {items : List Value} (h : ∀ v ∈ items, v.WellFormed) : (Value.list items).WellFormed
  | tuple {items : List Value} (h : ∀ v ∈ items, v.WellFormed) : (Value.tuple items).WellFormed
  | set {items : List Value} (h : ∀ v ∈ items, v.WellFormed)
      (hunlike : items.Pairwise fun v w => ¬v.Same w) : (Value.set items).WellFormed
  | dict {entries : List (Value × Value)} (hkeys : ∀ p ∈ entries, p.1.WellFormed)
      (hvalues : ∀ p ∈ entries, p.2.WellFormed) (hunlike : DistinctKeys entries) :
      (Value.dict entries).WellFormed
  | rule {r : Rule Value} (h : ∀ v ∈ r.args, v.WellFormed) : (Value.rule r).WellFormed
  | spec {rules : List (Rule Value)} {source : Option String}
      (h : ∀ r ∈ rules, ∀ v ∈ r.args, v.WellFormed) : (Value.spec rules source).WellFormed

/-- The entries of a well-formed dictionary. -/
structure WellFormedEntries (ps : List (Value × Value)) : Prop where
  key : ∀ p ∈ ps, p.1.WellFormed
  value : ∀ p ∈ ps, p.2.WellFormed
  unlike : DistinctKeys ps

section WellFormed

variable {a b : Value} {xs ys : List Value} {ps qs : List (Value × Value)} {r : Rule Value}
  {rs : List (Rule Value)}

theorem Value.WellFormed.inFormat (h : a.WellFormed) : a.InFormat := by
  cases h with
  | atom _ hformat => exact hformat
  | _ =>
    intro q hq
    cases hq

/-- A value without members is well formed but for binary numbers that the format does not have. -/
theorem wellFormed_of_isAtom (hatom : a.isAtom = true) (hformat : ∀ x, a = .float x → x.InFormat) :
    a.WellFormed := by
  refine .atom hatom fun q hq => ?_
  cases a <;> cases hq
  case float x => exact hformat x rfl
  all_goals trivial

theorem Value.WellFormed.list_members (h : (Value.list xs).WellFormed) : ∀ v ∈ xs, v.WellFormed := by
  cases h with
  | list h => exact h
  | atom hatom => cases hatom

theorem Value.WellFormed.tuple_members (h : (Value.tuple xs).WellFormed) : ∀ v ∈ xs, v.WellFormed := by
  cases h with
  | tuple h => exact h
  | atom hatom => cases hatom

theorem Value.WellFormed.set_members (h : (Value.set xs).WellFormed) : ∀ v ∈ xs, v.WellFormed := by
  cases h with
  | set h => exact h
  | atom hatom => cases hatom

theorem Value.WellFormed.dict_entries (h : (Value.dict ps).WellFormed) : WellFormedEntries ps := by
  cases h with
  | dict hkeys hvalues hunlike => exact ⟨hkeys, hvalues, hunlike⟩
  | atom hatom => cases hatom

theorem Value.WellFormed.rule_args (h : (Value.rule r).WellFormed) : ∀ v ∈ r.args, v.WellFormed := by
  cases h with
  | rule h => exact h
  | atom hatom => cases hatom

theorem Value.WellFormed.spec_args {s : List (Rule Value) × Option String}
    (h : (Value.spec s.1 s.2).WellFormed) : ∀ r ∈ s.1, ∀ v ∈ r.args, v.WellFormed := by
  cases h with
  | spec h => exact h
  | atom hatom => cases hatom

/-- A set of given members has none of them twice. -/
theorem wellFormed_ofMembers (h : ∀ v ∈ xs, v.WellFormed) : (Value.ofMembers xs).WellFormed := by
  suffices hfold : ∀ seen : List Value, (∀ v ∈ seen, v.WellFormed) →
      (seen.Pairwise fun v w => ¬v.Same w) → (Value.set (xs.foldl (fun seen v =>
        if seen.any (fun w => w.same? v == some true) then seen else seen ++ [v]) seen)).WellFormed from
    hfold [] (by simp) .nil
  induction xs with
  | nil => exact fun seen hseen hunlike => .set hseen hunlike
  | cons x xs ih =>
    rw [List.forall_mem_cons] at h
    intro seen hseen hunlike
    rw [List.foldl_cons]
    split
    · exact ih h.2 seen hseen hunlike
    · rename_i hnew
      refine ih h.2 _ ?_ ?_
      · simpa [or_imp, forall_and] using ⟨hseen, h.1⟩
      · rw [List.pairwise_append]
        refine ⟨hunlike, List.pairwise_singleton _ _, ?_⟩
        simpa [Value.Same] using hnew

/-- The keys stay, and one that is not there comes behind them. -/
theorem keys_putEntry (k v : Value) (ps : List (Value × Value)) :
    (putEntry k v ps).map Prod.fst =
      if ps.any fun p => p.1.same? k == some true then ps.map Prod.fst else ps.map Prod.fst ++ [k] := by
  induction ps with
  | nil => rfl
  | cons p ps ih =>
    rw [putEntry]
    split
    · rename_i hkey
      simp [hkey]
    · rename_i hkey
      rw [List.map_cons, ih, List.any_cons, Bool.eq_false_iff.mpr hkey, Bool.false_or]
      split <;> rfl

theorem value_putEntry {k v : Value} {p : Value × Value} (h : p ∈ putEntry k v ps) :
    p.2 = v ∨ p ∈ ps := by
  induction ps with
  | nil => exact .inl (by rw [List.mem_singleton.mp h])
  | cons q ps ih =>
    rw [putEntry] at h
    split at h
    · rcases List.mem_cons.mp h with rfl | hmem
      · exact .inl rfl
      · exact .inr (List.mem_cons_of_mem q hmem)
    · rcases List.mem_cons.mp h with rfl | hmem
      · exact .inr List.mem_cons_self
      · exact (ih hmem).imp_right (List.mem_cons_of_mem q)

theorem WellFormedEntries.putEntry {k v : Value} (h : WellFormedEntries ps) (hk : k.WellFormed)
    (hv : v.WellFormed) : WellFormedEntries (putEntry k v ps) := by
  have hkeys := keys_putEntry k v ps
  have hwell : ∀ k' ∈ ps.map Prod.fst, k'.WellFormed := List.forall_mem_map.mpr h.key
  have hunlike : (ps.map Prod.fst).Pairwise fun k k' => ¬k.Same k' := List.pairwise_map.mpr h.unlike
  have hwell' : ∀ k' ∈ (FieldCheck.putEntry k v ps).map Prod.fst, k'.WellFormed := by
    rw [hkeys]
    split
    · exact hwell
    · exact List.forall_mem_append.mpr ⟨hwell, List.forall_mem_singleton.mpr hk⟩
  have hunlike' : ((FieldCheck.putEntry k v ps).map Prod.fst).Pairwise fun k k' => ¬k.Same k' := by
    rw [hkeys]
    split
    · exact hunlike
    · rename_i hnew
      rw [List.pairwise_append]
      refine ⟨hunlike, List.pairwise_singleton _ _, ?_⟩
      simpa [Value.Same] using hnew
  refine ⟨List.forall_mem_map.mp hwell', fun p hp => ?_, List.pairwise_map.mp hunlike'⟩
  rcases value_putEntry hp with heq | hmem
  · rw [heq]
    exact hv
  · exact h.value p hmem

/-- A dictionary with given entries has no key twice. -/
theorem wellFormed_ofEntries (hkeys : ∀ p ∈ ps, p.1.WellFormed) (hvalues : ∀ p ∈ ps, p.2.WellFormed) :
    (Value.ofEntries ps).WellFormed := by
  suffices hfold : ∀ d, WellFormedEntries d →
      WellFormedEntries (ps.foldl (fun d p => FieldCheck.putEntry p.1 p.2 d) d) from
    have h := hfold [] ⟨by simp, by simp, .nil⟩
    .dict h.key h.value h.unlike
  induction ps with
  | nil => exact fun d hd => hd
  | cons p ps ih =>
    rw [List.forall_mem_cons] at hkeys hvalues
    intro d hd
    exact ih hkeys.2 hvalues.2 _ (hd.putEntry hkeys.1 hvalues.1)

end WellFormed

/-! ## The comparison is one of equality -/

section Equality

variable {a b : Value} {xs : List Value} {ps qs : List (Value × Value)} {r : Rule Value}

/-- What a value is compared by is all that counts. -/
theorem isEqualityAt_atom (hatom : a.isAtom = true) (ha : a.InFormat) :
    IsEqualityAt Value.Same Value.WellFormed a := by
  intro b hb hab
  obtain ⟨k, hkb, hka⟩ := (same_iff_key hatom ha hb.inFormat).mp hab
  have hbatom : b.isAtom = true := by cases b <;> first | rfl | cases hkb
  refine ⟨(same_iff_key hbatom hb.inFormat ha).mpr ⟨k, hka, hkb⟩, fun c hc => ?_⟩
  rw [same_iff_key hatom ha hc.inFormat, same_iff_key hbatom hb.inFormat hc.inFormat, hka, hkb]

/-- Values of one kind, of which a part is compared. -/
theorem isEqualityAt_of_part {α : Type} {kind : α → Value} {R : α → α → Prop} {good : α → Prop} {x : α}
    (hsame : ∀ {y : α} {b : Value}, (kind y).Same b ↔ ∃ z, b = kind z ∧ R y z)
    (hgood : ∀ {y : α}, (kind y).WellFormed → good y) (h : IsEqualityAt R good x) :
    IsEqualityAt Value.Same Value.WellFormed (kind x) := by
  intro b hb hxb
  obtain ⟨y, rfl, hxy⟩ := hsame.mp hxb
  obtain ⟨hback, hiff⟩ := h y (hgood hb) hxy
  refine ⟨hsame.mpr ⟨x, rfl, hback⟩, fun c hc => ?_⟩
  rw [hsame, hsame]
  constructor
  · rintro ⟨z, rfl, hxz⟩
    exact ⟨z, rfl, (hiff z (hgood hc)).mp hxz⟩
  · rintro ⟨z, rfl, hyz⟩
    exact ⟨z, rfl, (hiff z (hgood hc)).mpr hyz⟩

theorem isEqualityAt_rule (h : ∀ v ∈ r.args, IsEqualityAt Value.Same Value.WellFormed v) :
    IsEqualityAt EqualRule (fun r => ∀ v ∈ r.args, v.WellFormed) r := by
  have hpart {α : Type} (f : Rule Value → α) :
      IsEqualityAt (fun r r' => f r = f r') (fun r => ∀ v ∈ r.args, v.WellFormed) r :=
    (isEqualityAt_eq (fun _ => True) (f r)).on f fun _ _ => trivial
  have hargs : IsEqualityAt (fun r r' => List.Forall₂ Value.Same r.args r'.args)
      (fun r => ∀ v ∈ r.args, v.WellFormed) r :=
    (IsEqualityAt.forall₂ h).on Rule.args fun _ hargs => hargs
  exact (hpart Rule.name).and (hargs.and ((hpart Rule.isRegex).and (hpart Rule.bail)))

/-- Where no two entries have one key, the first entry that is found for a key is the only one. -/
theorem find?_key_iff {k : Value} (hk : IsEqualityAt Value.Same Value.WellFormed k)
    (hqs : WellFormedEntries qs) {P : Value × Value → Prop} :
    (∃ q, qs.find? (fun q => k.same? q.1 == some true) = some q ∧ P q) ↔
      ∃ q ∈ qs, k.Same q.1 ∧ P q := by
  constructor
  · rintro ⟨q, hfind, hq⟩
    exact ⟨q, List.mem_of_find?_eq_some hfind, by simpa [Value.Same] using List.find?_some hfind, hq⟩
  · rintro ⟨q, hmem, hsame, hq⟩
    obtain ⟨q', hfind⟩ : ∃ q', qs.find? (fun q => k.same? q.1 == some true) = some q' :=
      Option.isSome_iff_exists.mp (List.find?_isSome.mpr ⟨q, hmem, by rw [hsame]; rfl⟩)
    obtain ⟨hfound, front, behind, rfl, hfront⟩ := List.find?_eq_some_iff_append.mp hfind
    have hfound : k.Same q'.1 := by simpa [Value.Same] using hfound
    rcases List.mem_append.mp hmem with hbefore | hfrom
    · exact absurd hsame (by simpa [Value.Same] using hfront q hbefore)
    · rcases List.mem_cons.mp hfrom with rfl | hlater
      · exact ⟨q, hfind, hq⟩
      · have hunlike := List.pairwise_cons.mp (List.pairwise_append.mp hqs.unlike).2.1
        have hlike := ((hk q'.1 (hqs.key q' (by simp)) hfound).2 q.1 (hqs.key q hmem)).mp hsame
        exact absurd hlike (hunlike.1 q hlater)

/-- With keys that are looked up in this way, each entry has a partner. -/
theorem equalEntries_iff (hkeys : ∀ p ∈ ps, IsEqualityAt Value.Same Value.WellFormed p.1)
    (hqs : WellFormedEntries qs) : EqualEntries ps qs ↔ Covers EqualEntry ps qs :=
  and_congr Iff.rfl (forall₂_congr fun p hp => find?_key_iff (hkeys p hp) hqs)

theorem isEqualityAt_entries (hkeys : ∀ p ∈ ps, IsEqualityAt Value.Same Value.WellFormed p.1)
    (hvalues : ∀ p ∈ ps, IsEqualityAt Value.Same Value.WellFormed p.2) (hps : WellFormedEntries ps) :
    IsEqualityAt EqualEntries WellFormedEntries ps := by
  have hpairs : ∀ p ∈ ps, IsEqualityAt EqualEntry (fun p => p.1.WellFormed ∧ p.2.WellFormed) p :=
    fun p hp => ((hkeys p hp).on Prod.fst fun _ h => h.1).and ((hvalues p hp).on Prod.snd fun _ h => h.2)
  have hwell {qs : List (Value × Value)} (hqs : WellFormedEntries qs) :
      ∀ q ∈ qs, q.1.WellFormed ∧ q.2.WellFormed :=
    fun q hq => ⟨hqs.key q hq, hqs.value q hq⟩
  have hunlike : ps.Pairwise fun p q => ¬EqualEntry p q := hps.unlike.imp fun hne h => hne h.1
  intro qs hqs h
  have hcovers := (equalEntries_iff hkeys hqs).mp h
  obtain ⟨hback, hsame⟩ := IsEqualityAt.covers hpairs (hwell hps) hunlike qs (hwell hqs) hcovers
  -- each key on the other side has a partner, so that the laws hold at it too
  have hkeys' : ∀ q ∈ qs, IsEqualityAt Value.Same Value.WellFormed q.1 := by
    intro q hq
    obtain ⟨p, hp, hpq⟩ := hcovers.exists_partner hpairs (hwell hps) hunlike (hwell hqs) q hq
    exact (hkeys p hp).of_related (hqs.key q hq) hpq.1
  refine ⟨(equalEntries_iff hkeys' hps).mpr hback, fun zs hzs => ?_⟩
  rw [equalEntries_iff hkeys hzs, equalEntries_iff hkeys' hzs]
  exact hsame zs (hwell hzs)

/-- **What is the same as a well-formed value is so in either order, and is the same as the same values.** -/
theorem Value.WellFormed.isEqualityAt (h : a.WellFormed) : IsEqualityAt Value.Same Value.WellFormed a := by
  induction h with
  | atom hatom hformat => exact isEqualityAt_atom hatom hformat
  | list _ ih => exact isEqualityAt_of_part list_same_iff Value.WellFormed.list_members (.forall₂ ih)
  | tuple _ ih => exact isEqualityAt_of_part tuple_same_iff Value.WellFormed.tuple_members (.forall₂ ih)
  | set h hunlike ih =>
    exact isEqualityAt_of_part set_same_iff Value.WellFormed.set_members (.covers ih h hunlike)
  | dict hkeys hvalues hunlike ihkeys ihvalues =>
    exact isEqualityAt_of_part dict_same_iff Value.WellFormed.dict_entries
      (isEqualityAt_entries ihkeys ihvalues ⟨hkeys, hvalues, hunlike⟩)
  | rule _ ih =>
    exact isEqualityAt_of_part rule_same_iff Value.WellFormed.rule_args (isEqualityAt_rule ih)
  | @spec rules source _ ih =>
    have hrules : IsEqualityAt (fun s t => List.Forall₂ EqualRule s.1 t.1)
        (fun s => ∀ r ∈ s.1, ∀ v ∈ r.args, v.WellFormed) (rules, source) :=
      (IsEqualityAt.forall₂ fun r hr => isEqualityAt_rule (ih r hr)).on Prod.fst fun _ h => h
    have hspec := isEqualityAt_of_part spec_same_iff Value.WellFormed.spec_args hrules
    exact hspec

/-- The comparison does not depend on the order. -/
theorem Value.WellFormed.same_comm (ha : a.WellFormed) (hb : b.WellFormed) : a.Same b ↔ b.Same a :=
  ⟨fun h => (ha.isEqualityAt b hb h).1, fun h => (hb.isEqualityAt a ha h).1⟩

end Equality

end FieldCheck
