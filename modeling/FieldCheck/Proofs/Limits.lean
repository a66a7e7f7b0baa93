import FieldCheck.Rule.Check
import Mathlib.Data.List.Flatten

/-!
# Values that can be written out

A value is written part by part.  What is in the way of a part is in the way of the whole, and a part
has fewer calls left, the deeper it lies.

* `Value.visits_add` — the visits further inside are the same, with more calls open; by induction on the
  value, its members, entries, arguments and rules.
* `Passable`, `Value.Writable`, `Value.PlainWritable` — nothing is in the way of a visit, of the literal,
  of the plain text; `obstacle?_eq_none_iff`, `plainObstacle?_eq_none_iff`.  `Blocked` — what is.
* `inLists`, `inRules`, `inSpecs` — a value inside others; `deepRule` and `deepSpec` lie too deep.
* `firstObstacle_eq_none_iff`, `firstObstacle_eq_some_iff` — the first obstacle among some values;
  `literalsWithin_eq_ok_iff`, `literalsWithin_eq_error_iff` — their literals.
* `WritingLaws` — what it takes to write a value, one kind after the other.
* `plainText_eq_error_iff`, `plainText_of_room`, `quoting_of_room` — the texts that a rule asks for.

Principal result: `writing_laws`.
-/

set_option autoImplicit false

namespace FieldCheck

/-! ## Visits -/

theorem memberVisits_eq (calls : Nat) (items : List Value) :
    memberVisits calls items = items.flatMap (Value.visits calls) := by
  induction items with
  | nil => rfl
  | cons v rest ih => rw [memberVisits, ih, List.flatMap_cons]

theorem entryVisits_eq (calls : Nat) (entries : List (Value × Value)) :
    entryVisits calls entries = entries.flatMap fun p => p.1.visits calls ++ p.2.visits calls := by
  induction entries with
  | nil => rfl
  | cons p rest ih => rw [entryVisits, ih, List.flatMap_cons]

theorem argumentVisits_eq (calls : Nat) (r : Rule Value) :
    argumentVisits calls r = r.args.flatMap (Value.visits calls) := by
  cases r
  exact memberVisits_eq calls _

theorem ruleVisits_eq (calls : Nat) (rules : List (Rule Value)) :
    ruleVisits calls rules = rules.flatMap (argumentVisits calls) := by
  induction rules with
  | nil => rfl
  | cons r rest ih => rw [ruleVisits, ih, List.flatMap_cons]

/-- A visit with more calls open around it. -/
def deeper (k : Nat) (p : Nat × Value) : Nat × Value := (k + p.1, p.2)

mutual

theorem Value.visits_add (k calls : Nat) :
    ∀ v : Value, v.visits (k + calls) = (v.visits calls).map (deeper k)
  | .absent | .bool _ | .int _ | .float _ | .decimal _ | .text _ | .bytes _ | .date _ | .stamp _
  | .pattern _ | .path _ | .file .. | .thing .. => rfl
  | .list items | .tuple items | .set items => by
    simp only [Value.visits, List.map_cons, Nat.add_assoc, memberVisits_add k _ items]
    rfl
  | .dict entries => by
    simp only [Value.visits, List.map_cons, Nat.add_assoc, entryVisits_add k _ entries]
    rfl
  | .rule r => by
    simp only [Value.visits, List.map_cons, Nat.add_assoc, argumentVisits_add k _ r]
    rfl
  | .spec rules source => by
    simp only [Value.visits, List.map_cons, Nat.add_assoc, ruleVisits_add k _ rules]
    rfl

theorem memberVisits_add (k calls : Nat) : ∀ items : List Value,
    memberVisits (k + calls) items = (memberVisits calls items).map (deeper k)
  | [] => rfl
  | v :: rest => by
    rw [memberVisits, memberVisits, List.map_append, Value.visits_add k calls v,
      memberVisits_add k calls rest]

theorem entryVisits_add (k calls : Nat) : ∀ entries : List (Value × Value),
    entryVisits (k + calls) entries = (entryVisits calls entries).map (deeper k)
  | [] => rfl
  | (key, v) :: rest => by
    rw [entryVisits, entryVisits, List.map_append, List.map_append, Value.visits_add k calls key,
      Value.visits_add k calls v, entryVisits_add k calls rest]

theorem argumentVisits_add (k calls : Nat) : ∀ r : Rule Value,
    argumentVisits (k + calls) r = (argumentVisits calls r).map (deeper k)
  | ⟨_, args, _, _⟩ => memberVisits_add k calls args

theorem ruleVisits_add (k calls : Nat) : ∀ rules : List (Rule Value),
    ruleVisits (k + calls) rules = (ruleVisits calls rules).map (deeper k)
  | [] => rfl
  | r :: rest => by
    rw [ruleVisits, ruleVisits, List.map_append, argumentVisits_add k calls r,
      ruleVisits_add k calls rest]

end

/-! ## Nothing in the way -/

/-- A visit that nothing is in the way of: the calls are granted, and an integer is short enough. -/
def Passable (room : Nat) (p : Nat × Value) : Prop :=
  p.1 ≤ room ∧ ∀ n, p.2 = .int n → (Nat.toDigits 10 n.natAbs).length ≤ digitLimit

/-- What is in the way of a visit: the calls are used up, or there are enough of them and an integer is
too long. -/
def Blocked (room : Nat) (p : Nat × Value) : Obstacle → Prop
  | .depth => room < p.1
  | .digits => p.1 ≤ room ∧ ∃ n, p.2 = .int n ∧ digitLimit < (Nat.toDigits 10 n.natAbs).length

/-- A value whose literal can be written. -/
def Value.Writable (room : Nat) (v : Value) : Prop := ∀ p ∈ v.visits 0, Passable room p

/-- A value that can be written plainly. -/
def Value.PlainWritable (room : Nat) (v : Value) : Prop := ∀ p ∈ v.plainVisits, Passable room p

section Writable

variable {room more k : Nat} {v : Value} {vs : List Value} {p : Nat × Value} {obstacle : Obstacle}

theorem Passable.mono (h : Passable room p) (hle : room ≤ more) : Passable more p :=
  ⟨Nat.le_trans h.1 hle, h.2⟩

theorem passable_deeper : Passable (k + room) (deeper k p) ↔ Passable room p := by
  simp [Passable, deeper]

/-- More calls do no harm. -/
theorem Value.Writable.mono (h : v.Writable room) (hle : room ≤ more) : v.Writable more :=
  fun p hp => (h p hp).mono hle

theorem obstacleAt_eq_some_iff : obstacleAt room p = some obstacle ↔ Blocked room p obstacle := by
  obtain ⟨calls, v⟩ := p
  by_cases hroom : room < calls
  · rw [obstacleAt, if_pos hroom]
    cases obstacle with
    | depth => exact iff_of_true rfl hroom
    | digits => exact iff_of_false nofun fun h => Nat.not_lt.mpr h.1 hroom
  · have hle : calls ≤ room := Nat.le_of_not_lt hroom
    cases obstacle <;> cases v <;> simp [obstacleAt, Blocked, hroom, hle]

theorem obstacleAt_eq_none_iff : obstacleAt room p = none ↔ Passable room p := by
  obtain ⟨calls, v⟩ := p
  by_cases hroom : room < calls
  · rw [obstacleAt, if_pos hroom]
    exact iff_of_false nofun fun h => Nat.not_lt.mpr h.1 hroom
  · have hle : calls ≤ room := Nat.le_of_not_lt hroom
    cases v with
    | int n => simp [obstacleAt, Passable, hroom, hle]
    | _ => simp [obstacleAt, Passable, hroom, hle]

theorem obstacle?_eq_none_iff : v.obstacle? room = none ↔ v.Writable room := by
  simp only [Value.obstacle?, List.findSome?_eq_none_iff, obstacleAt_eq_none_iff, Value.Writable]

theorem plainObstacle?_eq_none_iff : v.plainObstacle? room = none ↔ v.PlainWritable room := by
  simp only [Value.plainObstacle?, List.findSome?_eq_none_iff, obstacleAt_eq_none_iff,
    Value.PlainWritable]

instance : Decidable (v.Writable room) := decidable_of_iff _ obstacle?_eq_none_iff

instance : Decidable (v.PlainWritable room) := decidable_of_iff _ plainObstacle?_eq_none_iff

/-- A visit at some depth is passable with so much more room. -/
theorem forall_visits_iff : (∀ p ∈ v.visits k, Passable (k + room) p) ↔ v.Writable room := by
  have hvisits := v.visits_add k 0
  rw [Nat.add_zero] at hvisits
  rw [hvisits, List.forall_mem_map]
  exact forall₂_congr fun p _ => passable_deeper

theorem forall_flatMap_visits_iff :
    (∀ p ∈ vs.flatMap (Value.visits k), Passable (k + room) p) ↔ ∀ v ∈ vs, v.Writable room := by
  rw [List.forall_mem_flatMap]
  exact forall₂_congr fun v _ => forall_visits_iff

end Writable

/-! ## One kind of value after the other -/

section Kinds

variable {room n : Nat} {v : Value} {items : List Value} {entries : List (Value × Value)}
  {r : Rule Value} {rules : List (Rule Value)} {source : Option String}

/-- The value itself is visited, and that takes a call. -/
theorem Value.own_visit (v : Value) : ∃ p ∈ v.visits 0, 1 ≤ p.1 ∧ p.2 = v := by
  cases v with
  | rule r => exact ⟨(0 + ruleCalls, .rule r), List.mem_cons_self, Nat.le_add_left .., rfl⟩
  | spec rules source =>
    exact ⟨(0 + specCalls, .spec rules source), List.mem_cons_self, Nat.le_add_left .., rfl⟩
  | _ => exact ⟨(1, _), List.mem_cons_self, Nat.le_refl 1, rfl⟩

theorem Value.Writable.pos (h : v.Writable room) : 0 < room := by
  obtain ⟨p, hp, hpos, -⟩ := v.own_visit
  exact Nat.lt_of_lt_of_le hpos (h p hp).1

/-- An integer can be written if it has few enough digits. -/
theorem writable_int {n : Int} :
    (Value.int n).Writable (1 + room) ↔ (Nat.toDigits 10 n.natAbs).length ≤ digitLimit := by
  simp [Value.Writable, Value.visits, Passable]

/-- The visit of a collection needs no more room than those of what is inside it. -/
theorem forall_visits_cons_iff {k : Nat} {rest : List (Nat × Value)}
    (hnumber : ∀ n, v ≠ .int n) :
    (∀ p ∈ (k, v) :: rest, Passable (k + room) p) ↔ ∀ p ∈ rest, Passable (k + room) p := by
  have hown : Passable (k + room) (k, v) :=
    ⟨Nat.le_add_right .., fun n h => absurd h (hnumber n)⟩
  rw [List.forall_mem_cons, and_iff_right hown]

theorem forall_memberVisits_iff {k : Nat} (hnumber : ∀ n, v ≠ .int n) :
    (∀ p ∈ (k, v) :: memberVisits k items, Passable (k + room) p) ↔
      ∀ w ∈ items, w.Writable room := by
  rw [forall_visits_cons_iff hnumber, memberVisits_eq, forall_flatMap_visits_iff]

theorem forall_argumentVisits_iff {k : Nat} :
    (∀ p ∈ argumentVisits k r, Passable (k + room) p) ↔ ∀ v ∈ r.args, v.Writable room := by
  rw [argumentVisits_eq, forall_flatMap_visits_iff]

theorem writable_list :
    (Value.list items).Writable (1 + room) ↔ ∀ v ∈ items, v.Writable room := by
  rw [Value.Writable, Value.visits, Nat.zero_add]
  exact forall_memberVisits_iff fun _ => nofun

theorem writable_tuple :
    (Value.tuple items).Writable (1 + room) ↔ ∀ v ∈ items, v.Writable room := by
  rw [Value.Writable, Value.visits, Nat.zero_add]
  exact forall_memberVisits_iff fun _ => nofun

theorem writable_set :
    (Value.set items).Writable (1 + room) ↔ ∀ v ∈ items, v.Writable room := by
  rw [Value.Writable, Value.visits, Nat.zero_add]
  exact forall_memberVisits_iff fun _ => nofun

theorem writable_dict :
    (Value.dict entries).Writable (1 + room) ↔
      ∀ p ∈ entries, p.1.Writable room ∧ p.2.Writable room := by
  rw [Value.Writable, Value.visits, Nat.zero_add, forall_visits_cons_iff, entryVisits_eq,
    List.forall_mem_flatMap]
  · refine forall₂_congr fun p _ => ?_
    rw [List.forall_mem_append, forall_visits_iff, forall_visits_iff]
  · exact fun _ => nofun

theorem writable_rule :
    (Value.rule r).Writable (ruleCalls + room) ↔ ∀ v ∈ r.args, v.Writable room := by
  rw [Value.Writable, Value.visits, Nat.zero_add, forall_visits_cons_iff,
    forall_argumentVisits_iff]
  exact fun _ => nofun

theorem writable_spec :
    (Value.spec rules source).Writable (specCalls + room) ↔
      ∀ r ∈ rules, ∀ v ∈ r.args, v.Writable room := by
  rw [Value.Writable, Value.visits, Nat.zero_add, forall_visits_cons_iff, ruleVisits_eq,
    List.forall_mem_flatMap]
  · exact forall₂_congr fun r _ => forall_argumentVisits_iff
  · exact fun _ => nofun

/-- A text is written plainly as it is. -/
theorem plainWritable_text (s : String) : (Value.text s).PlainWritable room := nofun

theorem plainWritable_rule :
    (Value.rule r).PlainWritable (ruleTextCalls + room) ↔ ∀ v ∈ r.args, v.Writable room := by
  rw [Value.PlainWritable, Value.plainVisits, forall_visits_cons_iff, forall_argumentVisits_iff]
  exact fun _ => nofun

/-- Any other value is written plainly if its literal can be written. -/
theorem plainWritable_iff (htext : ∀ s, v ≠ .text s) (hrule : ∀ r, v ≠ .rule r) :
    v.PlainWritable room ↔ v.Writable room := by
  rw [Value.PlainWritable, Value.plainVisits, Value.Writable] <;> assumption

end Kinds

/-! ## Values that lie too deep -/

/-- A value in so many lists. -/
def inLists : Nat → Value → Value
  | 0, v => v
  | n + 1, v => .list [inLists n v]

/-- A value in so many rules. -/
def inRules (name : String) : Nat → Value → Value
  | 0, v => v
  | n + 1, v => .rule { name, args := [inRules name n v] }

/-- A value in so many specifications. -/
def inSpecs (name : String) : Nat → Value → Value
  | 0, v => v
  | n + 1, v => .spec [{ name, args := [inSpecs name n v] }] none

section Deep

variable {room : Nat} {v : Value}

/-- However many calls are granted, enough lists use them up. -/
theorem not_writable_inLists {n : Nat} (h : room ≤ n) : ¬ (inLists n v).Writable room := by
  induction n generalizing room with
  | zero =>
    intro hw
    exact absurd hw.pos (by omega)
  | succ n ih =>
    intro hw
    obtain ⟨room, rfl⟩ : ∃ less, room = 1 + less := ⟨room - 1, by have := hw.pos; omega⟩
    have hinner := writable_list.mp hw _ (List.mem_singleton.mpr rfl)
    exact ih (by omega) hinner

/-- Rules in rules and lists in lists: the literal needs more than the usual room. -/
def deepRule : Value := inRules "a" 230 (inLists 100 (.int 1))

theorem obstacle?_deepRule : deepRule.obstacle? usualRoom = some .depth := by
  decide +kernel

/-- Specifications in specifications: the plain text needs more than the usual room. -/
def deepSpec : Value := inSpecs "a" 90 (inLists 150 (.int 1))

theorem plainObstacle?_deepSpec : deepSpec.plainObstacle? usualRoom = some .depth := by
  decide +kernel

end Deep

/-! ## The first obstacle -/

section First

variable {room : Nat} {v : Value} {vs : List Value} {obstacle : Obstacle} {texts : List String}

/-- The first obstacle is met at the first visit that is not passable. -/
theorem obstacle?_eq_some_iff : v.obstacle? room = some obstacle ↔
    ∃ before p after, v.visits 0 = before ++ p :: after ∧
      Blocked room p obstacle ∧ ∀ q ∈ before, Passable room q := by
  simp only [Value.obstacle?, List.findSome?_eq_some_iff, obstacleAt_eq_some_iff,
    obstacleAt_eq_none_iff]

theorem firstObstacle_eq_none_iff :
    vs.findSome? (Value.obstacle? room) = none ↔ ∀ v ∈ vs, v.Writable room := by
  simp only [List.findSome?_eq_none_iff, obstacle?_eq_none_iff]

/-- The first obstacle among some values is that of the first one that cannot be written. -/
theorem firstObstacle_eq_some_iff :
    vs.findSome? (Value.obstacle? room) = some obstacle ↔
      ∃ before v after, vs = before ++ v :: after ∧ v.obstacle? room = some obstacle ∧
        ∀ w ∈ before, w.Writable room := by
  simp only [List.findSome?_eq_some_iff, obstacle?_eq_none_iff]

theorem literalsWithin_eq_ok_iff : literalsWithin room vs = .ok texts ↔
    (∀ v ∈ vs, v.Writable room) ∧ texts = vs.map Value.literalText := by
  rw [← firstObstacle_eq_none_iff, literalsWithin]
  cases vs.findSome? (Value.obstacle? room) <;> simp [eq_comm]

/-- One value that cannot be written is enough. -/
theorem literalsWithin_of_not_writable (hmem : v ∈ vs) (hnot : ¬ v.Writable room) :
    ∃ obstacle, literalsWithin room vs = .error obstacle := by
  cases h : literalsWithin room vs with
  | ok texts => exact absurd ((literalsWithin_eq_ok_iff.mp h).1 v hmem) hnot
  | error obstacle => exact ⟨obstacle, rfl⟩

theorem literalsWithin_eq_error_iff : literalsWithin room vs = .error obstacle ↔
    ∃ before v after, vs = before ++ v :: after ∧ v.obstacle? room = some obstacle ∧
      ∀ w ∈ before, w.Writable room := by
  rw [← firstObstacle_eq_some_iff, literalsWithin]
  cases vs.findSome? (Value.obstacle? room) <;> simp

end First

/-! ## The laws of writing -/

/-- What it takes to write a value: one call for a collection, more for a rule or a specification, and
then what the parts ask for. -/
structure WritingLaws (room : Nat) : Prop where
  int : ∀ n, (Value.int n).Writable (1 + room) ↔
    (Nat.toDigits 10 n.natAbs).length ≤ digitLimit
  list : ∀ items, (Value.list items).Writable (1 + room) ↔ ∀ v ∈ items, v.Writable room
  tuple : ∀ items, (Value.tuple items).Writable (1 + room) ↔ ∀ v ∈ items, v.Writable room
  set : ∀ items, (Value.set items).Writable (1 + room) ↔ ∀ v ∈ items, v.Writable room
  dict : ∀ entries, (Value.dict entries).Writable (1 + room) ↔
    ∀ p ∈ entries, p.1.Writable room ∧ p.2.Writable room
  rule : ∀ r, (Value.rule r).Writable (ruleCalls + room) ↔ ∀ v ∈ r.args, v.Writable room
  spec : ∀ rules source, (Value.spec rules source).Writable (specCalls + room) ↔
    ∀ r ∈ rules, ∀ v ∈ r.args, v.Writable room
  /-- Only texts and rules are written plainly in a way of their own. -/
  plainText : ∀ s, (Value.text s).PlainWritable room
  plainRule : ∀ r, (Value.rule r).PlainWritable (ruleTextCalls + room) ↔
    ∀ v ∈ r.args, v.Writable room
  plain : ∀ v : Value, (∀ s, v ≠ .text s) → (∀ r, v ≠ .rule r) →
    (v.PlainWritable room ↔ v.Writable room)
  /-- More calls do no harm, and any number of them is used up by enough lists. -/
  mono : ∀ (v : Value) (more : Nat), v.Writable room → room ≤ more → v.Writable more
  deep : ∀ (v : Value) (n : Nat), room ≤ n → ¬(inLists n v).Writable room
  /-- A value that cannot be written has a first part that is in the way. -/
  first : ∀ (v : Value) (obstacle : Obstacle), v.obstacle? room = some obstacle ↔
    ∃ before p after, v.visits 0 = before ++ p :: after ∧
      Blocked room p obstacle ∧ ∀ q ∈ before, Passable room q

/-- **Whether a value can be written** is decided part by part, and so is what is raised otherwise. -/
theorem writing_laws (room : Nat) : WritingLaws room where
  int := fun _ => writable_int
  list := fun _ => writable_list
  tuple := fun _ => writable_tuple
  set := fun _ => writable_set
  dict := fun _ => writable_dict
  rule := fun _ => writable_rule
  spec := fun _ _ => writable_spec
  plainText := plainWritable_text
  plainRule := fun _ => plainWritable_rule
  plain := fun _ => plainWritable_iff
  mono := fun _ _ => Value.Writable.mono
  deep := fun _ _ => not_writable_inLists
  first := fun _ _ => obstacle?_eq_some_iff

/-! ## Texts that rules ask for -/

section RuleTexts

variable {c d : Context} {v : Value} {crash : Crash}

/-- All that counts of the context is how many calls are left. -/
theorem plainText_of_room (h : d.room = c.room) : plainText d v = plainText c v := by
  rw [plainText, plainText, h]

theorem quoting_of_room {crashFor : String → Crash} (h : d.room = c.room) :
    quoting d v crashFor = quoting c v crashFor := by
  rw [quoting, quoting, h]

theorem plainText_eq_error_iff : plainText c v = .error crash ↔
    ∃ obstacle, v.plainObstacle? c.room = some obstacle ∧ crash = .unwritten obstacle := by
  unfold plainText
  cases v.plainObstacle? c.room with
  | none => simp
  | some obstacle => simp [eq_comm]

end RuleTexts

end FieldCheck
