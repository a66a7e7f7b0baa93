import FieldCheck.Proofs.Names
import FieldCheck.Proofs.Run
import FieldCheck.Registry.Custom
import Mathlib.Data.List.Dedup

/-!
# Registries in use

What is kept while rules are registered, removed and looked up.

* `find?_put`, `names_put`, `names_unregister` — what the operations do to names and entries.
* `Registration.Makes`, `Registration.Faulty` — the entry that a registration asks for, and what it is
  refused for.
* `Registry.perform` — one operation: the registry after it, and the answer.
* `Consistent`, `Registers` — all that is to be known of the answers about a name and of a registration.
* `Chronicle`, `Registry.run` — registries in use, each with the names that were newly added to it.
* `LatestOrder`, `Chronicle.Sound` — the invariant: names are distinct, and stand in the order in which
  they were added last.
* `Chronicle.forall_run` — what every operation keeps holds of all registries in use.
* `entry_of_plan` — the steps of a plan call entries of the registry.

Principal results: `registries_stay_sound`, and `lookup_after_addition_iff` on rules that are added.
-/

set_option autoImplicit false

namespace FieldCheck

/-! ## Names and entries -/

/-- What has a name is found by it, if no other has the same. -/
theorem find?_of_distinct {α : Type} {name : α → String} {xs : List α} {x : α}
    (hdistinct : (xs.map name).Nodup) (hx : x ∈ xs) :
    xs.find? (fun y => name y == name x) = some x := by
  induction xs with
  | nil => cases hx
  | cons first rest ih =>
    obtain ⟨hfirst, hrest⟩ := List.nodup_cons.mp hdistinct
    rw [List.find?_cons]
    rcases List.mem_cons.mp hx with rfl | hx
    · rw [beq_self_eq_true]
    · have hne : name first ≠ name x := fun heq => hfirst (heq ▸ List.mem_map_of_mem hx)
      rw [beq_eq_false_iff_ne.mpr hne]
      exact ih hrest hx

namespace Registry

section Finding

variable {r : Registry} {e : Entry} {name : String}

theorem find?_isSome_iff : (r.find? name).isSome = true ↔ name ∈ r.names := by
  simp [find?, names, List.find?_isSome]

theorem find?_eq_none_iff : r.find? name = none ↔ name ∉ r.names := by
  rw [← find?_isSome_iff, Bool.not_eq_true, Option.isSome_eq_false_iff, Option.isNone_iff_eq_none]

theorem find?_of_mem (hdistinct : r.names.Nodup) (he : e ∈ r.entries) :
    r.find? e.name = some e :=
  find?_of_distinct hdistinct he

/-- Putting an entry in its place changes no name. -/
theorem name_replaced (e old : Entry) :
    (if old.name = e.name then e else old).name = old.name := by
  split
  · rename_i heq
    exact heq.symm
  · rfl

theorem find?_put (r : Registry) (e : Entry) (name : String) :
    (r.put e).find? name = if e.name = name then some e else r.find? name := by
  unfold put
  split
  · rename_i hthere
    have hsame : (r.entries.map fun old => if old.name = e.name then e else old).find?
        (fun old => old.name == name) =
          (r.find? name).map fun old => if old.name = e.name then e else old := by
      rw [List.find?_map]
      simp only [Function.comp_def, name_replaced, find?]
    rw [find?, hsame]
    cases hfind : r.find? name with
    | none =>
      have hne : e.name ≠ name := by
        rintro rfl
        rw [hfind] at hthere
        cases hthere
      rw [if_neg hne]
      rfl
    | some old =>
      obtain rfl : old.name = name := name_of_find? hfind
      rw [Option.map_some, apply_ite some]
      simp only [eq_comm]
  · rename_i hnone
    rw [find?, List.find?_append]
    by_cases hname : e.name = name
    · subst hname
      have hnone : r.entries.find? (fun old => old.name == e.name) = none := by
        simpa [find?] using hnone
      simp [hnone]
    · simp [find?, hname]

theorem names_put (r : Registry) (e : Entry) :
    (r.put e).names = if e.name ∈ r.names then r.names else r.names ++ [e.name] := by
  unfold put
  simp only [find?_isSome_iff]
  split
  · simp only [names, List.map_map]
    exact List.map_congr_left fun old _ => name_replaced e old
  · simp [names]

theorem names_unregister (r : Registry) (name : String) :
    (r.unregister name).names = r.names.filter (· != name) := by
  simp only [unregister, names, List.filter_map]
  rfl

/-- A name means the entry of that name, or else the one of its form in snake case. -/
theorem lookup_eq_some_iff : r.lookup name = some e ↔
    r.find? name = some e ∨ name ∉ r.names ∧ r.find? (snakeString name) = some e := by
  rw [lookup, Option.or_eq_some_iff, find?_eq_none_iff]

theorem has_iff : r.has name = true ↔ name ∈ r.names ∨ snakeString name ∈ r.names := by
  rw [has, lookup, Option.isSome_or, Bool.or_eq_true, find?_isSome_iff, find?_isSome_iff]

/-- What a name means is found under its own name too. -/
theorem find?_of_lookup (h : r.lookup name = some e) : r.find? e.name = some e := by
  rcases lookup_eq_some_iff.mp h with hfind | ⟨-, hfind⟩
  · rwa [name_of_find? hfind]
  · rwa [name_of_find? hfind]

end Finding

end Registry

/-! ## Registering -/

/-- What a registration is refused for. -/
inductive Registration.Faulty (r : Registry) (g : Registration) : Prop where
  | badName : (∀ name, g.name = .text name → isNameLine name.toList = false) → Faulty r g
  | notCallable : (∀ p, g.candidate ≠ .predicate p) → Faulty r g
  | taken {name : String} : g.name = .text name → name ∈ r.names → g.override = false → Faulty r g
  | unknownPolicy : Policy.ofValue? g.policy = none → Faulty r g

/-- The entry that a registration asks for, where nothing is wrong with it. -/
structure Registration.Makes (r : Registry) (g : Registration) (e : Entry) : Prop where
  name : g.name = .text e.name
  valid : isNameLine e.name.toList = true
  candidate : g.candidate = .predicate e.predicate
  free : e.name ∈ r.names → g.override = true
  defaults : g.defaults = e.defaults
  policy : Policy.ofValue? g.policy = some e.policy

namespace Registry

section Registering

variable {r r' : Registry} {g : Registration} {e : Entry}

theorem vet_eq_ok_iff : r.vet g = .ok e ↔ g.Makes r e := by
  constructor
  · intro h
    unfold vet at h
    split at h
    · rename_i name hname
      split at h
      · cases h
      · rename_i hvalid
        split at h
        · cases h
        · rename_i p hp
          split at h
          · cases h
          · rename_i hfree
            split at h
            · cases h
            · rename_i policy hpolicy
              cases h
              refine ⟨hname, by simpa using hvalid, hp, fun hmem => ?_, rfl, hpolicy⟩
              simpa [find?_isSome_iff.mpr hmem] using hfree
    · cases h
  · rintro ⟨hname, hvalid, hp, hfree, hdefaults, hpolicy⟩
    have hfree : ((r.find? e.name).isSome && !g.override) = false := by
      by_cases hmem : e.name ∈ r.names
      · simp [hfree hmem]
      · simp [find?_eq_none_iff.mpr hmem]
    simp [vet, hname, hvalid, hp, hfree, hdefaults, hpolicy]

theorem faulty_of_vet {fault : SetupFault} (h : r.vet g = .error fault) : g.Faulty r := by
  unfold vet at h
  split at h
  · rename_i name hname
    split at h
    · rename_i hbad
      refine .badName fun other hother => ?_
      rw [hname] at hother
      cases hother
      simpa using hbad
    · split at h
      · rename_i kind hkind
        exact .notCallable fun p hp => by rw [hkind] at hp; cases hp
      · split at h
        · rename_i htaken
          obtain ⟨hthere, hoverride⟩ := Bool.and_eq_true_iff.mp htaken
          exact .taken hname (find?_isSome_iff.mp hthere) (by simpa using hoverride)
        · split at h
          · rename_i hpolicy
            exact .unknownPolicy hpolicy
          · cases h
  · rename_i hother
    exact .badName fun name hname => absurd hname (hother name)

theorem register_eq_ok_iff : r.register g = .ok (e, r') ↔ g.Makes r e ∧ r' = r.put e := by
  rw [← vet_eq_ok_iff, register]
  cases r.vet g with
  | error fault => simp
  | ok made =>
    simp only [Except.ok.injEq, Prod.mk.injEq]
    constructor
    · rintro ⟨rfl, rfl⟩
      exact ⟨rfl, rfl⟩
    · rintro ⟨rfl, rfl⟩
      exact ⟨rfl, rfl⟩

/-- A registration is refused for one of four reasons, and for nothing else. -/
theorem register_refused_iff : (∃ fault, r.register g = .error fault) ↔ g.Faulty r := by
  constructor
  · rintro ⟨fault, h⟩
    unfold register at h
    split at h
    · cases h
    · rename_i hvet
      exact faulty_of_vet hvet
  · intro h
    cases hregister : r.register g with
    | error fault => exact ⟨fault, rfl⟩
    | ok made =>
      obtain ⟨hmakes, -⟩ := register_eq_ok_iff.mp hregister
      cases h with
      | badName hbad =>
        have hvalid := hmakes.valid
        rw [hbad _ hmakes.name] at hvalid
        cases hvalid
      | notCallable hother => exact absurd hmakes.candidate (hother _)
      | taken hname hmem hoverride =>
        rw [hmakes.name] at hname
        cases hname
        rw [hmakes.free hmem] at hoverride
        cases hoverride
      | unknownPolicy hnone =>
        rw [hmakes.policy] at hnone
        cases hnone

end Registering

/-! ## Operations -/

/-- What may be asked of a registry. -/
inductive Operation where
  | register (g : Registration)
  | unregister (name : String)
  | lookup (name : String)
  | get (name : String)
  | has (name : String)
  | addStandard (override : Bool)

/-- What an operation answers. -/
inductive Answer where
  | entry (e : Entry)
  | found (e : Option Entry)
  | flag (b : Bool)
  | done
  | failed (fault : Fault)

/-- One operation: the registry after it, and the answer. -/
def perform (r : Registry) : Operation → Registry × Answer
  | .register g =>
    match r.register g with
    | .ok (e, r') => (r', .entry e)
    | .error fault => (r, .failed (.setup fault))
  | .unregister name => (r.unregister name, .flag (r.find? name).isSome)
  | .lookup name =>
    match r.lookup name with
    | some e => (r, .entry e)
    | none => (r, .failed (.unknownRule name r.names))
  | .get name => (r, .found (r.lookup name))
  | .has name => (r, .flag (r.has name))
  | .addStandard override =>
    match r.addStandard override with
    | (r', none) => (r', .done)
    | (r', some fault) => (r', .failed (.setup fault))

/-- **What is to be known of the answers about a name.** -/
structure Consistent (r : Registry) (name : String) : Prop where
  /-- A name is known exactly if it is registered, or its form in snake case is. -/
  known_iff : (∃ e, (r.perform (.lookup name)).2 = .entry e) ↔
    name ∈ r.names ∨ snakeString name ∈ r.names
  /-- The name itself goes first. -/
  exact {e : Entry} : r.find? name = some e → (r.perform (.lookup name)).2 = .entry e
  fallback {e : Entry} : name ∉ r.names → r.find? (snakeString name) = some e →
    (r.perform (.lookup name)).2 = .entry e
  unknown : (¬∃ e, (r.perform (.lookup name)).2 = .entry e) →
    (r.perform (.lookup name)).2 = .failed (.unknownRule name r.names)
  /-- The name of what was found leads to the same. -/
  again {e : Entry} : (r.perform (.lookup name)).2 = .entry e →
    (r.perform (.lookup e.name)).2 = .entry e
  get_iff {e : Entry} : (r.perform (.get name)).2 = .found (some e) ↔
    (r.perform (.lookup name)).2 = .entry e
  get_none_iff : (r.perform (.get name)).2 = .found none ↔
    ¬∃ e, (r.perform (.lookup name)).2 = .entry e
  has_iff : (r.perform (.has name)).2 = .flag true ↔ ∃ e, (r.perform (.lookup name)).2 = .entry e

theorem lookup_answer_iff {r : Registry} {name : String} {e : Entry} :
    (r.perform (.lookup name)).2 = .entry e ↔ r.lookup name = some e := by
  cases hlookup : r.lookup name with
  | none => simp [perform, hlookup]
  | some found => simp [perform, hlookup]

theorem consistent (r : Registry) (name : String) : r.Consistent name where
  known_iff := by
    simp only [lookup_answer_iff, ← Option.isSome_iff_exists]
    exact Registry.has_iff
  exact h := lookup_answer_iff.mpr (lookup_eq_some_iff.mpr (Or.inl h))
  fallback hnew h := lookup_answer_iff.mpr (lookup_eq_some_iff.mpr (Or.inr ⟨hnew, h⟩))
  unknown h := by
    simp only [lookup_answer_iff, not_exists, ← Option.eq_none_iff_forall_ne_some] at h
    simp only [perform, h]
  again h := by
    rw [lookup_answer_iff] at h ⊢
    exact lookup_eq_some_iff.mpr (Or.inl (find?_of_lookup h))
  get_iff {e} := by
    rw [lookup_answer_iff]
    simp [perform]
  get_none_iff := by
    simp only [lookup_answer_iff, not_exists, ← Option.eq_none_iff_forall_ne_some]
    simp [perform]
  has_iff := by
    simp only [lookup_answer_iff, ← Option.isSome_iff_exists]
    simp [perform, has]

/-- **What is to be known of a registration.** -/
structure Registers (r : Registry) (g : Registration) : Prop where
  /-- It is refused for one of four reasons, and otherwise makes an entry. -/
  refused_iff : (∃ fault, (r.perform (.register g)).2 = .failed fault) ↔ g.Faulty r
  made_iff : (∃ e, (r.perform (.register g)).2 = .entry e) ↔ ¬g.Faulty r
  /-- One that is refused changes nothing. -/
  refused {fault : Fault} : (r.perform (.register g)).2 = .failed fault →
    (r.perform (.register g)).1 = r
  makes {e : Entry} : (r.perform (.register g)).2 = .entry e → g.Makes r e
  /-- One that is not changes the entry of its name only. -/
  found {e : Entry} : (r.perform (.register g)).2 = .entry e →
    (r.perform (.register g)).1.find? e.name = some e
  others {e : Entry} : (r.perform (.register g)).2 = .entry e →
    ∀ other ≠ e.name, (r.perform (.register g)).1.find? other = r.find? other
  /-- A name that is there keeps its place, and a new one comes last. -/
  names {e : Entry} : (r.perform (.register g)).2 = .entry e →
    (r.perform (.register g)).1.names = if e.name ∈ r.names then r.names else r.names ++ [e.name]

theorem registers (r : Registry) (g : Registration) : r.Registers g := by
  have hrefused := register_refused_iff (r := r) (g := g)
  cases hregister : r.register g with
  | error fault =>
    have hperform : r.perform (.register g) = (r, .failed (.setup fault)) := by
      simp only [perform, hregister]
    have hfaulty : g.Faulty r := hrefused.mp ⟨fault, hregister⟩
    constructor <;> simp [hperform, hfaulty]
  | ok made =>
    obtain ⟨e, r'⟩ := made
    have hperform : r.perform (.register g) = (r', .entry e) := by simp only [perform, hregister]
    have hsound : ¬g.Faulty r := by
      rw [← hrefused, hregister]
      simp
    obtain ⟨hmakes, rfl⟩ := register_eq_ok_iff.mp hregister
    constructor <;> simp only [hperform]
    · simpa using hsound
    · simpa using hsound
    · simp
    · rintro _ ⟨⟩
      exact hmakes
    · rintro _ ⟨⟩
      rw [find?_put, if_pos rfl]
    · rintro _ ⟨⟩ other hother
      rw [find?_put, if_neg (Ne.symm hother)]
    · rintro _ ⟨⟩
      exact names_put r e

/-! ## Registries in use -/

/-- The names that registrations add to a registry, one after the other; with the first that is
refused they end. -/
def newlyAdded (r : Registry) : List Registration → List String
  | [] => []
  | g :: rest =>
    match r.register g with
    | .ok (e, r') => (if e.name ∈ r.names then [] else [e.name]) ++ r'.newlyAdded rest
    | .error _ => []

end Registry

/-- The registrations that an operation makes. -/
def Registry.Operation.registrations : Registry.Operation → List Registration
  | .register g => [g]
  | .addStandard override => standardRules.map (StandardRule.registration override)
  | _ => []

/-- A registry in use, and the names that were newly added to it, each as often as it was. -/
structure Chronicle where
  registry : Registry := {}
  added : List String := []

/-- What may happen next among registries: an operation on one of them, or a copy of one. -/
inductive Registry.Move where
  | on (i : Nat) (o : Registry.Operation)
  | copy (i : Nat)

namespace Chronicle

/-- A registry after an operation. -/
def after (k : Chronicle) (o : Registry.Operation) : Chronicle :=
  { registry := (k.registry.perform o).1
    added := k.added ++ k.registry.newlyAdded o.registrations }

/-- One move; a copy is a registry of its own. -/
def move (shelf : List Chronicle) : Registry.Move → List Chronicle
  | .on i o => shelf.modify i fun k => k.after o
  | .copy i => shelf ++ shelf[i]?.toList

end Chronicle

/-- The registries after moves that begin with an empty one. -/
def Registry.run (moves : List Registry.Move) : List Chronicle := moves.foldl Chronicle.move [{}]

/-! ## Order -/

/-- Names that are in the order in which they were added last. -/
def LatestOrder (names added : List String) : Prop := names = added.dedup.filter (· ∈ names)

section Order

variable {names added : List String} {name : String}

theorem dedup_concat (added : List String) (name : String) :
    (added ++ [name]).dedup = added.dedup.filter (· ≠ name) ++ [name] := by
  induction added with
  | nil => rfl
  | cons first rest ih =>
    rw [List.cons_append]
    by_cases hlater : first ∈ rest
    · rw [List.dedup_cons_of_mem (List.mem_append_left _ hlater), List.dedup_cons_of_mem hlater, ih]
    · rw [List.dedup_cons_of_notMem hlater]
      by_cases hname : first = name
      · rw [List.dedup_cons_of_mem (by simp [hname]), ih, List.filter_cons_of_neg (by simp [hname])]
      · rw [List.dedup_cons_of_notMem (by simp [hlater, hname]), ih,
          List.filter_cons_of_pos (by simp [hname]), List.cons_append]

theorem LatestOrder.add (h : LatestOrder names added) (hnew : name ∉ names) :
    LatestOrder (names ++ [name]) (added ++ [name]) := by
  have hkept : ∀ n ∈ added.dedup,
      (decide (n ∈ names ++ [name]) && decide (n ≠ name)) = decide (n ∈ names) := by
    intro n _
    by_cases hn : n = name
    · simp [hn, hnew]
    · simp [hn]
  rw [LatestOrder, dedup_concat, List.filter_append, List.filter_filter, List.filter_congr hkept,
    ← h]
  simp

theorem LatestOrder.remove (h : LatestOrder names added) (name : String) :
    LatestOrder (names.filter (· != name)) added := by
  have hkept : ∀ n ∈ added.dedup,
      decide (n ∈ names.filter (· != name)) = ((n != name) && decide (n ∈ names)) := by
    intro n _
    by_cases hn : n = name
    · simp [hn]
    · simp [hn]
  rw [LatestOrder, List.filter_congr hkept, ← List.filter_filter, ← h]

end Order

/-! ## The invariant -/

namespace Chronicle

/-- **The invariant of a registry in use.** -/
structure Sound (k : Chronicle) : Prop where
  distinct : k.registry.names.Nodup
  /-- Every entry is found under its own name, and nothing else is. -/
  stored : ∀ e ∈ k.registry.entries, k.registry.find? e.name = some e
  own : ∀ name e, k.registry.find? name = some e → e ∈ k.registry.entries ∧ e.name = name
  /-- The names stand in the order in which they were newly added last. -/
  order : LatestOrder k.registry.names k.added

variable {k : Chronicle} {r : Registry} {added : List String}

theorem sound_of (hdistinct : k.registry.names.Nodup)
    (horder : LatestOrder k.registry.names k.added) : k.Sound where
  distinct := hdistinct
  stored _ he := Registry.find?_of_mem hdistinct he
  own _ _ h := ⟨List.mem_of_find?_eq_some h, Registry.name_of_find? h⟩
  order := horder

theorem sound_empty : ({} : Chronicle).Sound := sound_of List.nodup_nil rfl

/-- An entry that is put in a registry adds its name if that is new. -/
theorem Sound.put (h : Sound ⟨r, added⟩) (e : Entry) :
    Sound ⟨r.put e, added ++ if e.name ∈ r.names then [] else [e.name]⟩ := by
  by_cases hold : e.name ∈ r.names
  · have hnames : (r.put e).names = r.names := by rw [Registry.names_put, if_pos hold]
    rw [if_pos hold, List.append_nil]
    refine sound_of ?_ ?_
    · rw [hnames]
      exact h.distinct
    · rw [hnames]
      exact h.order
  · have hnames : (r.put e).names = r.names ++ [e.name] := by rw [Registry.names_put, if_neg hold]
    rw [if_neg hold]
    refine sound_of ?_ ?_
    · rw [hnames, ← List.concat_eq_append]
      exact h.distinct.concat hold
    · rw [hnames]
      exact h.order.add hold

theorem Sound.unregister (h : Sound ⟨r, added⟩) (name : String) :
    Sound ⟨r.unregister name, added⟩ := by
  have hnames := Registry.names_unregister r name
  refine sound_of ?_ ?_
  · rw [hnames]
    exact h.distinct.filter _
  · rw [hnames]
    exact h.order.remove name

theorem Sound.registerAll (h : Sound ⟨r, added⟩) (gs : List Registration) :
    Sound ⟨(r.registerAll gs).1, added ++ r.newlyAdded gs⟩ := by
  induction gs generalizing r added with
  | nil => simpa [Registry.registerAll, Registry.newlyAdded] using h
  | cons g rest ih =>
    rw [Registry.registerAll, Registry.newlyAdded]
    cases hregister : r.register g with
    | error fault => simpa using h
    | ok made =>
      obtain ⟨e, r'⟩ := made
      obtain ⟨-, rfl⟩ := Registry.register_eq_ok_iff.mp hregister
      rw [← List.append_assoc]
      exact ih (h.put e)

/-- Every operation keeps the invariant. -/
theorem Sound.after (h : k.Sound) (o : Registry.Operation) : (k.after o).Sound := by
  have hadded := h.registerAll o.registrations
  have hnone : k.added ++ k.registry.newlyAdded [] = k.added := List.append_nil _
  unfold Chronicle.after
  cases o with
  | register g =>
    simp only [Registry.Operation.registrations, Registry.registerAll] at hadded
    simp only [Registry.perform, Registry.Operation.registrations]
    cases hregister : k.registry.register g with
    | error fault => rwa [hregister] at hadded
    | ok made => rwa [hregister] at hadded
  | addStandard override =>
    simp only [Registry.Operation.registrations] at hadded
    simp only [Registry.perform, Registry.Operation.registrations, Registry.addStandard]
    split
    · rename_i r' hdone
      rwa [hdone] at hadded
    · rename_i r' fault hfault
      rwa [hfault] at hadded
  | unregister name =>
    simp only [Registry.perform, Registry.Operation.registrations, hnone]
    exact Sound.unregister h name
  | lookup name =>
    simp only [Registry.perform, Registry.Operation.registrations, hnone]
    split
    · exact h
    · exact h
  | get name => simpa only [Registry.perform, Registry.Operation.registrations, hnone] using h
  | has name => simpa only [Registry.perform, Registry.Operation.registrations, hnone] using h

/-- What operations keep, moves keep of all registries. -/
theorem forall_move {P : Chronicle → Prop} (hafter : ∀ k o, P k → P (k.after o))
    {shelf : List Chronicle} (h : ∀ k ∈ shelf, P k) (m : Registry.Move) :
    ∀ k ∈ Chronicle.move shelf m, P k := by
  cases m with
  | on i o =>
    intro k hk
    obtain ⟨j, hj⟩ := List.mem_iff_getElem?.mp hk
    rw [Chronicle.move, List.getElem?_modify] at hj
    obtain ⟨old, hold, rfl⟩ := Option.map_eq_some_iff.mp hj
    have hkept := h old (List.mem_of_getElem? hold)
    split
    · exact hafter old o hkept
    · exact hkept
  | copy i =>
    intro k hk
    rcases List.mem_append.mp hk with hk | hk
    · exact h k hk
    · exact h k (List.mem_of_getElem? (Option.mem_toList.mp hk))

/-- What holds of an empty registry and is kept by operations holds of all registries in use. -/
theorem forall_run {P : Chronicle → Prop} (hempty : P {}) (hafter : ∀ k o, P k → P (k.after o))
    (moves : List Registry.Move) : ∀ k ∈ Registry.run moves, P k := by
  have hfold : ∀ shelf : List Chronicle, (∀ k ∈ shelf, P k) →
      ∀ k ∈ moves.foldl Chronicle.move shelf, P k := by
    induction moves with
    | nil => exact fun shelf h => h
    | cons m rest ih => exact fun shelf h => ih _ (forall_move hafter h m)
  exact hfold [{}] (by simpa using hempty)

theorem sound_run (moves : List Registry.Move) : ∀ k ∈ Registry.run moves, k.Sound :=
  forall_run sound_empty (fun _ o h => h.after o) moves

end Chronicle

/-- **Registries stay sound.**  After whatever was registered, overridden, removed, looked up and
copied, the names of a registry are distinct and stand in the order in which they were newly added
last, every entry stands under its own name, looking up, asking and getting agree on every name, and
a registration changes nothing where it is refused and one entry where it is not. -/
theorem registries_stay_sound {moves : List Registry.Move} {i : Nat} {k : Chronicle}
    (h : (Registry.run moves)[i]? = some k) :
    k.Sound ∧ (∀ name, k.registry.Consistent name) ∧ ∀ g, k.registry.Registers g :=
  ⟨Chronicle.sound_run moves k (List.mem_of_getElem? h), Registry.consistent k.registry,
    Registry.registers k.registry⟩

/-- Two rules, of which the first is removed and registered again; what is refused, and what is
registered in a copy, leaves no trace. -/
def returningRules : List Registry.Move :=
  let rule (name : String) (override : Bool) : Registration :=
    { name := .text name, candidate := .predicate Rules.mark.predicate, override }
  [.on 0 (.register (rule "startsUpper" false)), .on 0 (.register (rule "even" false)),
   .on 0 (.register (rule "even" false)), .copy 0, .on 1 (.addStandard false),
   .on 0 (.unregister "startsUpper"), .on 0 (.register (rule "even" true)),
   .on 0 (.register (rule "starts upper" false)), .on 0 (.register (rule "starts_upper" false))]

theorem registries_stay_sound_returning : ∃ k, (Registry.run returningRules)[0]? = some k ∧
    k.registry.names = ["even", "starts_upper"] ∧
    k.added = ["startsUpper", "even", "starts_upper"] ∧
    k.Sound ∧ (∀ name, k.registry.Consistent name) ∧ ∀ g, k.registry.Registers g := by
  obtain ⟨k, hk⟩ : ∃ k, (Registry.run returningRules)[0]? = some k := ⟨_, rfl⟩
  have hvalue := Option.some.inj hk
  refine ⟨k, hk, ?_, ?_, registries_stay_sound hk⟩
  · rw [← hvalue]
    rfl
  · rw [← hvalue]
    rfl

/-! ## The entries that a plan calls -/

section Planned

variable {r : Registry} {spec : Spec} {v : Value} {steps : List Step}

theorem entry_of_markStops {bailing : Bool} {resolved : List (Rule Value × Entry)} {s : Step}
    (hs : s ∈ markStops bailing resolved) : ∃ p ∈ resolved, s.entry = p.2 := by
  induction resolved generalizing bailing with
  | nil => cases hs
  | cons p rest ih =>
    rcases List.mem_cons.mp hs with rfl | hs
    · exact ⟨p, List.mem_cons_self, rfl⟩
    · obtain ⟨q, hq, hentry⟩ := ih hs
      exact ⟨q, List.mem_cons_of_mem _ hq, hentry⟩

/-- The steps of a plan call entries that the registry has under their names. -/
theorem entry_of_plan (h : r.plan spec v = .ok steps) {s : Step} (hs : s ∈ steps) :
    r.find? s.entry.name = some s.entry := by
  obtain ⟨ps, rfl, -, hmeant⟩ := plan_eq_ok h
  obtain ⟨p, hp, hentry⟩ := entry_of_markStops hs
  rw [hentry]
  exact Registry.find?_of_lookup (hmeant p hp)

end Planned

/-! ## Rules that are added -/

namespace Registry

variable {r r' : Registry}

/-- Names that mean the same in both registries are resolved to the same. -/
theorem resolve_congr {rules : List (Rule Value)}
    (h : ∀ rule ∈ rules, ∃ e, r.lookup rule.name = some e ∧ r'.lookup rule.name = some e) :
    r'.resolve rules = r.resolve rules := by
  induction rules with
  | nil => rfl
  | cons rule rest ih =>
    obtain ⟨⟨e, he, he'⟩, hrest⟩ := List.forall_mem_cons.mp h
    simp only [resolve, he, he', ih hrest]

theorem evaluateWith_congr {spec : Spec}
    (h : ∀ rule ∈ spec.rules, ∃ e, r.lookup rule.name = some e ∧ r'.lookup rule.name = some e)
    (halts : Step → Bool) (v : Value) (c : Context) :
    evaluateWith halts r' spec v c = evaluateWith halts r spec v c := by
  simp only [evaluateWith, plan, resolve_congr h]

end Registry

section Addition

variable {r r' : Registry} {g : Registration} {e e' : Entry} {name : String}

/-- An addition without override puts an entry under a name that was not there. -/
theorem fresh_of_addition (hoverride : g.override = false) (hadded : r.register g = .ok (e', r')) :
    e'.name ∉ r.names ∧
      ∀ name, r'.find? name = if e'.name = name then some e' else r.find? name := by
  obtain ⟨hmakes, rfl⟩ := Registry.register_eq_ok_iff.mp hadded
  refine ⟨fun hold => ?_, Registry.find?_put r e'⟩
  rw [hmakes.free hold] at hoverride
  cases hoverride

/-- An addition leaves what other names mean as it is. -/
theorem lookup_of_other (hfound : r.lookup name = some e) (hoverride : g.override = false)
    (hadded : r.register g = .ok (e', r')) (hother : e'.name ≠ name) :
    r'.lookup name = some e := by
  obtain ⟨hfresh, hfind⟩ := fresh_of_addition hoverride hadded
  rw [Registry.lookup, hfind name, if_neg hother]
  rcases Registry.lookup_eq_some_iff.mp hfound with hexact | ⟨hnew, hsnake⟩
  · rw [hexact, Option.some_or]
  · -- the name in snake case is there already, so it is not the name that is added
    have hne : e'.name ≠ snakeString name := by
      intro heq
      rw [heq] at hfresh
      exact hfresh (Registry.find?_isSome_iff.mp (by rw [hsnake]; rfl))
    rw [Registry.find?_eq_none_iff.mpr hnew, Option.none_or, hfind, if_neg hne, hsnake]

/-- An addition takes its own name, also where that meant another entry in snake case. -/
theorem lookup_of_added (hfound : r.lookup name = some e) (hoverride : g.override = false)
    (hadded : r.register g = .ok (e', r')) (hsame : e'.name = name) :
    r'.lookup name = some e' ∧ e.name = snakeString name ∧ e.name ≠ name := by
  obtain ⟨hfresh, hfind⟩ := fresh_of_addition hoverride hadded
  rw [hsame] at hfresh
  refine ⟨?_, ?_⟩
  · rw [Registry.lookup, hfind, if_pos hsame, Option.some_or]
  · rcases Registry.lookup_eq_some_iff.mp hfound with hexact | ⟨-, hsnake⟩
    · exact absurd (Registry.find?_isSome_iff.mp (by rw [hexact]; rfl)) hfresh
    · refine ⟨Registry.name_of_find? hsnake, fun heq => hfresh ?_⟩
      rw [← heq, Registry.name_of_find? hsnake]
      exact Registry.find?_isSome_iff.mp (by rw [hsnake]; rfl)

/-- **What an addition changes.**  Without override it changes the meaning of a known name exactly if it
is the very name that is added: that was known in snake case only, and now means the new entry.
Specifications that do not write the name are evaluated as before. -/
theorem lookup_after_addition_iff (hfound : r.lookup name = some e) (hoverride : g.override = false)
    (hadded : r.register g = .ok (e', r')) :
    (r'.lookup name = some e ↔ e'.name ≠ name) ∧
    (e'.name = name → r'.lookup name = some e' ∧ e.name = snakeString name ∧ e.name ≠ name) ∧
    ∀ spec : Spec, (∀ rule ∈ spec.rules, r.has rule.name = true ∧ e'.name ≠ rule.name) →
      ∀ halts v c, evaluateWith halts r' spec v c = evaluateWith halts r spec v c := by
  refine ⟨⟨fun hstill hsame => ?_, lookup_of_other hfound hoverride hadded⟩,
    lookup_of_added hfound hoverride hadded, fun spec hspec => ?_⟩
  · obtain ⟨hnow, -, hne⟩ := lookup_of_added hfound hoverride hadded hsame
    rw [hstill, Option.some.injEq] at hnow
    exact hne (by rw [hnow, hsame])
  · refine Registry.evaluateWith_congr fun rule hrule => ?_
    obtain ⟨hknown, hother⟩ := hspec rule hrule
    obtain ⟨known, hlookup⟩ := Option.isSome_iff_exists.mp hknown
    exact ⟨known, hlookup, lookup_of_other hlookup hoverride hadded hother⟩

end Addition

/-- A rule that always answers the same. -/
def constantEntry (name : String) (answer : Bool) : Entry :=
  { name, predicate := Custom.predicate { id := name, behaviour := .constant (.bool answer) } }

def constantRule (name : String) (answer : Bool) : Registration :=
  { name := .text name, candidate := .predicate (constantEntry name answer).predicate }

theorem lookup_after_addition_even :
    let r : Registry := { entries := [constantEntry "ends_with" true] }
    let r' : Registry := { entries := [constantEntry "ends_with" true, constantEntry "even" false] }
    r.lookup "endsWith" = some (constantEntry "ends_with" true) ∧
    r.register (constantRule "even" false) = .ok (constantEntry "even" false, r') ∧
    r'.lookup "endsWith" = some (constantEntry "ends_with" true) := by
  refine ⟨rfl, rfl, ?_⟩
  exact (lookup_after_addition_iff (r := { entries := [constantEntry "ends_with" true] })
    (g := constantRule "even" false) rfl rfl rfl).1.mpr (by decide)

/-- A name in camel case that is added takes the place of the rule that it meant. -/
theorem addition_shadows_snakeCase : ¬∀ (moves : List Registry.Move) (i : Nat) (k : Chronicle)
    (name : String) (g : Registration) (e e' : Entry) (r' : Registry),
      (Registry.run moves)[i]? = some k → k.registry.lookup name = some e → g.override = false →
      k.registry.register g = .ok (e', r') → r'.lookup name = some e := by
  intro h
  have hstill := h [.on 0 (.register (constantRule "ends_with" true))] 0 _ "endsWith"
    (constantRule "endsWith" false) _ _ _ rfl rfl rfl rfl
  have hname := congrArg (Option.map Entry.name) hstill
  exact absurd hname (by decide)

end FieldCheck
