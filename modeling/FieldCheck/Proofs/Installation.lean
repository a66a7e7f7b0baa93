import FieldCheck.Proofs.RegisteredNames

/-!
# The standard rules in a registry that is in use

The rules of the library are registered one after the other, and the first one that is refused ends the
work.  Those before it stay.

* `StandardRule.register_of_granted`, `StandardRule.register_of_taken` — a standard rule is registered
  unless its name is taken and may not be replaced.
* `Registry.Installed` — rules of the library are in a registry, each under its own name, and nothing
  else has changed.
* `installed_registerAll`, `registerAll_of_free` — what a run of registrations leaves that are all
  granted; `registerAll_append` cuts a run in two.

Principal results: `addStandard_installs_or_stops`, and `addStandard_leaves_part` on a registry that is left
with a part of the rules.
-/

set_option autoImplicit false

namespace FieldCheck

variable {r r' : Registry} {override : Bool} {b : StandardRule} {bs : List StandardRule}

/-! ## One rule -/

theorem Policy.ofValue?_name (p : Policy) : Policy.ofValue? (.text p.name) = some p := by
  cases p with
  | skip => rfl
  | run => rfl
  | bypass => rfl

theorem standardRules_isNameLine (hb : b ∈ standardRules) : isNameLine b.name.toList = true :=
  isNameLine_iff.mpr (Or.inl (standardRules_plain b hb).2.2)

/-- A standard rule is registered if its name is free or may be replaced. -/
theorem StandardRule.register_of_granted (hb : b ∈ standardRules)
    (hfree : b.name ∈ r.names → override = true) :
    r.register (b.registration override) = .ok (b.entry, r.put b.entry) :=
  Registry.register_eq_ok_iff.mpr
    ⟨⟨rfl, standardRules_isNameLine hb, rfl, hfree, rfl, Policy.ofValue?_name b.policy⟩, rfl⟩

/-- It is refused if its name is taken and may not be replaced. -/
theorem StandardRule.register_of_taken (hb : b ∈ standardRules) (htaken : b.name ∈ r.names) :
    r.register (b.registration false) = .error (.taken b.name) := by
  have hthere : (r.find? b.name).isSome = true := Registry.find?_isSome_iff.mpr htaken
  simp [Registry.register, Registry.vet, StandardRule.registration, standardRules_isNameLine hb,
    hthere]

namespace Registry

/-! ## Rules one after the other -/

/-- With the first registrations done, the work goes on from the registry that they leave. -/
theorem registerAll_append {gs : List Registration} (h : r.registerAll gs = (r', none))
    (hs : List Registration) : r.registerAll (gs ++ hs) = r'.registerAll hs := by
  induction gs generalizing r with
  | nil =>
    cases h
    rfl
  | cons g rest ih =>
    rw [registerAll] at h
    rw [List.cons_append, registerAll]
    cases hregister : r.register g with
    | error fault =>
      rw [hregister] at h
      cases h
    | ok made =>
      rw [hregister] at h
      exact ih h

/-- Putting an entry adds no other name. -/
theorem mem_names_put_of_ne {name : String} {e : Entry} (hne : name ≠ e.name) :
    name ∈ (r.put e).names ↔ name ∈ r.names := by
  rw [names_put]
  split
  · rfl
  · rw [List.mem_append, List.mem_singleton, or_iff_left hne]

/-- These rules of the library are in the second registry, each under its own name and new names in order
behind the others; all other names mean what they meant in the first. -/
structure Installed (r r' : Registry) (bs : List StandardRule) : Prop where
  own : ∀ b ∈ bs, r'.find? b.name = some b.entry
  others : ∀ name ∉ bs.map StandardRule.name, r'.find? name = r.find? name
  names : r'.names = r.names ++ (bs.map StandardRule.name).filter (· ∉ r.names)

theorem Installed.nil (r : Registry) : r.Installed r [] :=
  ⟨nofun, fun _ _ => rfl, (List.append_nil _).symm⟩

/-- A rule in front of others that have another name. -/
theorem Installed.cons (hnew : b.name ∉ bs.map StandardRule.name)
    (h : (r.put b.entry).Installed r' bs) : r.Installed r' (b :: bs) := by
  refine ⟨?_, ?_, ?_⟩
  · intro a ha
    rcases List.mem_cons.mp ha with rfl | ha
    · rw [h.others _ hnew, find?_put, StandardRule.entry_name, if_pos rfl]
    · exact h.own a ha
  · intro name hname
    rw [List.map_cons, List.mem_cons, not_or] at hname
    rw [h.others name hname.2, find?_put, StandardRule.entry_name, if_neg (Ne.symm hname.1)]
  · -- behind the first rule its own name is there, which the others do not have
    have hsame : (bs.map StandardRule.name).filter (· ∉ (r.put b.entry).names) =
        (bs.map StandardRule.name).filter (· ∉ r.names) := by
      refine List.filter_congr fun name hname => ?_
      have hne : name ≠ b.name := fun heq => hnew (heq ▸ hname)
      exact decide_eq_decide.mpr (not_congr (mem_names_put_of_ne hne))
    rw [h.names, hsame, names_put, List.map_cons, List.filter_cons]
    by_cases hthere : b.name ∈ r.names
    · simp [hthere]
    · simp [hthere]

/-- Rules of the library with names of their own are all registered if every name is free or may be
replaced. -/
theorem installed_registerAll (hbs : ∀ b ∈ bs, b ∈ standardRules)
    (hdistinct : (bs.map StandardRule.name).Nodup)
    (hgranted : override = true ∨ ∀ b ∈ bs, b.name ∉ r.names) :
    ∃ r', r.registerAll (bs.map (StandardRule.registration override)) = (r', none) ∧
      r.Installed r' bs := by
  induction bs generalizing r with
  | nil => exact ⟨r, rfl, .nil r⟩
  | cons b rest ih =>
    rw [List.forall_mem_cons] at hbs
    rw [List.map_cons, List.nodup_cons] at hdistinct
    have hfree : b.name ∈ r.names → override = true := fun hmem =>
      hgranted.elim id fun hall => absurd hmem (hall b List.mem_cons_self)
    have hrest : override = true ∨ ∀ a ∈ rest, a.name ∉ (r.put b.entry).names := by
      refine hgranted.imp_right fun hall a ha => ?_
      have hne : a.name ≠ b.name := fun heq => hdistinct.1 (heq ▸ List.mem_map_of_mem ha)
      rw [mem_names_put_of_ne hne]
      exact hall a (List.mem_cons_of_mem _ ha)
    obtain ⟨r', hrun, hinstalled⟩ := ih hbs.2 hdistinct.2 hrest
    refine ⟨r', ?_, hinstalled.cons hdistinct.1⟩
    rw [List.map_cons, registerAll, StandardRule.register_of_granted hbs.1 hfree]
    exact hrun

/-- Rules with names that are all free are added behind what is there. -/
theorem registerAll_of_free (hbs : ∀ b ∈ bs, b ∈ standardRules)
    (hdistinct : (bs.map StandardRule.name).Nodup) (hfree : ∀ b ∈ bs, b.name ∉ r.names) :
    r.registerAll (bs.map (StandardRule.registration override)) =
      ({ entries := r.entries ++ bs.map StandardRule.entry }, none) := by
  induction bs generalizing r with
  | nil => rw [List.map_nil, List.map_nil, List.append_nil, registerAll]
  | cons b rest ih =>
    rw [List.forall_mem_cons] at hbs hfree
    rw [List.map_cons, List.nodup_cons] at hdistinct
    have hput : r.put b.entry = { entries := r.entries ++ [b.entry] } := by
      rw [put, if_neg]
      rw [find?_isSome_iff]
      exact hfree.1
    have hrest : ∀ a ∈ rest, a.name ∉ (r.put b.entry).names := by
      intro a ha
      have hne : a.name ≠ b.name := fun heq => hdistinct.1 (heq ▸ List.mem_map_of_mem ha)
      rw [mem_names_put_of_ne hne]
      exact hfree.2 a ha
    rw [List.map_cons, registerAll, StandardRule.register_of_granted hbs.1 (absurd · hfree.1)]
    refine (ih hbs.2 hdistinct.2 hrest).trans ?_
    rw [hput, List.append_assoc, List.singleton_append, List.map_cons]

/-! ## The whole library -/

theorem standardRules_distinct : (standardRules.map StandardRule.name).Nodup := by decide

/-- Either no name of the library is taken, or there is a first rule of which it is. -/
theorem exists_first_taken (r : Registry) (bs : List StandardRule) :
    (∀ b ∈ bs, b.name ∉ r.names) ∨ ∃ before b after, bs = before ++ b :: after ∧
      (∀ a ∈ before, a.name ∉ r.names) ∧ b.name ∈ r.names := by
  cases hfind : bs.find? fun b => decide (b.name ∈ r.names) with
  | none =>
    rw [List.find?_eq_none] at hfind
    exact Or.inl fun b hb => by simpa using hfind b hb
  | some b =>
    obtain ⟨htaken, before, after, hsplit, hbefore⟩ := List.find?_eq_some_iff_append.mp hfind
    exact Or.inr ⟨before, b, after, hsplit, fun a ha => by simpa using hbefore a ha,
      by simpa using htaken⟩

/-- **Either all rules of the library are registered, or the work stops at the first name that is
taken.**  In the first case every name of the library has its own entry and all other entries are what
they were.  In the second, which there is only without leave to replace, the rules in front of that
name have been added, and all that was there is still there, in its place. -/
theorem addStandard_installs_or_stops (r : Registry) (override : Bool) :
    ((override = true ∨ ∀ b ∈ standardRules, b.name ∉ r.names) ∧
      ∃ r', r.perform (.addStandard override) = (r', .done) ∧ r.Installed r' standardRules) ∨
    (override = false ∧ ∃ before b after fault, standardRules = before ++ b :: after ∧
      (∀ a ∈ before, a.name ∉ r.names) ∧ b.name ∈ r.names ∧
      r.perform (.addStandard override) =
        ({ entries := r.entries ++ before.map StandardRule.entry }, .failed fault) ∧
      fault = .setup (.taken b.name) ∧ fault.record.kind = .configuration) := by
  have hinstalls (hgranted : override = true ∨ ∀ b ∈ standardRules, b.name ∉ r.names) :
      ∃ r', r.perform (.addStandard override) = (r', .done) ∧ r.Installed r' standardRules := by
    obtain ⟨r', hrun, hinstalled⟩ :=
      installed_registerAll (fun _ hb => hb) standardRules_distinct hgranted
    exact ⟨r', by rw [perform, addStandard, hrun], hinstalled⟩
  cases override with
  | true => exact Or.inl ⟨Or.inl rfl, hinstalls (Or.inl rfl)⟩
  | false =>
    rcases exists_first_taken r standardRules with hfree | ⟨before, b, after, hsplit, hbefore, htaken⟩
    · exact Or.inl ⟨Or.inr hfree, hinstalls (Or.inr hfree)⟩
    · refine Or.inr ⟨rfl, before, b, after, _, hsplit, hbefore, htaken, ?_, rfl, rfl⟩
      have hmem : ∀ a ∈ before, a ∈ standardRules := fun a ha =>
        hsplit ▸ List.mem_append_left _ ha
      have hb : b ∈ standardRules := hsplit ▸ List.mem_append_right _ List.mem_cons_self
      have hdistinct : (before.map StandardRule.name).Nodup := by
        have hall := standardRules_distinct
        rw [hsplit, List.map_append] at hall
        exact hall.of_append_left
      have hrun : r.registerAll (before.map (StandardRule.registration false)) =
          ({ entries := r.entries ++ before.map StandardRule.entry }, none) :=
        registerAll_of_free hmem hdistinct hbefore
      have hstill : b.name ∈ names { entries := r.entries ++ before.map StandardRule.entry } := by
        rw [names, List.map_append]
        exact List.mem_append_left _ htaken
      rw [perform, addStandard, hsplit, List.map_append, registerAll_append hrun, List.map_cons,
        registerAll, StandardRule.register_of_taken hb hstill]

/-- A registry with a rule of its own under a name of the library is left with a part of the library:
the work is refused, and neither is every rule there nor is the registry what it was. -/
theorem addStandard_leaves_part : ¬∀ (r : Registry) (override : Bool),
    (∃ r', r.perform (.addStandard override) = (r', .done) ∧ r.Installed r' standardRules) ∨
    (∃ fault, r.perform (.addStandard override) = (r, .failed fault) ∧
      fault.record.kind = .configuration) := by
  intro hall
  have hnames : (perform { entries := [constantEntry "mime" true] } (.addStandard false)).1.names =
      ["mime", "accepted", "after", "alpha", "alphanumeric", "bail", "before", "between", "confirm",
        "date", "email", "ends_with", "in", "matches", "max"] := rfl
  rcases hall { entries := [constantEntry "mime" true] } false with ⟨r', hdone, -⟩ | ⟨fault, hsame, -⟩
  · cases hdone
  · rw [hsame] at hnames
    cases hnames

end Registry

end FieldCheck
