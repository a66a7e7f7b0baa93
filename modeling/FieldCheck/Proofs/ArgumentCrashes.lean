import FieldCheck.Proofs.Limits
import FieldCheck.Proofs.Sizes

/-!
# Crashes on bad arguments

The rules for sizes and letters crash on arguments that they cannot use, and those for the edges of a
text on arguments that they cannot write.  The plainest rules never crash, and no submitted value makes
any of the rules for sizes and letters crash.

* `crashOf?` — the crash of a computation, with one lemma for each way to go on.
* `holdsAny_eq_error_iff` — where a search crashes.
* `IsMode`, `ofValue?_eq_none_iff` — the arguments that ask for a mode.
* `complaint`, `argumentCrash?` — what is wrong with an argument, and the first complaint about the
  arguments of a rule; `Complains` says of what kind it is.
* `crashOf?_standardAnswer?` — a rule crashes with that complaint, whatever the value is.
* `Stuck`, `related_eq_error_iff` — where a rule for the edges of a text crashes.
* `CrashesOnArguments` — all that is to be known of these crashes.

Principal result: `crashes_on_arguments`.  Not all of these crashes are of one kind, and the value may
decide: `edge_crashes_on_text`.
-/

set_option autoImplicit false

namespace FieldCheck

/-! ## Crashes of computations -/

/-- The crash that a computation ends with. -/
def crashOf? {α : Type} : Except Crash α → Option Crash
  | .error crash => some crash
  | .ok _ => none

section CrashOf

variable {α β : Type} {x : Except Crash α}

theorem crashOf?_eq_some_iff {crash : Crash} : crashOf? x = some crash ↔ x = .error crash := by
  cases x <;> simp [crashOf?]

@[simp] theorem crashOf?_map (f : α → β) : crashOf? (x.map f) = crashOf? x := by
  cases x <;> rfl

/-- A computation that goes on in the same way after every result crashes early or late. -/
theorem crashOf?_bind {f : α → Except Crash β} {late : Option Crash}
    (h : ∀ a, crashOf? (f a) = late) : crashOf? (x.bind f) = (crashOf? x).or late := by
  cases x with
  | error crash => rfl
  | ok a => exact h a

end CrashOf

section HoldsAny

variable {α : Type} {test : α → Except Crash Bool} {xs : List α} {crash : Crash}

/-- The answer that ends a search; a no does not. -/
def final? : Except Crash Bool → Option (Except Crash Bool)
  | .ok false => none
  | answer => some answer

/-- A search ends at the first answer that is not no. -/
theorem holdsAny_eq_findSome? :
    holdsAny test xs = (xs.findSome? fun x => final? (test x)).getD (.ok false) := by
  induction xs with
  | nil => rfl
  | cons x rest ih =>
    rw [holdsAny, List.findSome?_cons, ih]
    rcases test x with _ | _ | _ <;> rfl

/-- A search crashes where a test does, if all tests in front of it say no. -/
theorem holdsAny_eq_error_iff :
    holdsAny test xs = .error crash ↔ ∃ before x behind, xs = before ++ x :: behind ∧
      test x = .error crash ∧ ∀ y ∈ before, test y = .ok false := by
  have hcrash (answer : Except Crash Bool) :
      final? answer = some (.error crash) ↔ answer = .error crash := by
    rcases answer with _ | _ | _ <;> simp [final?]
  have hno (answer : Except Crash Bool) : final? answer = none ↔ answer = .ok false := by
    rcases answer with _ | _ | _ <;> simp [final?]
  rw [holdsAny_eq_findSome?, Option.getD_eq_iff]
  simp only [reduceCtorEq, and_false, or_false, List.findSome?_eq_some_iff, hcrash, hno]

end HoldsAny

namespace Rules

/-! ## Complaints -/

/-- The arguments that ask for a mode, or for none. -/
def IsMode (a : Value) : Prop := a = .absent ∨ ∃ word ∈ ["", "length", "value"], a = .text word

theorem ofValue?_eq_none_iff {a : Value} : SizeMode.ofValue? a = none ↔ ¬IsMode a := by
  cases a with
  | text s =>
    simp only [SizeMode.ofValue?, IsMode]
    split_ifs with hempty hlength hvalue
    · simp [hempty]
    · simp [hlength]
    · simp [hvalue]
    · simp [hempty, hlength, hvalue]
  | _ => simp [SizeMode.ofValue?, IsMode]

/-- The crash that an argument is worth if it is not good. -/
def complaint (good : Value → Bool) (crash : Value → Crash) (a : Value) : Option Crash :=
  if good a then none else some (crash a)

/-- A bound has to be a number or a numeral. -/
def boundCrash? (rule : String) (c : Context) : Value → Option Crash :=
  complaint (fun a => a.number?.isSome) fun a => quoting c a (.boundNotNumeric rule)

/-- A mode has to be one of those that there are. -/
def modeCrash? (c : Context) : Value → Option Crash :=
  complaint (fun a => (SizeMode.ofValue? a).isSome) fun a => quoting c a .unknownMode

/-- A set of letters has to be one of those that there are, and written for that. -/
def charsetCrash? (c : Context) (a : Value) : Option Crash :=
  (crashOf? (plainText c a)).or
    (complaint (fun a => (Charset.ofName? a.textForm).isSome) (fun a => quoting c a .unknownCharset) a)

/-- The calls are used up on the way to a text of the value. -/
def TooDeep (room : Nat) (a : Value) : Prop :=
  a.obstacle? room = some .depth ∨ a.plainObstacle? room = some .depth

/-- A crash as bad arguments cause it: of the usual kind, or because one of them lies too deep. -/
def Complains (c : Context) (args : List Value) (crash : Crash) : Prop :=
  crash.kind = .value ∨ (crash = .unwritten .depth ∧ ∃ a ∈ args, TooDeep c.room a)

section Complaint

variable {good : Value → Bool} {c : Context} {args : List Value} {a : Value} {crash : Crash}

theorem complains_of_obstacle {obstacle : Obstacle} (ha : a ∈ args)
    (h : a.obstacle? c.room = some obstacle ∨ a.plainObstacle? c.room = some obstacle) :
    Complains c args (.unwritten obstacle) := by
  cases obstacle with
  | digits => exact .inl rfl
  | depth => exact .inr ⟨rfl, a, ha, h⟩

theorem complains_quoting {crashFor : String → Crash}
    (hkind : ∀ text, (crashFor text).kind = .value) (ha : a ∈ args) :
    Complains c args (quoting c a crashFor) := by
  unfold quoting
  split
  · rename_i obstacle hfirst
    exact complains_of_obstacle ha (.inl hfirst)
  · exact .inl (hkind _)

theorem complains_of_complaint {crashFor : String → Crash}
    (hkind : ∀ text, (crashFor text).kind = .value) (ha : a ∈ args)
    (h : complaint good (fun a => quoting c a crashFor) a = some crash) : Complains c args crash := by
  unfold complaint at h
  split_ifs at h
  rw [← Option.some.inj h]
  exact complains_quoting hkind ha

theorem boundCrash?_complains {rule : String} (ha : a ∈ args)
    (h : boundCrash? rule c a = some crash) : Complains c args crash :=
  complains_of_complaint (fun _ => rfl) ha h

theorem modeCrash?_complains (ha : a ∈ args) (h : modeCrash? c a = some crash) :
    Complains c args crash :=
  complains_of_complaint (fun _ => rfl) ha h

theorem charsetCrash?_complains (ha : a ∈ args) (h : charsetCrash? c a = some crash) :
    Complains c args crash := by
  rcases Option.or_eq_some_iff.mp h with htext | ⟨-, hname⟩
  · obtain ⟨obstacle, hfirst, rfl⟩ := plainText_eq_error_iff.mp (crashOf?_eq_some_iff.mp htext)
    exact complains_of_obstacle ha (.inr hfirst)
  · exact complains_of_complaint (fun _ => rfl) ha hname

/-- What holds of the complaints about each argument holds of those about the one in some place. -/
theorem complains_of_bind {f : Value → Option Crash} {n : Nat}
    (hf : ∀ {a}, a ∈ args → f a = some crash → Complains c args crash)
    (h : args[n]?.bind f = some crash) : Complains c args crash := by
  obtain ⟨a, ha, hcrash⟩ := Option.bind_eq_some_iff.mp h
  exact hf (List.mem_of_getElem? ha) hcrash

theorem isSome_complaint_iff {crashFor : Value → Crash} {o : Option Value} :
    (o.bind (complaint good crashFor)).isSome = true ↔ ∃ b ∈ o, good b = false := by
  cases o with
  | none => simp
  | some b => cases hgood : good b <;> simp [complaint, hgood]

end Complaint

/-- The rules with one bound. -/
def limitRules : List String := ["max", "min"]

/-- The rules with a set of letters. -/
def letterRules : List String := ["alpha", "alphanumeric"]

/-- The rules that take any arguments. -/
def easyRules : List String := ["required", "accepted", "number", "optional", "bail"]

/-- The rules that no value makes crash. -/
def vettingRules : List String := limitRules ++ "between" :: (letterRules ++ easyRules)

/-- The rules for the beginning and the end of a text, each with its test. -/
def edgeRules : List (String × (List Char → List Char → Bool)) :=
  [("starts_with", fun arg s => arg.isPrefixOf s), ("ends_with", fun arg s => arg.isSuffixOf s)]

/-- The first complaint that a rule has about its arguments. -/
def argumentCrash? (rule : String) (args : List Value) (c : Context) : Option Crash :=
  if rule ∈ limitRules then (args[0]?.bind (boundCrash? rule c)).or (args[1]?.bind (modeCrash? c))
  else if rule = "between" then
    if args.length < 2 then some .missingBounds
    else (args[0]?.bind (boundCrash? rule c)).or
      ((args[1]?.bind (boundCrash? rule c)).or (args[2]?.bind (modeCrash? c)))
  else if rule ∈ letterRules then args[0]?.bind (charsetCrash? c)
  else none

section ArgumentCrash

variable {rule : String} {args : List Value} {c d : Context} {crash : Crash}

/-- Whatever a rule complains about, the crash is of the usual kind unless an argument lies too
deep. -/
theorem argumentCrash?_complains (h : argumentCrash? rule args c = some crash) :
    Complains c args crash := by
  unfold argumentCrash? at h
  split_ifs at h with hlimit hbetween hfew hletters
  · rcases Option.or_eq_some_iff.mp h with hbound | ⟨-, hmode⟩
    · exact complains_of_bind boundCrash?_complains hbound
    · exact complains_of_bind modeCrash?_complains hmode
  · cases h
    exact .inl rfl
  · rcases Option.or_eq_some_iff.mp h with hlow | ⟨-, h⟩
    · exact complains_of_bind boundCrash?_complains hlow
    · rcases Option.or_eq_some_iff.mp h with hhigh | ⟨-, hmode⟩
      · exact complains_of_bind boundCrash?_complains hhigh
      · exact complains_of_bind modeCrash?_complains hmode
  · exact complains_of_bind charsetCrash?_complains h

theorem argumentCrash?_of_room (h : d.room = c.room) :
    argumentCrash? rule args d = argumentCrash? rule args c := by
  have hcharset : charsetCrash? d = charsetCrash? c := by
    funext a
    simp only [charsetCrash?, plainText_of_room h, quoting_of_room h]
  simp only [argumentCrash?, boundCrash?, modeCrash?, quoting_of_room h, hcharset]

end ArgumentCrash

/-! ## Rule by rule -/

section Rules

variable (v : Value) (args : List Value) (c : Context)

theorem crashOf?_bound (rule : String) (a : Value) :
    crashOf? (bound rule a c) = boundCrash? rule c a := by
  simp only [bound, boundCrash?, complaint]
  cases a.number? <;> rfl

theorem crashOf?_measure (a : Value) : crashOf? (measure v a c) = modeCrash? c a := by
  simp only [measure, modeCrash?, complaint]
  cases SizeMode.ofValue? a <;> rfl

theorem crashOf?_charset (a : Value) : crashOf? (charset a c) = charsetCrash? c a := by
  unfold charset charsetCrash? complaint plainText
  cases a.plainObstacle? c.room with
  | some obstacle => rfl
  | none =>
    cases hname : Charset.ofName? a.textForm <;> simp [hname, crashOf?]

/-- A default about which there is no complaint does not add one. -/
theorem getD_bind {f : Value → Option Crash} {default : Value} (h : f default = none)
    (a : Option Value) : f (a.getD default) = a.bind f := by
  cases a with
  | none => exact h
  | some a => rfl

/-- A bound is read before the size is measured. -/
theorem crashOf?_measured (rule : String) (limit mode : Value)
    (answer : Number → Option Number → Value) :
    crashOf? ((bound rule limit c).bind fun n => (measure v mode c).map (answer n)) =
      (boundCrash? rule c limit).or (modeCrash? c mode) := by
  have hlate (n : Number) : crashOf? ((measure v mode c).map (answer n)) = modeCrash? c mode := by
    rw [crashOf?_map, crashOf?_measure]
  rw [crashOf?_bind hlate, crashOf?_bound]

theorem crashOf?_limit (rule : String) {limit mode : Value} {answer : Number → Option Number → Value}
    (hlimit : boundCrash? rule c limit = none) (hmode : modeCrash? c mode = none) :
    crashOf? ((bound rule (args[0]?.getD limit) c).bind fun n =>
        (measure v (args[1]?.getD mode) c).map (answer n)) =
      (args[0]?.bind (boundCrash? rule c)).or (args[1]?.bind (modeCrash? c)) := by
  rw [crashOf?_measured, getD_bind hlimit, getD_bind hmode]

theorem argumentCrash?_between (h : ¬args.length < 2) :
    argumentCrash? "between" args c = (args[0]?.bind (boundCrash? "between" c)).or
      ((args[1]?.bind (boundCrash? "between" c)).or (args[2]?.bind (modeCrash? c))) := by
  simp [argumentCrash?, limitRules, h]

theorem crashOf?_between {lo hi : Value} (hlo : args[0]? = some lo) (hhi : args[1]? = some hi)
    {answer : Number → Number → Option Number → Value} :
    crashOf? ((bound "between" lo c).bind fun m => (bound "between" hi c).bind fun n =>
        (measure v (args[2]?.getD .absent) c).map (answer m n)) =
      argumentCrash? "between" args c := by
  have hcount : ¬args.length < 2 := by
    have hlength := (List.getElem?_eq_some_iff.mp hhi).1
    omega
  have hhigh (m : Number) : crashOf? ((bound "between" hi c).bind fun n =>
      (measure v (args[2]?.getD .absent) c).map (answer m n)) =
        (boundCrash? "between" c hi).or (args[2]?.bind (modeCrash? c)) := by
    have hmode : modeCrash? c .absent = none := rfl
    rw [crashOf?_measured, getD_bind hmode]
  rw [crashOf?_bind hhigh, crashOf?_bound, argumentCrash?_between args c hcount, hlo, hhi]
  rfl

/-- The first default stands in the first place if there is no argument. -/
theorem filled_head (default : Value) :
    (args ++ [default].drop args.length)[0]? = some (args[0]?.getD default) := by
  cases args <;> rfl

theorem crashOf?_madeOf (test : Charset → Char → Bool) {filled : List Value} {a : Value}
    (h : filled[0]? = some a) : crashOf? (madeOf test v filled c) = charsetCrash? c a := by
  rw [← crashOf?_charset]
  simp only [madeOf, argument, h, bind, Except.bind, pure, Except.pure]
  cases charset a c <;> rfl

theorem crashOf?_required {filled : List Value} {flag mode : Value} (hflag : filled[0]? = some flag)
    (hmode : filled[1]? = some mode) : crashOf? (required v filled c) = none := by
  simp only [required, argument, hflag, hmode]
  split_ifs <;> rfl

theorem crashOf?_letters {rule : String} (test : Charset → Char → Bool)
    (h : { name := rule, check := madeOf test, defaults := [.text "default"] } ∈ standardRules) :
    (standardAnswer? rule v args c).bind crashOf? = args[0]?.bind (charsetCrash? c) := by
  have hdefault : charsetCrash? c (.text "default") = none := rfl
  rw [standardAnswer?_of_mem h, Option.bind_some, crashOf?_map, ← getD_bind hdefault]
  exact crashOf?_madeOf v c test (filled_head args _)

theorem crashOf?_easy {rule : String} (hrule : rule ∈ easyRules) :
    (standardAnswer? rule v args c).bind crashOf? = none := by
  simp only [easyRules, List.mem_cons, List.not_mem_nil, or_false] at hrule
  rcases hrule with rfl | rfl | rfl | rfl | rfl
  · have hanswer : standardAnswer? "required" v args c =
        some ((required v (args ++ [.bool true, .absent].drop args.length) c).map .bool) := rfl
    obtain ⟨hflag, hmode⟩ := filled_limit args (.bool true) .absent
    rw [hanswer, Option.bind_some, crashOf?_map, crashOf?_required v c hflag hmode]
  -- the others answer without a look at the arguments
  all_goals rfl

/-- A rule crashes with the first complaint about its arguments, and otherwise not at all. -/
theorem crashOf?_standardAnswer? {rule : String} (hrule : rule ∈ vettingRules) :
    (standardAnswer? rule v args c).bind crashOf? = argumentCrash? rule args c := by
  simp only [vettingRules, limitRules, letterRules, List.mem_append, List.mem_cons,
    List.not_mem_nil, or_false] at hrule
  rcases hrule with (rfl | rfl) | rfl | (rfl | rfl) | heasy
  · rw [standardAnswer?_max_args, Option.bind_some, crashOf?_limit v args c "max" rfl rfl]
    rfl
  · rw [standardAnswer?_min_args, Option.bind_some, crashOf?_limit v args c "min" rfl rfl]
    rfl
  · by_cases hfew : args.length < 2
    · rw [standardAnswer?_between_few v args c hfew]
      simp [argumentCrash?, limitRules, hfew, crashOf?]
    · have hlo : args[0]? = some args[0] := List.getElem?_eq_getElem (by omega)
      have hhi : args[1]? = some args[1] := List.getElem?_eq_getElem (by omega)
      rw [standardAnswer?_between_args v args c hlo hhi, Option.bind_some, crashOf?_between v args c hlo hhi]
  · exact crashOf?_letters v args c Charset.holds (by simp [standardRules, alpha])
  · exact crashOf?_letters v args c (fun set c => set.holds c || c.isDigit)
      (by simp [standardRules, alphanumeric])
  · have hnone : argumentCrash? rule args c = none := by
      have hother : ∀ rule ∈ easyRules, rule ∉ limitRules ∧ rule ≠ "between" ∧ rule ∉ letterRules := by
        decide
      obtain ⟨hlimit, hbetween, hletters⟩ := hother rule heasy
      rw [argumentCrash?, if_neg hlimit, if_neg hbetween, if_neg hletters]
    rw [hnone, crashOf?_easy v args c heasy]

end Rules

/-! ## Beginnings and ends -/

section Edges

variable {test : List Char → List Char → Bool} {v : Value} {args : List Value} {c : Context}
  {crash : Crash}

/-- Some argument cannot be written, and none in front of it is an answer. -/
def Stuck (test : List Char → List Char → Bool) (v : Value) (args : List Value) (c : Context)
    (crash : Crash) : Prop :=
  ∃ s before a behind, v = .text s ∧ args = before ++ a :: behind ∧ plainText c a = .error crash ∧
    ∀ b ∈ before, b.PlainWritable c.room ∧ test b.textForm.toList s.toList = false

theorem plainTest_eq_no_iff {f : String → Bool} {b : Value} :
    (plainText c b).map f = .ok false ↔ b.PlainWritable c.room ∧ f b.textForm = false := by
  rw [← plainObstacle?_eq_none_iff, plainText]
  cases b.plainObstacle? c.room <;> simp [Except.map]

theorem plainTest_eq_error_iff {f : String → Bool} {b : Value} :
    (plainText c b).map f = .error crash ↔ plainText c b = .error crash := by
  cases plainText c b <;> simp [Except.map]

/-- A rule for the edge of a text crashes where it gets stuck. -/
theorem related_eq_error_iff : related test v args c = .error crash ↔ Stuck test v args c crash := by
  cases v with
  | text s =>
    have hsearch : related test (.text s) args c = .error crash ↔
        holdsAny (fun a => (plainText c a).map fun t => test t.toList s.toList) args =
          .error crash := by
      cases args with
      | nil => exact iff_of_false nofun nofun
      | cons a rest => rfl
    rw [hsearch, holdsAny_eq_error_iff]
    simp only [plainTest_eq_no_iff, plainTest_eq_error_iff, Stuck]
    constructor
    · rintro ⟨before, a, behind, h⟩
      exact ⟨s, before, a, behind, rfl, h⟩
    · rintro ⟨_, before, a, behind, htext, h⟩
      cases htext
      exact ⟨before, a, behind, h⟩
  | _ => exact iff_of_false nofun fun ⟨_, _, _, _, h, _⟩ => nomatch h

theorem standardAnswer?_edge {p : String × (List Char → List Char → Bool)} (hp : p ∈ edgeRules) :
    standardAnswer? p.1 v args c = some ((related p.2 v args c).map .bool) := by
  have hrule : { name := p.1, check := related p.2 } ∈ standardRules := by
    simp only [edgeRules, List.mem_cons, List.not_mem_nil, or_false] at hp
    rcases hp with rfl | rfl
    · simp [standardRules, startsWith]
    · simp [standardRules, endsWith]
  have hfill : (StandardRule.entry { name := p.1, check := related p.2 }).fillArgs args = args := by
    simp [Entry.fillArgs, StandardRule.entry]
  rw [standardAnswer?_of_mem hrule, hfill]

theorem standardAnswer?_edge_eq_error_iff {p : String × (List Char → List Char → Bool)}
    (hp : p ∈ edgeRules) :
    standardAnswer? p.1 v args c = some (.error crash) ↔ Stuck p.2 v args c crash := by
  rw [standardAnswer?_edge hp, ← related_eq_error_iff]
  cases related p.2 v args c <;> simp [Except.map]

theorem Stuck.complains (h : Stuck test v args c crash) : Complains c args crash := by
  obtain ⟨s, before, a, behind, -, rfl, hcrash, -⟩ := h
  obtain ⟨obstacle, hfirst, rfl⟩ := plainText_eq_error_iff.mp hcrash
  exact complains_of_obstacle (by simp) (.inr hfirst)

end Edges

/-! ## All together -/

/-- A rule does not come to an answer. -/
def Crashes (rule : String) (v : Value) (args : List Value) (c : Context) : Prop :=
  ∃ crash, standardAnswer? rule v args c = some (.error crash)

section Together

variable {rule : String} {v : Value} {args : List Value} {c : Context} {crash : Crash}

theorem standardAnswer?_eq_error_iff (hrule : rule ∈ vettingRules) :
    standardAnswer? rule v args c = some (.error crash) ↔ argumentCrash? rule args c = some crash := by
  rw [← crashOf?_standardAnswer? v args c hrule, Option.bind_eq_some_iff]
  constructor
  · intro h
    exact ⟨_, h, rfl⟩
  · rintro ⟨answer, h, hcrash⟩
    rw [h, crashOf?_eq_some_iff.mp hcrash]

theorem crashes_iff (hrule : rule ∈ vettingRules) :
    Crashes rule v args c ↔ (argumentCrash? rule args c).isSome = true := by
  simp only [Crashes, standardAnswer?_eq_error_iff hrule, Option.isSome_iff_exists]

/-- A standard rule that does not crash answers yes or no. -/
theorem answers_of_not_crashes (hrule : ∃ b ∈ standardRules, b.name = rule)
    (h : ¬Crashes rule v args c) :
    ∃ answer : Bool, standardAnswer? rule v args c = some (.ok (.bool answer)) := by
  obtain ⟨b, hb, rfl⟩ := hrule
  have hanswer := standardAnswer?_of_mem hb v args c
  cases hcheck : b.check v (b.entry.fillArgs args) c with
  | error crash =>
    rw [hcheck] at hanswer
    exact absurd ⟨crash, hanswer⟩ h
  | ok answer =>
    rw [hcheck] at hanswer
    exact ⟨answer, hanswer⟩

theorem isSome_boundCrash?_iff {a : Option Value} :
    (a.bind (boundCrash? rule c)).isSome = true ↔ ∃ b ∈ a, b.number? = none := by
  simp [boundCrash?, isSome_complaint_iff]

theorem isSome_modeCrash?_iff {a : Option Value} :
    (a.bind (modeCrash? c)).isSome = true ↔ ∃ b ∈ a, ¬IsMode b := by
  simp [modeCrash?, isSome_complaint_iff, ← ofValue?_eq_none_iff]

theorem ofName?_eq_none_iff {name : String} :
    Charset.ofName? name = none ↔ name ∉ ["default", "latin"] := by
  unfold Charset.ofName?
  split_ifs with hdefault hlatin
  · simp [hdefault]
  · simp [hlatin]
  · simp [hdefault, hlatin]

theorem isSome_charsetCrash?_iff {a : Option Value} :
    (a.bind (charsetCrash? c)).isSome = true ↔
      ∃ b ∈ a, ¬b.PlainWritable c.room ∨ b.textForm ∉ ["default", "latin"] := by
  cases a with
  | none => simp
  | some b =>
    simp only [← ofName?_eq_none_iff, ← plainObstacle?_eq_none_iff, Option.bind_some, charsetCrash?,
      plainText, complaint]
    cases hplain : b.plainObstacle? c.room <;> cases hname : Charset.ofName? b.textForm <;>
      simp [hplain, hname, crashOf?]

/-- The rules for sizes, letters and edges, and the plainest ones. -/
def argumentRules : List String := vettingRules ++ edgeRules.map Prod.fst

theorem error_complains (hrule : rule ∈ argumentRules)
    (h : standardAnswer? rule v args c = some (.error crash)) : Complains c args crash := by
  rcases List.mem_append.mp hrule with hvetting | hedge
  · exact argumentCrash?_complains ((standardAnswer?_eq_error_iff hvetting).mp h)
  · obtain ⟨p, hp, rfl⟩ := List.mem_map.mp hedge
    exact ((standardAnswer?_edge_eq_error_iff hp).mp h).complains

end Together

/-- When rules crash, what with, and when they do not. -/
structure CrashesOnArguments (v : Value) (args : List Value) (c : Context) : Prop where
  /-- A bound that is no number, or a mode that there is not. -/
  limit : ∀ rule ∈ limitRules,
    Crashes rule v args c ↔ (∃ a ∈ args[0]?, a.number? = none) ∨ ∃ a ∈ args[1]?, ¬IsMode a
  /-- Bounds that are missing, and the same. -/
  between : Crashes "between" v args c ↔ args.length < 2 ∨ (∃ a ∈ args[0]?, a.number? = none) ∨
    (∃ a ∈ args[1]?, a.number? = none) ∨ ∃ a ∈ args[2]?, ¬IsMode a
  /-- A set of letters that there is not, or that cannot be written. -/
  letters : ∀ rule ∈ letterRules, Crashes rule v args c ↔
    ∃ a ∈ args[0]?, ¬a.PlainWritable c.room ∨ a.textForm ∉ ["default", "latin"]
  easy : ∀ rule ∈ easyRules, ¬Crashes rule v args c
  /-- An argument that cannot be written, with which a text is to be compared. -/
  edge : ∀ p ∈ edgeRules, ∀ crash,
    standardAnswer? p.1 v args c = some (.error crash) ↔ Stuck p.2 v args c crash
  /-- All of these crashes are of one kind, unless an argument lies too deep to be written. -/
  kind : ∀ rule ∈ argumentRules, ∀ crash, standardAnswer? rule v args c = some (.error crash) →
    Complains c args crash
  /-- Another value in another context crashes in the same way, with as many calls left. -/
  steady : ∀ rule ∈ vettingRules, ∀ crash, standardAnswer? rule v args c = some (.error crash) →
    ∀ w d, d.room = c.room → standardAnswer? rule w args d = some (.error crash)
  /-- Otherwise the rule answers yes or no. -/
  answers : ∀ rule ∈ argumentRules, ¬Crashes rule v args c →
    ∃ answer : Bool, standardAnswer? rule v args c = some (.ok (.bool answer))

end Rules

end FieldCheck
