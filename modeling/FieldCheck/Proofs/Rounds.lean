import FieldCheck.Form.Round
import FieldCheck.Proofs.Routine

/-!
# Rounds side by side

Rounds of a form begin, are called and go on in any order, those of one field among those of others.

* `Rounds`, `Move`, `Rounds.step` — the rounds of a form and what may happen next: a round begins, is
  called with values, or goes on by one event or pause.
* `Deed` — what is noted: a round that begins and the token that it gets, a round that ends and what
  it hands over.
* `InTurn` — tokens count the rounds of a field; a result is handed over unless a newer round has
  begun; results are handed over in the order of their tokens.
* `Sound`, `Sound.step` — the invariant that links the tokens, the rounds under way and the deeds,
  and that one move keeps.
* `rounds_inTurn` — every run.
-/

set_option autoImplicit false

namespace FieldCheck

/-! ## Moves -/

/-- Where a round stands; it has values from the time when it is called. -/
inductive Stage where
  | begun
  | running (values : Values) (rest : Routine (Except FormFault Result))
  | ended

/-- A round: its field, its token and where it stands. -/
structure Live where
  field : String
  token : Nat
  stage : Stage := .begun

/-- What is noted of a round, which has its number. -/
inductive Deed where
  | began (round : Nat) (field : String) (token : Nat)
  | ended (round : Nat) (field : String) (values : Values) (token : Nat)
      (outcome : Except FormFault (Option Result))

/-- The rounds of a form in the order in which they began, its tokens, and what was noted. -/
structure Rounds where
  tokens : Tokens
  live : List Live := []
  log : List Deed := []

/-- What may happen next. -/
inductive Move where
  | begin (field : String)
  | call (round : Nat) (values : Values)
  | advance (round : Nat)

/-- What a validation hands over when its rules have finished. -/
def settle (tokens : Tokens) (field : String) (token : Nat) (r : Except FormFault Result) :
    Except FormFault (Option Result) :=
  r.map (tokens.deliver field (some (token : Int)))

namespace Rounds

/-- Puts a round into a stage. -/
def setStage (s : Rounds) (i : Nat) (l : Live) (stage : Stage) : Rounds :=
  { s with live := s.live.set i { l with stage } }

@[simp] theorem setStage_tokens (s : Rounds) (i : Nat) (l : Live) (stage : Stage) :
    (s.setStage i l stage).tokens = s.tokens := rfl

@[simp] theorem setStage_log (s : Rounds) (i : Nat) (l : Live) (stage : Stage) :
    (s.setStage i l stage).log = s.log := rfl

/-- Begins a round; a field that the form does not have begins none. -/
def begin (form : Form) (s : Rounds) (field : String) : Rounds :=
  match form.begin s.tokens field with
  | .error _ => s
  | .ok (token, tokens) =>
    { tokens
      live := s.live ++ [{ field, token }]
      log := s.log ++ [.began s.live.length field token] }

/-- Calls a round that has begun. -/
def call (form : Form) (s : Rounds) (i : Nat) (values : Values) : Rounds :=
  match s.live[i]? with
  | some l =>
    match l.stage with
    | .begun => s.setStage i l (.running values (form.evaluation l.field values))
    | _ => s
  | none => s

/-- Ends a round whose rules have finished. -/
def finish (s : Rounds) (i : Nat) (l : Live) (values : Values) (r : Except FormFault Result) :
    Rounds :=
  { s.setStage i l .ended with
    log := s.log ++ [.ended i l.field values l.token (settle s.tokens l.field l.token r)] }

/-- Lets a round go on: to behind its next event or pause, or to its end. -/
def advance (s : Rounds) (i : Nat) : Rounds :=
  match s.live[i]? with
  | some l =>
    match l.stage with
    | .running values (.pause next) | .running values (.emit _ next) =>
      s.setStage i l (.running values next)
    | .running values (.done r) => s.finish i l values r
    | _ => s
  | none => s

/-- One move. -/
def step (form : Form) (s : Rounds) : Move → Rounds
  | .begin field => s.begin form field
  | .call i values => s.call form i values
  | .advance i => s.advance i

/-- Moves in order. -/
def run (form : Form) (s : Rounds) (moves : List Move) : Rounds := moves.foldl (step form) s

end Rounds

/-- A validation of one field is an evaluation that is settled at its end. -/
theorem validateField_eq_settle (form : Form) (tokens : Tokens) (name : String) (values : Values)
    (token : Nat) :
    form.validateField tokens name values (some (token : Int)) =
      (form.evaluation name values).map (settle tokens name token) := by
  unfold Form.validateField
  congr 1
  funext r
  cases r with
  | ok result => rfl
  | error fault => rfl

/-! ## What is noted -/

section Deeds

variable {field : String} {log a b : List Deed}

/-- Whether a round of a field begins. -/
def Deed.begins (field : String) : Deed → Bool
  | .began _ f _ => f == field
  | .ended .. => false

/-- The tokens of the rounds of a field, in the order in which they began. -/
def begunTokens (field : String) (log : List Deed) : List Nat :=
  log.filterMap fun
    | .began _ f token => if f = field then some token else none
    | .ended .. => none

/-- The tokens of the results of a field, in the order in which they were handed over. -/
def deliveredTokens (field : String) (log : List Deed) : List Nat :=
  log.filterMap fun
    | .ended _ f _ token (.ok (some _)) => if f = field then some token else none
    | _ => none

/-- The numbers of rounds, in the order in which they began. -/
def begunRounds (log : List Deed) : List Nat :=
  log.filterMap fun
    | .began i _ _ => some i
    | .ended .. => none

/-- **What is noted of rounds that run side by side.** -/
structure InTurn (form : Form) (start : Tokens) (log : List Deed) : Prop where
  /-- Rounds have numbers in the order in which they begin. -/
  numbered : begunRounds log = List.range (begunRounds log).length
  /-- The tokens of a field follow the one that it had at the start, one by one. -/
  tokens (field : String) :
    begunTokens field log =
      List.range' (start.latest field + 1) (begunTokens field log).length
  /-- A round that ends has begun; it hands its result over unless, since then, a round of the same
  field has begun. -/
  settled {before after : List Deed} {i : Nat} {field : String} {values : Values} {token : Nat}
    {outcome : Except FormFault (Option Result)} :
    log = before ++ .ended i field values token outcome :: after →
      ∃ a b, before = a ++ .began i field token :: b ∧
        outcome = (form.evaluation field values).result.map fun result =>
          if b.any (Deed.begins field) then none else some result
  /-- The tokens of the results of a field never decrease. -/
  ordered (field : String) : (deliveredTokens field log).Pairwise (· ≤ ·)

theorem begunTokens_append (field : String) (a b : List Deed) :
    begunTokens field (a ++ b) = begunTokens field a ++ begunTokens field b :=
  List.filterMap_append

theorem deliveredTokens_append (field : String) (a b : List Deed) :
    deliveredTokens field (a ++ b) = deliveredTokens field a ++ deliveredTokens field b :=
  List.filterMap_append

theorem begunRounds_append (a b : List Deed) :
    begunRounds (a ++ b) = begunRounds a ++ begunRounds b :=
  List.filterMap_append

theorem begunTokens_eq_nil_iff :
    begunTokens field b = [] ↔ b.any (Deed.begins field) = false := by
  induction b with
  | nil => simp [begunTokens]
  | cons d b ih =>
    cases d with
    | began i f token =>
      by_cases h : f = field
      · simp [begunTokens, Deed.begins, h]
      · simpa [begunTokens, Deed.begins, h] using ih
    | ended => simpa [begunTokens, Deed.begins] using ih

/-! ## One more deed -/

/-- A deed of a longer log is the last one or stands in the shorter one. -/
theorem split_snoc {α : Type} {log before after : List α} {d e : α}
    (h : log ++ [d] = before ++ e :: after) :
    (log = before ∧ d = e) ∨ ∃ rest, log = before ++ e :: rest := by
  rcases List.append_eq_append_iff.mp h with ⟨mid, hbefore, hd⟩ | ⟨mid, hlog, hrest⟩
  · cases mid with
    | nil =>
      rw [List.append_nil] at hbefore
      exact Or.inl ⟨hbefore.symm, (List.cons.inj hd).1⟩
    | cons x mid => simp at hd
  · cases mid with
    | nil =>
      rw [List.append_nil] at hlog
      exact Or.inl ⟨hlog, (List.cons.inj hrest).1.symm⟩
    | cons x mid =>
      obtain ⟨rfl, -⟩ := List.cons.inj hrest
      exact Or.inr ⟨mid, hlog⟩

namespace InTurn

variable {form : Form} {start : Tokens} {i : Nat} {token : Nat}

theorem nil (form : Form) (start : Tokens) : InTurn form start [] where
  numbered := rfl
  tokens _ := rfl
  settled h := by simp at h
  ordered _ := List.Pairwise.nil

/-- The token that a round got: the number of rounds of its field that began before it. -/
theorem token_eq (h : InTurn form start log) (hlog : log = a ++ .began i field token :: b) :
    token = start.latest field + 1 + (begunTokens field a).length := by
  have htokens := h.tokens field
  have hsplit : begunTokens field log = begunTokens field a ++ token :: begunTokens field b := by
    rw [hlog, begunTokens_append]
    simp [begunTokens]
  have hget : (begunTokens field log)[(begunTokens field a).length]? = some token := by
    rw [hsplit]
    simp
  rw [htokens, List.getElem?_range' (by rw [hsplit]; simp), Option.some.injEq] at hget
  omega

/-- A token is the latest as long as no newer round of its field begins. -/
theorem length_eq_iff (h : InTurn form start log) (hlog : log = a ++ .began i field token :: b) :
    start.latest field + (begunTokens field log).length = token ↔
      b.any (Deed.begins field) = false := by
  have htoken := h.token_eq hlog
  have hlength : (begunTokens field log).length =
      (begunTokens field a).length + 1 + (begunTokens field b).length := by
    rw [hlog, begunTokens_append]
    simp only [begunTokens, List.filterMap_cons, if_true, List.length_append, List.length_cons]
    omega
  rw [← begunTokens_eq_nil_iff, ← List.length_eq_zero_iff]
  omega

theorem mem_begunTokens (h : .began i field token ∈ log) : token ∈ begunTokens field log :=
  List.mem_filterMap.mpr ⟨_, h, by simp⟩

/-- No token is later than the latest. -/
theorem le_of_mem (h : InTurn form start log) (ht : token ∈ begunTokens field log) :
    token ≤ start.latest field + (begunTokens field log).length := by
  rw [h.tokens field] at ht
  obtain ⟨j, hj, rfl⟩ := List.mem_range'.mp ht
  omega

/-- A result that was handed over has the token of a round that has begun. -/
theorem delivered_mem (h : InTurn form start log) (ht : token ∈ deliveredTokens field log) :
    token ∈ begunTokens field log := by
  obtain ⟨d, hd, hsome⟩ := List.mem_filterMap.mp ht
  cases d with
  | began => simp at hsome
  | ended i f values token' outcome =>
    have hkey : f = field ∧ token' = token := by
      cases outcome with
      | error fault => simp at hsome
      | ok outcome =>
        cases outcome with
        | none => simp at hsome
        | some result => simpa using hsome
    obtain ⟨rfl, rfl⟩ := hkey
    obtain ⟨before, after, hlog⟩ := List.append_of_mem hd
    obtain ⟨a, b, hbefore, -⟩ := h.settled hlog
    refine mem_begunTokens (i := i) ?_
    rw [hlog, hbefore]
    simp

/-- The next round of a field gets the next token. -/
theorem snoc_began (h : InTurn form start log) (field : String) :
    InTurn form start (log ++
      [.began (begunRounds log).length field
        (start.latest field + (begunTokens field log).length + 1)]) where
  numbered := by
    rw [begunRounds_append, List.length_append]
    have hone : begunRounds [.began (begunRounds log).length field
        (start.latest field + (begunTokens field log).length + 1)] = [(begunRounds log).length] :=
      rfl
    rw [hone, List.length_singleton, List.range_succ, ← h.numbered]
  tokens other := by
    rw [begunTokens_append]
    by_cases heq : field = other
    · subst heq
      have hone : begunTokens field [.began (begunRounds log).length field
          (start.latest field + (begunTokens field log).length + 1)] =
          [start.latest field + (begunTokens field log).length + 1] := by
        simp [begunTokens]
      rw [hone, List.length_append, List.length_singleton, List.range'_1_concat, ← h.tokens field]
      congr 2
      omega
    · have hnone : begunTokens other [.began (begunRounds log).length field
          (start.latest field + (begunTokens field log).length + 1)] = [] := by
        simp [begunTokens, heq]
      rw [hnone, List.append_nil]
      exact h.tokens other
  settled hsplit := by
    rcases split_snoc hsplit with ⟨-, hd⟩ | ⟨rest, hlog⟩
    · cases hd
    · exact h.settled hlog
  ordered other := by
    rw [deliveredTokens_append]
    simpa [deliveredTokens] using h.ordered other

/-- A round that has begun ends; its result is dropped if it is no longer the latest. -/
theorem snoc_ended (h : InTurn form start log) (hlog : log = a ++ .began i field token :: b)
    (values : Values) :
    InTurn form start (log ++
      [.ended i field values token ((form.evaluation field values).result.map fun result =>
        if b.any (Deed.begins field) then none else some result)]) where
  numbered := by
    rw [begunRounds_append]
    simpa [begunRounds] using h.numbered
  tokens other := by
    rw [begunTokens_append]
    simpa [begunTokens] using h.tokens other
  settled hsplit := by
    rcases split_snoc hsplit with ⟨rfl, hd⟩ | ⟨rest, hrest⟩
    · cases hd
      exact ⟨a, b, hlog, rfl⟩
    · exact h.settled hrest
  ordered other := by
    -- a result that is handed over has the latest token, and none before it has a later one
    have hnew : ∀ t ∈ deliveredTokens other
        [.ended i field values token ((form.evaluation field values).result.map fun result =>
          if b.any (Deed.begins field) then none else some result)],
        field = other ∧ t = token ∧ b.any (Deed.begins field) = false := by
      intro t ht
      cases hr : (form.evaluation field values).result with
      | error fault => simp [deliveredTokens, hr, Except.map] at ht
      | ok result =>
        cases hb : b.any (Deed.begins field) with
        | true => simp [deliveredTokens, hr, hb, Except.map] at ht
        | false =>
          simp only [deliveredTokens, hr, hb, Except.map, Bool.false_eq_true, if_false,
            List.mem_filterMap, List.mem_singleton, exists_eq_left, Option.ite_none_right_eq_some,
            Option.some.injEq] at ht
          exact ⟨ht.1, ht.2.symm, rfl⟩
    rw [deliveredTokens_append, List.pairwise_append]
    refine ⟨h.ordered other, ?_, ?_⟩
    · refine List.pairwise_of_forall_mem_list fun t ht t' ht' => ?_
      exact Nat.le_of_eq ((hnew t ht).2.1.trans (hnew t' ht').2.1.symm)
    · intro t ht t' ht'
      obtain ⟨rfl, rfl, hb⟩ := hnew t' ht'
      have hle := h.le_of_mem (h.delivered_mem ht)
      have hlatest := (h.length_eq_iff hlog).mpr hb
      omega

end InTurn

end Deeds

/-! ## The invariant -/

/-- What holds of the rounds of a form at any time: the tokens are those that were noted, each round
has begun with its token, and what is left of its evaluation still comes to the same result. -/
structure Sound (form : Form) (start : Tokens) (s : Rounds) : Prop where
  inTurn : InTurn form start s.log
  counted : s.live.length = (begunRounds s.log).length
  latest (field : String) :
    s.tokens.latest field = start.latest field + (begunTokens field s.log).length
  began {i : Nat} {l : Live} : s.live[i]? = some l → .began i l.field l.token ∈ s.log
  running {i : Nat} {l : Live} {values : Values} {rest : Routine (Except FormFault Result)} :
    s.live[i]? = some l → l.stage = .running values rest →
      rest.result = (form.evaluation l.field values).result

theorem getElem?_snoc {α : Type} {xs : List α} {x y : α} {j : Nat}
    (h : (xs ++ [x])[j]? = some y) : xs[j]? = some y ∨ (j = xs.length ∧ y = x) := by
  rw [List.getElem?_append] at h
  split at h
  · exact Or.inl h
  · rename_i hj
    rw [List.getElem?_singleton] at h
    split at h
    · exact Or.inr ⟨by omega, (Option.some.inj h).symm⟩
    · cases h

theorem Tokens.latest_next (t : Tokens) (field other : String) :
    (t.next field).latest other = if field = other then t.latest field + 1 else t.latest other := by
  by_cases h : field = other
  · subst h
    simp [Tokens.latest, Tokens.next]
  · have hne : (other == field) = false := by simpa using Ne.symm h
    simp [Tokens.latest, Tokens.next, List.lookup_cons, hne, h]

theorem begin_ok {form : Form} {tokens tokens' : Tokens} {field : String} {token : Nat}
    (h : form.begin tokens field = .ok (token, tokens')) :
    token = tokens.latest field + 1 ∧ tokens' = tokens.next field := by
  unfold Form.begin at h
  split at h
  · cases h
  · cases h
    exact ⟨by simp [Tokens.latest_next], rfl⟩

namespace Sound

variable {form : Form} {start : Tokens} {s : Rounds} {i : Nat} {l : Live}

theorem initial (form : Form) (start : Tokens) : Sound form start { tokens := start } where
  inTurn := InTurn.nil form start
  counted := rfl
  latest field := rfl
  began h := by simp at h
  running h := by simp at h

/-- A round may be put into a stage that comes to the same result. -/
theorem setStage (h : Sound form start s) (hl : s.live[i]? = some l) {stage : Stage}
    (hstage : ∀ values rest, stage = .running values rest →
      rest.result = (form.evaluation l.field values).result) :
    Sound form start (s.setStage i l stage) := by
  have hlive : ∀ {j : Nat} {m : Live}, (s.setStage i l stage).live[j]? = some m →
      s.live[j]? = some m ∨ (j = i ∧ m = { l with stage }) := by
    intro j m hm
    simp only [Rounds.setStage, List.getElem?_set] at hm
    split at hm
    · rename_i hij
      split at hm
      · exact Or.inr ⟨hij.symm, (Option.some.inj hm).symm⟩
      · cases hm
    · exact Or.inl hm
  refine ⟨h.inTurn, ?_, h.latest, ?_, ?_⟩
  · simpa [Rounds.setStage] using h.counted
  · intro j m hm
    rcases hlive hm with hm | ⟨rfl, rfl⟩
    · exact h.began hm
    · exact (h.began hl :)
  · intro j m values rest hm hrest
    rcases hlive hm with hm | ⟨rfl, rfl⟩
    · exact h.running hm hrest
    · exact hstage values rest hrest

/-- The token of a round is current exactly as long as no newer round of its field begins. -/
theorem isLatest_eq (h : Sound form start s) {field : String} {token : Nat} {a b : List Deed}
    (hlog : s.log = a ++ .began i field token :: b) :
    s.tokens.isLatest field token = !b.any (Deed.begins field) := by
  have hiff := h.inTurn.length_eq_iff hlog
  rw [← h.latest field] at hiff
  rw [Tokens.isLatest, Bool.eq_iff_iff, beq_iff_eq, Int.natCast_inj, hiff, Bool.not_eq_true']

theorem begin (h : Sound form start s) (field : String) :
    Sound form start (s.begin form field) := by
  unfold Rounds.begin
  split
  · exact h
  · rename_i token tokens hbegin
    obtain ⟨rfl, rfl⟩ := begin_ok hbegin
    have hinTurn := h.inTurn.snoc_began field
    rw [← h.counted, ← h.latest field] at hinTurn
    refine ⟨hinTurn, ?_, ?_, ?_, ?_⟩
    · rw [begunRounds_append, List.length_append, List.length_append, h.counted]
      rfl
    · intro other
      rw [Tokens.latest_next, begunTokens_append, List.length_append]
      by_cases heq : field = other
      · subst heq
        simp only [begunTokens, if_true, h.latest field, List.filterMap_cons, List.filterMap_nil,
          List.length_singleton]
        rfl
      · simp [begunTokens, heq, h.latest other]
    · intro j m hm
      rcases getElem?_snoc hm with hm | ⟨rfl, rfl⟩
      · exact List.mem_append_left _ (h.began hm)
      · exact List.mem_append_right _ List.mem_cons_self
    · intro j m values rest hm hrest
      rcases getElem?_snoc hm with hm | ⟨rfl, rfl⟩
      · exact h.running hm hrest
      · cases hrest

/-- A round that has come to its end hands its result over or drops it. -/
theorem finish (h : Sound form start s) (hl : s.live[i]? = some l) {values : Values}
    {r : Except FormFault Result} (hstage : l.stage = .running values (.done r)) :
    Sound form start (s.finish i l values r) := by
  have hset : Sound form start (s.setStage i l .ended) :=
    h.setStage hl fun values' rest hrest => by cases hrest
  obtain ⟨a, b, hlog⟩ := List.append_of_mem (h.began hl)
  have hresult : r = (form.evaluation l.field values).result := h.running hl hstage
  have houtcome : settle s.tokens l.field l.token r =
      (form.evaluation l.field values).result.map fun result =>
        if b.any (Deed.begins l.field) then none else some result := by
    rw [settle, ← hresult]
    congr 1
    funext result
    rw [Tokens.deliver, h.isLatest_eq hlog]
    cases b.any (Deed.begins l.field) with
    | true => rfl
    | false => rfl
  rw [Rounds.finish, houtcome]
  refine ⟨h.inTurn.snoc_ended hlog values, ?_, ?_, ?_, hset.running⟩
  · rw [begunRounds_append]
    simpa [begunRounds] using hset.counted
  · intro field
    rw [begunTokens_append]
    simpa [begunTokens] using h.latest field
  · intro j m hm
    exact List.mem_append_left _ (hset.began hm)

theorem call (h : Sound form start s) (i : Nat) (values : Values) :
    Sound form start (s.call form i values) := by
  unfold Rounds.call
  split
  · rename_i l hl
    split
    · refine h.setStage hl fun values' rest hrest => ?_
      cases hrest
      rfl
    · exact h
  · exact h

theorem advance (h : Sound form start s) (i : Nat) : Sound form start (s.advance i) := by
  unfold Rounds.advance
  split
  · rename_i l hl
    split
    · rename_i values next hstage
      refine h.setStage hl fun values' rest hrest => ?_
      cases hrest
      exact (h.running hl hstage :)
    · rename_i values e next hstage
      refine h.setStage hl fun values' rest hrest => ?_
      cases hrest
      exact (h.running hl hstage :)
    · rename_i values r hstage
      exact h.finish hl hstage
    · exact h
  · exact h

theorem step (h : Sound form start s) (m : Move) : Sound form start (s.step form m) := by
  cases m with
  | begin field => exact h.begin field
  | call i values => exact h.call i values
  | advance i => exact h.advance i

theorem run (h : Sound form start s) (moves : List Move) : Sound form start (s.run form moves) := by
  induction moves generalizing s with
  | nil => exact h
  | cons m moves ih => exact ih (h.step m)

end Sound

/-- **Rounds come in turn, in whatever order they begin, are called and go on.**  A form that was
just made has no tokens at the start, so the tokens of each of its fields are 1, 2, 3 and so on. -/
theorem rounds_inTurn (form : Form) (start : Tokens) (moves : List Move) :
    InTurn form start (Rounds.run form { tokens := start } moves).log :=
  ((Sound.initial form start).run moves).inTurn

/-- Of two rounds of a field only the later one hands its result over, even where it ends first. -/
example :
    deliveredTokens "name" (Rounds.run { fields := [{ rules := { name := "name" }, spec := {} }] }
      { tokens := [] }
      [.begin "name", .call 0 [], .begin "name", .call 1 [], .advance 1, .advance 0]).log = [2] := by
  rfl

end FieldCheck
