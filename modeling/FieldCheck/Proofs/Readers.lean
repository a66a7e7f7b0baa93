import FieldCheck.Proofs.Moments
import FieldCheck.Regex.Repetition

/-!
# What the readers of a pattern do

A reader knows something and faces a text.  It gives a result, and then it faces what is left of the
text; where in the pattern the text stands does not count.

* `Scan.facing`, `Gives`, `Gives.bind` — a reader that gives a result, and one reader after another.
* `Begins`, `length_le_tokens` — a text and its tokens.
* `gives_peek`, `gives_take`, `gives_accept`, `gives_accept_other`, `gives_takeClass` — the readers of
  single tokens and of several.
* `numberIn?_digits`, `gives_readBounds` — bounds that are one number.
-/

set_option autoImplicit false

namespace FieldCheck.Regex

open Text

/-! ## Results -/

/-- What is known, in front of a text. -/
def Scan.facing (s : Scan) (n : Nat) (cs : List Char) : Scan := { s with rest := tokens n cs }

/-- A reader that knows `s` and faces `cs` gives `a`; then it knows `s'` and faces `cs'`. -/
def Gives {α : Type} (m : Reader α) (s : Scan) (cs : List Char) (a : α) (s' : Scan)
    (cs' : List Char) : Prop :=
  ∀ n, ∃ n', m.run (s.facing n cs) = .ok (a, s'.facing n' cs')

section Gives

variable {α β : Type} {s s' s'' : Scan} {cs cs' cs'' : List Char} {a : α} {b : β}

theorem Gives.pure : Gives (pure a) s cs a s cs :=
  fun n => ⟨n, rfl⟩

theorem Gives.bind {m : Reader α} {f : α → Reader β} (hm : Gives m s cs a s' cs')
    (hf : Gives (f a) s' cs' b s'' cs'') : Gives (m >>= f) s cs b s'' cs'' := by
  intro n
  obtain ⟨n', hn'⟩ := hm n
  obtain ⟨n'', hn''⟩ := hf n'
  refine ⟨n'', ?_⟩
  rw [StateT.run_bind, hn']
  exact hn''

theorem Gives.get {f : Scan → Reader β} (hf : ∀ n, Gives (f (s.facing n cs)) s cs b s' cs') :
    Gives (get >>= f) s cs b s' cs' :=
  fun n => hf n n

theorem gives_set (n : Nat) : Gives (set (s'.facing n cs')) s cs ⟨⟩ s' cs' :=
  fun _ => ⟨n, rfl⟩

end Gives

/-! ## Tokens -/

/-- A text starts with a token, and another text is behind it. -/
def Begins (cs t cs' : List Char) : Prop := ∀ n, ∃ n', tokens n cs = ⟨t, n⟩ :: tokens n' cs'

section Tokens

variable {α : Type} {s : Scan} {c d : Char} {t cs cs' w : List Char} {fuel : Nat}

theorem begins_char (hc : c ≠ '\\') (cs : List Char) : Begins (c :: cs) [c] cs := by
  intro n
  refine ⟨n + 1, ?_⟩
  cases cs with
  | nil => simp [tokens]
  | cons d rest => simp [tokens, hc]

theorem begins_escape (c : Char) (cs : List Char) : Begins ('\\' :: c :: cs) ['\\', c] cs :=
  fun n => ⟨n + 2, rfl⟩

/-- Without a backslash each character is a token. -/
theorem length_le_tokens (hw : ∀ c ∈ w, c ≠ '\\') (n : Nat) (cs : List Char) :
    w.length ≤ (tokens n (w ++ cs)).length := by
  induction w generalizing n with
  | nil => exact Nat.zero_le _
  | cons c w ih =>
    obtain ⟨hc, hw⟩ := List.forall_mem_cons.mp hw
    obtain ⟨n', hn'⟩ := begins_char hc (w ++ cs) n
    rw [List.cons_append, hn']
    exact Nat.succ_le_succ (ih hw n')

theorem ne_of_head? (h : cs.head? ≠ some '\\') : cs ≠ ['\\'] := by
  rintro rfl
  exact h rfl

/-! ## Single tokens -/

theorem gives_checkNext (h : cs ≠ ['\\']) : Gives checkNext s cs () s cs := by
  have hhead (n : Nat) : ∀ t ∈ (tokens n cs).head?, t.text ≠ ['\\'] := by
    unfold tokens
    split
    · nofun
    · simp
    · rename_i c rest hescape
      rintro t ht heq
      cases ht
      cases heq
      cases rest with
      | nil => exact h rfl
      | cons d rest => exact hescape d rest rfl rfl
  unfold checkNext
  refine Gives.get fun n => ?_
  split
  · rename_i t ts htokens
    have htokens : tokens n cs = t :: ts := htokens
    rw [if_neg (hhead n t (by rw [htokens]; rfl))]
    exact .pure
  · exact .pure

theorem gives_peek (h : Begins cs t cs') : Gives peek s cs (some t) s cs := by
  intro n
  obtain ⟨n', hn'⟩ := h n
  refine ⟨n, ?_⟩
  unfold peek Scan.facing
  rw [hn']
  rfl

theorem gives_peek_nil : Gives peek s [] none s [] :=
  fun n => ⟨n, rfl⟩

theorem gives_take (h : Begins cs t cs') (hnext : cs' ≠ ['\\']) :
    Gives take s cs (some t) s cs' := by
  unfold take
  refine Gives.get fun n => ?_
  obtain ⟨n', hn'⟩ := h n
  have htail : ({ s.facing n cs with rest := (s.facing n cs).rest.tail } : Scan) =
      s.facing n' cs' := by
    simp [Scan.facing, hn']
  have hhead : (s.facing n cs).rest.head?.map Token.text = some t := by
    simp [Scan.facing, hn']
  rw [htail, hhead]
  exact (gives_set n').bind ((gives_checkNext hnext).bind .pure)

theorem gives_accept (hc : c ≠ '\\') (hnext : cs ≠ ['\\']) :
    Gives (accept c) s (c :: cs) true s cs := by
  unfold accept
  refine (gives_peek (begins_char hc cs)).bind ?_
  rw [if_pos rfl]
  exact (gives_take (begins_char hc cs) hnext).bind .pure

theorem gives_accept_other (hcs : cs ≠ ['\\']) (hhead : cs.head? ≠ some c) :
    Gives (accept c) s cs false s cs := by
  have hpeek : ∃ t, t ≠ some [c] ∧ Gives peek s cs t s cs := by
    cases cs with
    | nil => exact ⟨none, nofun, gives_peek_nil⟩
    | cons d rest =>
      by_cases hd : d = '\\'
      · subst hd
        cases rest with
        | nil => exact absurd rfl hcs
        | cons e rest => exact ⟨_, by simp, gives_peek (begins_escape e rest)⟩
      · exact ⟨_, by simpa using hhead, gives_peek (begins_char hd rest)⟩
  obtain ⟨t, ht, hpeek⟩ := hpeek
  unfold accept
  refine hpeek.bind ?_
  rw [if_neg ht]
  exact .pure

/-- As many characters of a class are taken as there are. -/
theorem gives_takeClass {p : Char → Bool} (hw : ∀ c ∈ w, p c = true ∧ c ≠ '\\') (hd : p d = false)
    (hback : d ≠ '\\') (hfuel : w.length ≤ fuel) :
    Gives (takeClass p fuel) s (w ++ d :: cs) w s (d :: cs) := by
  induction w generalizing fuel with
  | nil =>
    cases fuel with
    | zero => exact .pure
    | succ fuel =>
      unfold takeClass
      refine (gives_peek (begins_char hback cs)).bind ?_
      dsimp only
      rw [if_neg (by simp [hd])]
      exact .pure
  | cons c w ih =>
    obtain ⟨fuel, rfl⟩ := Nat.exists_eq_succ_of_ne_zero (Nat.ne_zero_of_lt hfuel)
    obtain ⟨⟨hc, hcback⟩, hw⟩ := List.forall_mem_cons.mp hw
    have hnext : w ++ d :: cs ≠ ['\\'] := by
      cases w with
      | nil => exact fun h => hback (List.cons.inj h).1
      | cons e w => exact fun h => (hw e List.mem_cons_self).2 (List.cons.inj h).1
    unfold takeClass
    refine (gives_peek (begins_char hcback _)).bind ?_
    dsimp only
    rw [if_pos hc]
    refine (gives_take (begins_char hcback _) hnext).bind ?_
    exact (ih hw (Nat.le_of_succ_le_succ hfuel)).bind .pure

/-! ## Bounds -/

theorem numberIn?_digits {ds : List Char} (hds : ∀ c ∈ ds, c.isDigit = true) :
    numberIn? 10 ds = some (Nat.ofDigitChars 10 ds 0) := by
  have hvalues : ds.mapM (digitIn? 10) = some (ds.map fun c => c.toNat - 48) := by
    induction ds with
    | nil => rfl
    | cons c ds ih =>
      obtain ⟨hc, hds⟩ := List.forall_mem_cons.mp hds
      rw [List.mapM_cons, digitIn?_of_isDigit hc, ih hds]
      rfl
  rw [numberIn?, hvalues, Option.map_some, digitsValue, List.foldl_map]
  rfl

theorem inBase_toDigits (n : Nat) : inBase 10 (Nat.toDigits 10 n) = n := by
  have hdigits : ∀ c ∈ Nat.toDigits 10 n, c.isDigit = true :=
    fun c hc => Nat.isDigit_of_mem_toDigits (by decide) (by decide) hc
  rw [inBase, numberIn?_digits hdigits, Nat.ofDigitChars_ten_toDigits]
  rfl

/-- Bounds that are one number. -/
theorem gives_readBounds {n : Nat} (hn : n < greatestRepeat) (hcs : cs ≠ ['\\']) :
    Gives readBounds s (Nat.toDigits 10 n ++ '\x7d' :: cs) (some (n, some n)) s cs := by
  have hdigits : ∀ c ∈ Nat.toDigits 10 n, c.isDigit = true ∧ c ≠ '\\' := by
    intro c hc
    have hdigit : c.isDigit = true := Nat.isDigit_of_mem_toDigits (by decide) (by decide) hc
    refine ⟨hdigit, ?_⟩
    rintro rfl
    cases hdigit
  have hvalue : inBase 10 (Nat.toDigits 10 n) = n := inBase_toDigits n
  obtain ⟨c, ds, hds⟩ := List.exists_cons_of_ne_nil (Nat.toDigits_ne_nil (n := n) (b := 10))
  rw [hds] at hdigits hvalue ⊢
  obtain ⟨hc, hback⟩ := hdigits c List.mem_cons_self
  have hbrace : c ≠ '\x7d' := by
    rintro rfl
    cases hc
  unfold readBounds
  refine Gives.get fun place => ?_
  have hfuel : (c :: ds).length ≤ (s.facing place (c :: ds ++ '\x7d' :: cs)).rest.length :=
    length_le_tokens (fun d hd => (hdigits d hd).2) place _
  refine (gives_peek (begins_char hback _)).bind ?_
  rw [if_neg (by simpa using hbrace)]
  refine (gives_takeClass hdigits (by decide) (by decide) hfuel).bind ?_
  refine (gives_accept_other (by simp) (by simp)).bind ?_
  refine Gives.bind .pure ?_
  refine (gives_accept (by decide) hcs).bind ?_
  dsimp only
  rw [if_pos rfl, hvalue, if_neg (by omega), if_neg (by simp), if_neg (by omega), if_neg (by omega)]
  exact .pure

end Tokens

end FieldCheck.Regex
