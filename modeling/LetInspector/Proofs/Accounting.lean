/-
**No `let` is lost.**

Every `let` of a text is accounted for in one of three ways: it opens a statement that was found, it
has raised a diagnostic, or it stands in the value of a statement that was found.  The three exclude
each other, and every statement and every diagnostic comes from one `let`; so the number of `let`
tokens is the number of statements, of diagnostics, and of those in values together.

What an attempt gives is settled by the tokens around its `let`, and a place in a text belongs to
one index.  These two facts make the ways exclude each other; that one of them always applies is
`LetInspector.Reading.covers`.

Main definitions:

* `LetInspector.Outcome.Opens`, `LetInspector.Outcome.Raises`, `LetInspector.Outcome.Swallows` — the
  three ways.

Main results:

* `LetInspector.Attempt.unique`, `LetInspector.Diagnostic.RaisedAt.index_unique` — an attempt gives
  one result, and a diagnostic is raised by one `let`;
* `LetInspector.Reading.index_ne_of_swallows` — no attempt is made inside a value;
* `LetInspector.Reading.ncard_letAt_eq` — the number of `let` tokens, by attempts;
* `LetInspector.Outcome.account_of_ofSource` — **the account of all `let` tokens**.
-/

import LetInspector.Proofs.Positions
import Mathlib.Data.Set.Card

set_option autoImplicit false

namespace LetInspector

/-! ### The three ways -/

/-- Whether the statement number `m` is opened by the `let` at the index `i`. -/
def Outcome.Opens (tokens : List Token) (o : Outcome) (i m : Nat) : Prop :=
  ∃ st : LetStatement, o.program.statements[m]? = some st ∧ tokens[i]? = some st.token

/-- Whether the `let` at the index `i` is the one that raised the diagnostic: the diagnostic asks for
a name in the place of the next token, or for `=` in the place of the token after that. -/
def Diagnostic.RaisedAt (tokens : List Token) (i : Nat) (d : Diagnostic) : Prop :=
  (d.expected = .ident ∧ ∃ x, tokens[i + 1]? = some x ∧ d.location = x.location) ∨
    (d.expected = .assign ∧ ∃ y, tokens[i + 2]? = some y ∧ d.location = y.location)

/-- Whether the diagnostic number `m` was raised by the `let` at the index `i`. -/
def Outcome.Raises (tokens : List Token) (o : Outcome) (i m : Nat) : Prop :=
  ∃ d : Diagnostic, o.diagnostics[m]? = some d ∧ d.RaisedAt tokens i

/-- Whether the `let` at the index `l` stands in the value of a statement: behind the `=` of the
statement and in front of the first semicolon or end token from there on. -/
def Outcome.Swallows (tokens : List Token) (o : Outcome) (l : Nat) : Prop :=
  LetAt tokens l ∧ ∃ i m, o.Opens tokens i m ∧ i + 2 < l ∧ l < valueEnd tokens (i + 3)

/-! ### Attempts and places -/

section Attempts

variable {tokens : List Token}

/-- **An attempt gives one result.** -/
theorem Attempt.unique {i j k : Nat} {r q : Except Diagnostic LetStatement}
    (h : Attempt tokens i j r) (h' : Attempt tokens i k q) : j = k ∧ r = q := by
  cases h <;> cases h' <;> simp_all

theorem Attempt.letAt {i j : Nat} {r : Except Diagnostic LetStatement}
    (h : Attempt tokens i j r) : LetAt tokens i := by
  cases h with
  | nameless ht hlet => exact ⟨_, ht, hlet⟩
  | unassigned ht hlet => exact ⟨_, ht, hlet⟩
  | statement ht hlet => exact ⟨_, ht, hlet⟩

theorem Attempt.raisedAt {i j : Nat} {d : Diagnostic} (h : Attempt tokens i j (.error d)) :
    d.RaisedAt tokens i := by
  cases h with
  | nameless ht hlet hx => exact Or.inl ⟨rfl, _, hx, rfl⟩
  | unassigned ht hlet hx hname hy => exact Or.inr ⟨rfl, _, hy, rfl⟩

theorem Attempt.resume_eq_of_ok {i j : Nat} {st : LetStatement} (h : Attempt tokens i j (.ok st)) :
    j = valueEnd tokens (i + 3) + 1 := by
  cases h with
  | statement => rfl

end Attempts

section Places

/-- A place behind a cursor belongs to one index. -/
theorem index_eq_of_location_eq {c : Cursor} {i j : Nat} {t u : Token}
    (ht : c.readAll.1[i]? = some t) (hu : c.readAll.1[j]? = some u)
    (h : t.location = u.location) : i = j := by
  rcases Nat.lt_trichotomy i j with hij | hij | hij
  · have hbefore := before_of_lt ht hu hij
    rw [h] at hbefore
    exact absurd hbefore (Location.not_before_self _)
  · exact hij
  · have hbefore := before_of_lt hu ht hij
    rw [h] at hbefore
    exact absurd hbefore (Location.not_before_self _)

/-- **A diagnostic is raised by one `let`.** -/
theorem Diagnostic.RaisedAt.index_unique {s : String} {i i' : Nat} {d : Diagnostic}
    (h : d.RaisedAt (tokenize s) i) (h' : d.RaisedAt (tokenize s) i') : i = i' := by
  rcases h with ⟨hd, x, hx, hxl⟩ | ⟨hd, y, hy, hyl⟩
  · rcases h' with ⟨-, x', hx', hxl'⟩ | ⟨hd', -⟩
    · have hi := index_eq_of_location_eq hx hx' (hxl.symm.trans hxl')
      omega
    · rw [hd] at hd'
      cases hd'
  · rcases h' with ⟨hd', -⟩ | ⟨-, y', hy', hyl'⟩
    · rw [hd] at hd'
      cases hd'
    · have hi := index_eq_of_location_eq hy hy' (hyl.symm.trans hyl')
      omega

end Places

/-! ### The ways, by attempts -/

/-- Each attempt gives a statement or a diagnostic. -/
theorem length_statements_add_length_diagnostics (es : List Entry) :
    (Outcome.ofEntries es).program.statements.length + (Outcome.ofEntries es).diagnostics.length =
      es.length := by
  simp only [Outcome.ofEntries, List.length_map]
  induction es with
  | nil => rfl
  | cons e es ih =>
      obtain ⟨i, j, r⟩ := e
      cases r with
      | ok st =>
          simp only [List.filterMap_cons, Entry.found?, Entry.missed?, List.length_cons]
          omega
      | error d =>
          simp only [List.filterMap_cons, Entry.found?, Entry.missed?, List.length_cons]
          omega

/-- The statements of a list of attempts are what some of them gave, and their order is kept. -/
theorem getElem?_statements_ofEntries {es : List Entry} {m : Nat} {st : LetStatement} :
    (Outcome.ofEntries es).program.statements[m]? = some st ↔
      ∃ i, (es.filterMap Entry.found?)[m]? = some (i, st) := by
  rw [Outcome.ofEntries, List.getElem?_map, Option.map_eq_some_iff]
  constructor
  · rintro ⟨⟨i, _⟩, hp, rfl⟩
    exact ⟨i, hp⟩
  · rintro ⟨i, hp⟩
    exact ⟨(i, st), hp, rfl⟩

theorem getElem?_diagnostics_ofEntries {es : List Entry} {m : Nat} {d : Diagnostic} :
    (Outcome.ofEntries es).diagnostics[m]? = some d ↔
      ∃ j, (es.filterMap Entry.missed?)[m]? = some (j, d) := by
  rw [Outcome.ofEntries, List.getElem?_map, Option.map_eq_some_iff]
  constructor
  · rintro ⟨⟨j, _⟩, hp, rfl⟩
    exact ⟨j, hp⟩
  · rintro ⟨j, hp⟩
    exact ⟨(j, d), hp, rfl⟩

/-- In a list of numbered things with increasing numbers, a number has one place. -/
theorem place_unique {α : Type} {ps : List (Nat × α)} (h : ps.Pairwise (fun p q => p.1 < q.1))
    {i m n : Nat} {a b : α} (hm : ps[m]? = some (i, a)) (hn : ps[n]? = some (i, b)) : m = n := by
  have hnodup : (ps.map Prod.fst).Nodup := List.pairwise_map.2 (h.imp Nat.ne_of_lt)
  have hm' : (ps.map Prod.fst)[m]? = some i := by rw [List.getElem?_map, hm, Option.map_some]
  have hn' : (ps.map Prod.fst)[n]? = some i := by rw [List.getElem?_map, hn, Option.map_some]
  obtain ⟨hlt, -⟩ := List.getElem?_eq_some_iff.1 hm'
  exact (List.getElem?_inj hlt hnodup).1 (hm'.trans hn'.symm)

namespace Reading

variable {s : String} {es : List Entry}

theorem exists_attempt_of_mem_missed (h : Reading (tokenize s) 0 es) {j : Nat} {d : Diagnostic}
    (hd : (j, d) ∈ es.filterMap Entry.missed?) : ∃ i, Attempt (tokenize s) i j (.error d) := by
  obtain ⟨e, he, rfl, hr⟩ := Entry.mem_missed_iff.1 hd
  exact ⟨e.index, h.attempt_of_mem he hr⟩

/-- A statement is opened by the `let` of the attempt that gave it, and by no other one. -/
theorem opens_iff (h : Reading (tokenize s) 0 es) {i m : Nat} :
    (Outcome.ofEntries es).Opens (tokenize s) i m ↔
      ∃ st, (es.filterMap Entry.found?)[m]? = some (i, st) := by
  constructor
  · rintro ⟨st, hm, hi⟩
    obtain ⟨k, hk⟩ := getElem?_statements_ofEntries.1 hm
    have hword := (h.standsAt_of_mem_found (List.mem_of_getElem? hk)).word
    obtain rfl := index_eq_of_location_eq hword hi rfl
    exact ⟨st, hk⟩
  · rintro ⟨st, hm⟩
    exact ⟨st, getElem?_statements_ofEntries.2 ⟨i, hm⟩,
      (h.standsAt_of_mem_found (List.mem_of_getElem? hm)).word⟩

/-- A diagnostic is raised by the `let` of the attempt that gave it, and by no other one. -/
theorem raises_iff (h : Reading (tokenize s) 0 es) {i m : Nat} :
    (Outcome.ofEntries es).Raises (tokenize s) i m ↔
      ∃ j d, (es.filterMap Entry.missed?)[m]? = some (j, d) ∧
        Attempt (tokenize s) i j (.error d) := by
  constructor
  · rintro ⟨d, hm, hraised⟩
    obtain ⟨j, hj⟩ := getElem?_diagnostics_ofEntries.1 hm
    obtain ⟨e, hattempt⟩ := h.exists_attempt_of_mem_missed (List.mem_of_getElem? hj)
    obtain rfl := hattempt.raisedAt.index_unique hraised
    exact ⟨j, d, hj, hattempt⟩
  · rintro ⟨j, d, hm, hattempt⟩
    exact ⟨d, getElem?_diagnostics_ofEntries.2 ⟨j, hm⟩, hattempt.raisedAt⟩

theorem opens_unique (h : Reading (tokenize s) 0 es) {i m n : Nat}
    (hm : (Outcome.ofEntries es).Opens (tokenize s) i m)
    (hn : (Outcome.ofEntries es).Opens (tokenize s) i n) : m = n := by
  obtain ⟨st, hst⟩ := h.opens_iff.1 hm
  obtain ⟨st', hst'⟩ := h.opens_iff.1 hn
  exact place_unique h.pairwise_found hst hst'

theorem raises_unique (h : Reading (tokenize s) 0 es) {i m n : Nat}
    (hm : (Outcome.ofEntries es).Raises (tokenize s) i m)
    (hn : (Outcome.ofEntries es).Raises (tokenize s) i n) : m = n := by
  obtain ⟨j, d, hd, hj⟩ := h.raises_iff.1 hm
  obtain ⟨j', d', hd', hj'⟩ := h.raises_iff.1 hn
  obtain ⟨rfl, -⟩ := hj.unique hj'
  exact place_unique h.pairwise_missed hd hd'

/-- **Every statement comes from one `let`.** -/
theorem existsUnique_opens (h : Reading (tokenize s) 0 es) {m : Nat}
    (hm : m < (Outcome.ofEntries es).program.statements.length) :
    ∃! i, LetAt (tokenize s) i ∧ (Outcome.ofEntries es).Opens (tokenize s) i m := by
  obtain ⟨i, hi⟩ := getElem?_statements_ofEntries.1 (List.getElem?_eq_getElem hm)
  have hstands := h.standsAt_of_mem_found (List.mem_of_getElem? hi)
  refine ⟨i, ⟨⟨_, hstands.word, hstands.word_kind⟩, h.opens_iff.2 ⟨_, hi⟩⟩, ?_⟩
  rintro k ⟨-, hk⟩
  obtain ⟨st, hst⟩ := h.opens_iff.1 hk
  rw [hi, Option.some.injEq, Prod.mk.injEq] at hst
  exact hst.1.symm

/-- **Every diagnostic comes from one `let`.** -/
theorem existsUnique_raises (h : Reading (tokenize s) 0 es) {m : Nat}
    (hm : m < (Outcome.ofEntries es).diagnostics.length) :
    ∃! i, LetAt (tokenize s) i ∧ (Outcome.ofEntries es).Raises (tokenize s) i m := by
  have hd := List.getElem?_eq_getElem hm
  obtain ⟨j, hj⟩ := getElem?_diagnostics_ofEntries.1 hd
  obtain ⟨i, hattempt⟩ := h.exists_attempt_of_mem_missed (List.mem_of_getElem? hj)
  refine ⟨i, ⟨hattempt.letAt, _, hd, hattempt.raisedAt⟩, ?_⟩
  rintro k ⟨-, d, hd', hraised⟩
  rw [hd, Option.some.injEq] at hd'
  subst hd'
  exact hraised.index_unique hattempt.raisedAt

/-- The `let` tokens that open statements are those of the attempts that gave one. -/
theorem exists_opens_iff (h : Reading (tokenize s) 0 es) {i : Nat} :
    (∃ m, (Outcome.ofEntries es).Opens (tokenize s) i m) ↔
      ∃ e ∈ es, e.index = i ∧ ∃ st, e.result = .ok st := by
  simp only [h.opens_iff]
  constructor
  · rintro ⟨m, st, hm⟩
    obtain ⟨e, he, hi, hr⟩ := Entry.mem_found_iff.1 (List.mem_of_getElem? hm)
    exact ⟨e, he, hi, st, hr⟩
  · rintro ⟨e, he, rfl, st, hr⟩
    have hmem : (e.index, st) ∈ es.filterMap Entry.found? :=
      Entry.mem_found_iff.2 ⟨e, he, rfl, hr⟩
    obtain ⟨m, hm⟩ := List.mem_iff_getElem?.1 hmem
    exact ⟨m, st, hm⟩

/-- The `let` tokens that raise diagnostics are those of the attempts that gave one. -/
theorem exists_raises_iff (h : Reading (tokenize s) 0 es) {i : Nat} :
    (∃ m, (Outcome.ofEntries es).Raises (tokenize s) i m) ↔
      ∃ e ∈ es, e.index = i ∧ ∃ d, e.result = .error d := by
  simp only [h.raises_iff]
  constructor
  · rintro ⟨m, j, d, hm, hattempt⟩
    obtain ⟨e, he, -, hr⟩ := Entry.mem_missed_iff.1 (List.mem_of_getElem? hm)
    have hattempt' := h.attempt_of_mem he hr
    exact ⟨e, he, hattempt'.raisedAt.index_unique hattempt.raisedAt, d, hr⟩
  · rintro ⟨e, he, rfl, d, hr⟩
    have hmem : (e.resume, d) ∈ es.filterMap Entry.missed? :=
      Entry.mem_missed_iff.2 ⟨e, he, rfl, hr⟩
    obtain ⟨m, hm⟩ := List.mem_iff_getElem?.1 hmem
    exact ⟨m, e.resume, d, hm, h.attempt_of_mem he hr⟩

/-- A `let` does not both open a statement and raise a diagnostic. -/
theorem not_raises_of_opens (h : Reading (tokenize s) 0 es) {i m n : Nat}
    (hm : (Outcome.ofEntries es).Opens (tokenize s) i m) :
    ¬ (Outcome.ofEntries es).Raises (tokenize s) i n := by
  intro hn
  obtain ⟨e, he, rfl, st, hr⟩ := h.exists_opens_iff.1 ⟨m, hm⟩
  obtain ⟨j, d, -, hd⟩ := h.raises_iff.1 hn
  cases ((h.attempt_of_mem he hr).unique hd).2

/-- Two attempts of a reading are the same, or one is made behind the other. -/
theorem eq_or_resume_le {tokens : List Token} {i : Nat} (h : Reading tokens i es) {e f : Entry}
    (he : e ∈ es) (hf : f ∈ es) : e = f ∨ e.resume ≤ f.index ∨ f.resume ≤ e.index := by
  obtain ⟨a, ha, rfl⟩ := List.getElem_of_mem he
  obtain ⟨b, hb, rfl⟩ := List.getElem_of_mem hf
  have hbehind := List.pairwise_iff_getElem.1 h.pairwise
  rcases Nat.lt_trichotomy a b with hab | rfl | hab
  · exact Or.inr (Or.inl (hbehind a b ha hb hab))
  · exact Or.inl rfl
  · exact Or.inr (Or.inr (hbehind b a hb ha hab))

/-- **No attempt is made inside a value.** -/
theorem index_ne_of_swallows (h : Reading (tokenize s) 0 es) {l : Nat}
    (hl : (Outcome.ofEntries es).Swallows (tokenize s) l) : ∀ e ∈ es, e.index ≠ l := by
  rintro e he rfl
  obtain ⟨-, i, m, hopens, hil, hlv⟩ := hl
  obtain ⟨f, hf, rfl, st, hr⟩ := h.exists_opens_iff.1 ⟨m, hopens⟩
  -- behind the statement that swallows the `let`, reading goes on behind its value
  have hresume : f.resume = valueEnd (tokenize s) (f.index + 3) + 1 :=
    (h.attempt_of_mem hf hr).resume_eq_of_ok
  have he' := (h.holds e he).index_lt_resume
  rcases h.eq_or_resume_le he hf with rfl | hle | hle <;> omega

/-- A `let` at which no attempt is made is swallowed. -/
theorem exists_index_eq_or_swallows (h : Reading (tokenize s) 0 es) {l : Nat}
    (hl : LetAt (tokenize s) l) :
    (∃ e ∈ es, e.index = l) ∨ (Outcome.ofEntries es).Swallows (tokenize s) l := by
  obtain ⟨u, hu, hlet⟩ := hl
  rcases h.covers (ended_tokenize s) (Nat.zero_le l) hu hlet with hindex | ⟨e, he, ⟨st, hr⟩, hvalue⟩
  · exact Or.inl hindex
  · obtain ⟨m, hm⟩ := h.exists_opens_iff.2 ⟨e, he, rfl, st, hr⟩
    exact Or.inr ⟨⟨u, hu, hlet⟩, e.index, m, hm, hvalue⟩

end Reading

/-! ### Counting -/

/-- The number of indices at which a `let` stands is the number of `let` tokens. -/
theorem ncard_letAt (tokens : List Token) :
    {i | LetAt tokens i}.Finite ∧
      {i | LetAt tokens i}.ncard = tokens.countP (fun t => t.kind = .letWord) := by
  induction tokens with
  | nil => simp [LetAt]
  | cons t rest ih =>
      obtain ⟨hfinite, hcard⟩ := ih
      have himage := Set.ncard_image_of_injective {i | LetAt rest i} Nat.succ_injective
      have hfin : (Nat.succ '' {i | LetAt rest i}).Finite := hfinite.image _
      by_cases ht : t.kind = .letWord
      · have hset : {i | LetAt (t :: rest) i} = insert 0 (Nat.succ '' {i | LetAt rest i}) := by
          ext i
          cases i <;> simp [LetAt, ht]
        have hzero : 0 ∉ Nat.succ '' {i | LetAt rest i} := by simp
        rw [hset, Set.ncard_insert_of_notMem hzero hfin, himage, hcard,
          List.countP_cons_of_pos (by simpa using ht)]
        exact ⟨hfin.insert 0, rfl⟩
      · have hset : {i | LetAt (t :: rest) i} = Nat.succ '' {i | LetAt rest i} := by
          ext i
          cases i <;> simp [LetAt, ht]
        rw [hset, himage, hcard, List.countP_cons_of_neg (by simpa using ht)]
        exact ⟨hfin, rfl⟩

/-- **The `let` tokens of a text** are those at which an attempt is made and those that are
swallowed. -/
theorem Reading.ncard_letAt_eq {s : String} {es : List Entry} (h : Reading (tokenize s) 0 es) :
    {i | LetAt (tokenize s) i}.ncard =
      es.length + {l | (Outcome.ofEntries es).Swallows (tokenize s) l}.ncard := by
  have hsplit : {i | LetAt (tokenize s) i} = ↑(es.map Entry.index).toFinset ∪
      {l | (Outcome.ofEntries es).Swallows (tokenize s) l} := by
    ext i
    simp only [Set.mem_ofPred_eq, Set.mem_union, List.coe_toFinset, List.mem_map]
    constructor
    · exact h.exists_index_eq_or_swallows
    · rintro (⟨e, he, rfl⟩ | hi)
      · exact (h.holds e he).letAt
      · exact hi.1
  have hdisjoint : Disjoint (↑(es.map Entry.index).toFinset : Set Nat)
      {l | (Outcome.ofEntries es).Swallows (tokenize s) l} := by
    rw [Set.disjoint_left]
    intro i hi hl
    obtain ⟨e, he, hei⟩ := List.mem_map.1 (List.mem_toFinset.1 (Finset.mem_coe.1 hi))
    exact h.index_ne_of_swallows hl e he hei
  have hfinite : {l | (Outcome.ofEntries es).Swallows (tokenize s) l}.Finite :=
    (ncard_letAt (tokenize s)).1.subset fun l hl => hl.1
  have hnodup : (es.map Entry.index).Nodup :=
    List.pairwise_map.2 (h.pairwise_lt.imp fun hlt => Nat.ne_of_lt hlt.1)
  rw [hsplit, Set.ncard_union_eq hdisjoint (Finset.finite_toSet _) hfinite, Set.ncard_coe_finset,
    List.toFinset_card_of_nodup hnodup, List.length_map]

/-! ### The account -/

/-- **No `let` is lost or counted twice.**  Each `let` of a text opens exactly one statement, or has
raised exactly one diagnostic, or is swallowed by the value of a statement, and only one of the
three; each statement and each diagnostic comes from exactly one `let`; and so the numbers add
up. -/
theorem Outcome.account_of_ofSource (s : String) :
    (∀ i, LetAt (tokenize s) i →
      ((∃! m, (ofSource s).Opens (tokenize s) i m) ∧
          (¬ ∃ m, (ofSource s).Raises (tokenize s) i m) ∧
          ¬ (ofSource s).Swallows (tokenize s) i) ∨
        ((¬ ∃ m, (ofSource s).Opens (tokenize s) i m) ∧
          (∃! m, (ofSource s).Raises (tokenize s) i m) ∧
          ¬ (ofSource s).Swallows (tokenize s) i) ∨
        ((¬ ∃ m, (ofSource s).Opens (tokenize s) i m) ∧
          (¬ ∃ m, (ofSource s).Raises (tokenize s) i m) ∧
          (ofSource s).Swallows (tokenize s) i)) ∧
    (∀ m < (ofSource s).program.statements.length,
      ∃! i, LetAt (tokenize s) i ∧ (ofSource s).Opens (tokenize s) i m) ∧
    (∀ m < (ofSource s).diagnostics.length,
      ∃! i, LetAt (tokenize s) i ∧ (ofSource s).Raises (tokenize s) i m) ∧
    (tokenize s).countP (fun t => t.kind = .letWord) =
      (ofSource s).program.statements.length + (ofSource s).diagnostics.length +
        {i | (ofSource s).Swallows (tokenize s) i}.ncard := by
  obtain ⟨es, h, houtcome⟩ := exists_reading (ended_tokenize s) 0
  rw [List.drop_zero, ← ofSource_eq] at houtcome
  rw [houtcome]
  refine ⟨?_, ?_, ?_, ?_⟩
  · intro i hi
    rcases h.exists_index_eq_or_swallows hi with ⟨e, he, rfl⟩ | hswallows
    · have hnot : ¬ (ofEntries es).Swallows (tokenize s) e.index := fun hl =>
        h.index_ne_of_swallows hl e he rfl
      cases hr : e.result with
      | ok st =>
          obtain ⟨m, hm⟩ := h.exists_opens_iff.2 ⟨e, he, rfl, st, hr⟩
          refine Or.inl ⟨⟨m, hm, fun n hn => h.opens_unique hn hm⟩, ?_, hnot⟩
          rintro ⟨n, hn⟩
          exact h.not_raises_of_opens hm hn
      | error d =>
          obtain ⟨m, hm⟩ := h.exists_raises_iff.2 ⟨e, he, rfl, d, hr⟩
          refine Or.inr (Or.inl ⟨?_, ⟨m, hm, fun n hn => h.raises_unique hn hm⟩, hnot⟩)
          rintro ⟨n, hn⟩
          exact h.not_raises_of_opens hn hm
    · refine Or.inr (Or.inr ⟨fun hopens => ?_, fun hraises => ?_, hswallows⟩)
      · obtain ⟨e, he, hei, -⟩ := h.exists_opens_iff.1 hopens
        exact h.index_ne_of_swallows hswallows e he hei
      · obtain ⟨e, he, hei, -⟩ := h.exists_raises_iff.1 hraises
        exact h.index_ne_of_swallows hswallows e he hei
  · exact fun m hm => h.existsUnique_opens hm
  · exact fun m hm => h.existsUnique_raises hm
  · rw [← (ncard_letAt (tokenize s)).2, h.ncard_letAt_eq, length_statements_add_length_diagnostics]

end LetInspector
