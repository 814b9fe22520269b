/-
**Where statements and diagnostics stand.**

`LetInspector.Outcome.ofTokens` reads a list of tokens and forgets where it found what.  This module
follows the same reading by the indices of the tokens.  At each `let` that the reader comes to, an
attempt is made to read a statement: it gives a statement or a diagnostic, and an index at which
reading goes on.  A reading is the list of all attempts.  So the statements of a text stand at real
tokens, in the order of the text, and so do the diagnostics.

Main definitions:

* `LetInspector.valueEnd` — where the first semicolon or end token stands from an index on;
* `LetInspector.Attempt` — **one attempt**, in terms of the tokens around it;
* `LetInspector.Reading` — all attempts from an index on.

Main results:

* `LetInspector.exists_reading` — every list of tokens that ends with an end token has a reading,
  and its outcome is what the attempts come to;
* `LetInspector.Reading.holds`, `LetInspector.Reading.pairwise`, `LetInspector.Reading.covers` —
  what all attempts of a reading satisfy, their order, and that no `let` is missed;
* `LetInspector.Outcome.positions_ofSource` — **the positions of statements and diagnostics**.
-/

import LetInspector.Proofs.Place
import LetInspector.Proofs.TokenScan
import Mathlib.Data.List.Forall2

set_option autoImplicit false

namespace LetInspector

/-! ### The end token and the ends of values -/

/-- Whether the last token, and no other one, is an end token. -/
def Ended (tokens : List Token) : Prop :=
  ∀ i t, tokens[i]? = some t → (t.kind = .eof ↔ i + 1 = tokens.length)

theorem Ended.tail {t : Token} {tokens : List Token} (h : Ended (t :: tokens)) : Ended tokens := by
  intro i u hu
  have hiff := h (i + 1) u hu
  rw [List.length_cons] at hiff
  rw [hiff]
  omega

theorem Ended.drop {tokens : List Token} (h : Ended tokens) (k : Nat) : Ended (tokens.drop k) := by
  induction k with
  | zero => exact h
  | succ k ih =>
      rw [← List.tail_drop]
      cases hd : tokens.drop k with
      | nil => simp [Ended]
      | cons t rest =>
          rw [hd] at ih
          exact ih.tail

/-- Reading all stops at the first end token. -/
theorem Cursor.ended_readAll (c : Cursor) : Ended c.readAll.1 := by
  obtain ⟨front, e, hread, he, hfront⟩ := c.exists_readAll_eq_concat
  rw [hread]
  intro i t ht
  rcases Nat.lt_or_ge i front.length with hi | hi
  · rw [List.getElem?_append_left hi] at ht
    have hne : t.kind ≠ .eof := hfront t (List.mem_of_getElem? ht)
    rw [List.length_append, List.length_singleton]
    constructor
    · intro h
      exact absurd h hne
    · omega
  · obtain ⟨hlt, -⟩ := List.getElem?_eq_some_iff.1 ht
    rw [List.length_append, List.length_singleton] at hlt
    have hi' : i = front.length := by omega
    subst hi'
    rw [List.getElem?_concat_length, Option.some.injEq] at ht
    subst ht
    simp [he]

theorem ended_tokenize (s : String) : Ended (tokenize s) := (Cursor.ofSource s).ended_readAll

/-- Whether a value ends in front of the token. -/
def endsValue (t : Token) : Bool := t.kind = .semicolon ∨ t.kind = .eof

/-- Where the first semicolon or end token stands from the index `k` on. -/
def valueEnd (tokens : List Token) (k : Nat) : Nat := k + (tokens.drop k).findIdx endsValue

theorem endsValue_of_getElem?_valueEnd {tokens : List Token} {k : Nat} {t : Token}
    (h : tokens[valueEnd tokens k]? = some t) : endsValue t = true := by
  rw [valueEnd, ← List.getElem?_drop] at h
  obtain ⟨hlt, rfl⟩ := List.getElem?_eq_some_iff.1 h
  exact List.findIdx_getElem

theorem afterSemicolon_eq_drop {tokens : List Token} (h : Ended tokens) :
    afterSemicolon tokens = tokens.drop (tokens.findIdx endsValue + 1) := by
  induction tokens with
  | nil => rfl
  | cons t rest ih =>
      rw [afterSemicolon, List.findIdx_cons, List.drop_succ_cons]
      by_cases hsemi : t.kind = .semicolon
      · simp [endsValue, hsemi]
      · by_cases heof : t.kind = .eof
        · -- nothing stands behind the end token
          have hlen : rest = [] := by simpa using (h 0 t rfl).1 heof
          simp [heof, hlen]
        · rw [if_neg hsemi, if_neg heof, ih h.tail]
          simp [endsValue, hsemi, heof]

theorem afterSemicolon_drop {tokens : List Token} (h : Ended tokens) (k : Nat) :
    afterSemicolon (tokens.drop k) = tokens.drop (valueEnd tokens k + 1) := by
  rw [afterSemicolon_eq_drop (h.drop k), List.drop_drop, valueEnd, Nat.add_assoc]

/-! ### One attempt -/

/-- **An attempt to read a statement** at the `let` with the first index: the result, and the second
index, at which reading goes on.  Behind a diagnostic that is the token that stood in the way, and
behind a statement the token that follows its value. -/
inductive Attempt (tokens : List Token) : Nat → Nat → Except Diagnostic LetStatement → Prop
  | nameless {i : Nat} {t x : Token} (ht : tokens[i]? = some t) (hlet : t.kind = .letWord)
      (hx : tokens[i + 1]? = some x) (hname : x.kind ≠ .ident) :
      Attempt tokens i (i + 1) (.error ⟨.ident, x.kind, x.location⟩)
  | unassigned {i : Nat} {t x y : Token} (ht : tokens[i]? = some t) (hlet : t.kind = .letWord)
      (hx : tokens[i + 1]? = some x) (hname : x.kind = .ident) (hy : tokens[i + 2]? = some y)
      (hsign : y.kind ≠ .assign) :
      Attempt tokens i (i + 2) (.error ⟨.assign, y.kind, y.location⟩)
  | statement {i : Nat} {t x y : Token} (ht : tokens[i]? = some t) (hlet : t.kind = .letWord)
      (hx : tokens[i + 1]? = some x) (hname : x.kind = .ident) (hy : tokens[i + 2]? = some y)
      (hsign : y.kind = .assign) :
      Attempt tokens i (valueEnd tokens (i + 3) + 1) (.ok ⟨t, .ofToken x, none⟩)

variable {tokens : List Token}

theorem drop_eq_cons_of_getElem? {i : Nat} {t : Token} (h : tokens[i]? = some t) :
    tokens.drop i = t :: tokens.drop (i + 1) := by
  obtain ⟨hlt, rfl⟩ := List.getElem?_eq_some_iff.1 h
  exact List.drop_eq_getElem_cons hlt

theorem Attempt.index_lt_resume {i j : Nat} {r : Except Diagnostic LetStatement}
    (h : Attempt tokens i j r) : i < j := by
  cases h with
  | nameless => omega
  | unassigned => omega
  | statement =>
      have hle : i + 3 ≤ valueEnd tokens (i + 3) := Nat.le_add_right ..
      omega

/-- A token that is not the end token has another one behind it. -/
theorem Ended.exists_getElem?_succ (h : Ended tokens) {i : Nat} {t : Token}
    (ht : tokens[i]? = some t) (heof : t.kind ≠ .eof) : ∃ u, tokens[i + 1]? = some u := by
  obtain ⟨hlt, -⟩ := List.getElem?_eq_some_iff.1 ht
  have hne : i + 1 ≠ tokens.length := fun hi => heof ((h i t ht).2 hi)
  exact ⟨_, List.getElem?_eq_getElem (show i + 1 < tokens.length by omega)⟩

/-- An attempt can be made at every `let`. -/
theorem Ended.exists_attempt (h : Ended tokens) {i : Nat} {t : Token} (ht : tokens[i]? = some t)
    (hlet : t.kind = .letWord) : ∃ j r, Attempt tokens i j r := by
  obtain ⟨x, hx⟩ := h.exists_getElem?_succ ht (by simp [hlet])
  by_cases hname : x.kind = .ident
  · obtain ⟨y, hy⟩ := h.exists_getElem?_succ hx (by simp [hname])
    by_cases hsign : y.kind = .assign
    · exact ⟨_, _, .statement ht hlet hx hname hy hsign⟩
    · exact ⟨_, _, .unassigned ht hlet hx hname hy hsign⟩
  · exact ⟨_, _, .nameless ht hlet hx hname⟩

/-- **One attempt is one step of reading**: it gives what the list of tokens has at its `let`, and
goes on with what the list goes on with. -/
theorem Attempt.ofTokens_drop (hend : Ended tokens) {i j : Nat}
    {r : Except Diagnostic LetStatement} (h : Attempt tokens i j r) :
    Outcome.ofTokens (tokens.drop i) =
      match r with
      | .ok s => (Outcome.ofTokens (tokens.drop j)).withStatement s
      | .error d => (Outcome.ofTokens (tokens.drop j)).withDiagnostic d := by
  cases h with
  | nameless ht hlet hx hname =>
      rw [drop_eq_cons_of_getElem? ht, drop_eq_cons_of_getElem? hx,
        Outcome.ofTokens_nameless hlet hname]
  | unassigned ht hlet hx hname hy hsign =>
      rw [drop_eq_cons_of_getElem? ht, drop_eq_cons_of_getElem? hx, drop_eq_cons_of_getElem? hy,
        Outcome.ofTokens_unassigned hlet hname hsign]
  | statement ht hlet hx hname hy hsign =>
      rw [drop_eq_cons_of_getElem? ht, drop_eq_cons_of_getElem? hx, drop_eq_cons_of_getElem? hy,
        Outcome.ofTokens_statement hlet hname hsign, afterSemicolon_drop hend]

/-! ### A reading -/

/-- An attempt that was made: where, where reading went on, and what came of it. -/
structure Entry where
  index : Nat
  resume : Nat
  result : Except Diagnostic LetStatement

/-- The statement that an attempt gave, with the index of its `let`. -/
def Entry.found? (e : Entry) : Option (Nat × LetStatement) :=
  match e.result with
  | .ok s => some (e.index, s)
  | .error _ => none

/-- The diagnostic that an attempt gave, with the index of the token that stood in the way. -/
def Entry.missed? (e : Entry) : Option (Nat × Diagnostic) :=
  match e.result with
  | .ok _ => none
  | .error d => some (e.resume, d)

/-- The outcome that a list of attempts comes to. -/
def Outcome.ofEntries (es : List Entry) : Outcome :=
  ⟨⟨(es.filterMap Entry.found?).map Prod.snd⟩, (es.filterMap Entry.missed?).map Prod.snd⟩

/-- **All attempts from an index on.** -/
inductive Reading (tokens : List Token) : Nat → List Entry → Prop
  | stop {i : Nat} (h : ∀ t ∈ tokens[i]?, t.kind = .eof) : Reading tokens i []
  | pass {i : Nat} {t : Token} {es : List Entry} (ht : tokens[i]? = some t) (heof : t.kind ≠ .eof)
      (hlet : t.kind ≠ .letWord) (next : Reading tokens (i + 1) es) : Reading tokens i es
  | attempt {i j : Nat} {r : Except Diagnostic LetStatement} {es : List Entry}
      (h : Attempt tokens i j r) (next : Reading tokens j es) : Reading tokens i (⟨i, j, r⟩ :: es)

/-- **Every list of tokens has a reading**, and its outcome is what the attempts come to. -/
theorem exists_reading (hend : Ended tokens) (i : Nat) :
    ∃ es, Reading tokens i es ∧ Outcome.ofTokens (tokens.drop i) = .ofEntries es := by
  -- every step goes to a later token
  induction hn : tokens.length - i using Nat.strongRecOn generalizing i with
  | _ n ih =>
      cases ht : tokens[i]? with
      | none =>
          have hnil : tokens.drop i = [] := List.drop_eq_nil_of_le (List.getElem?_eq_none_iff.1 ht)
          exact ⟨[], .stop (by simp [ht]), by rw [hnil, Outcome.ofTokens_nil]; rfl⟩
      | some t =>
          obtain ⟨hlt, -⟩ := List.getElem?_eq_some_iff.1 ht
          by_cases heof : t.kind = .eof
          · refine ⟨[], .stop (by simpa [ht] using heof), ?_⟩
            rw [drop_eq_cons_of_getElem? ht, Outcome.ofTokens_eof heof]
            rfl
          · by_cases hlet : t.kind = .letWord
            · obtain ⟨j, r, hattempt⟩ := hend.exists_attempt ht hlet
              have hij := hattempt.index_lt_resume
              obtain ⟨es, hreading, houtcome⟩ := ih (tokens.length - j) (by omega) j rfl
              refine ⟨⟨i, j, r⟩ :: es, .attempt hattempt hreading, ?_⟩
              rw [hattempt.ofTokens_drop hend, houtcome]
              cases r <;> rfl
            · obtain ⟨es, hreading, houtcome⟩ := ih (tokens.length - (i + 1)) (by omega) (i + 1) rfl
              refine ⟨es, .pass ht heof hlet hreading, ?_⟩
              rw [drop_eq_cons_of_getElem? ht, Outcome.ofTokens_other heof hlet, houtcome]

namespace Reading

theorem holds {i : Nat} {es : List Entry} (h : Reading tokens i es) :
    ∀ e ∈ es, Attempt tokens e.index e.resume e.result := by
  induction h with
  | stop => simp
  | pass ht heof hlet next ih => exact ih
  | attempt h next ih =>
      intro e he
      rcases List.mem_cons.1 he with rfl | he
      · exact h
      · exact ih e he

theorem attempt_of_mem {i : Nat} {es : List Entry} (h : Reading tokens i es) {e : Entry}
    (he : e ∈ es) {r : Except Diagnostic LetStatement} (hr : e.result = r) :
    Attempt tokens e.index e.resume r := by
  rw [← hr]
  exact h.holds e he

theorem le_index {i : Nat} {es : List Entry} (h : Reading tokens i es) : ∀ e ∈ es, i ≤ e.index := by
  induction h with
  | stop => simp
  | pass ht heof hlet next ih =>
      intro e he
      have := ih e he
      omega
  | attempt h next ih =>
      intro e he
      rcases List.mem_cons.1 he with rfl | he
      · exact Nat.le_refl _
      · have hlt := h.index_lt_resume
        have := ih e he
        omega

/-- **The order of a reading**: each attempt is made where reading went on after the one before, or
later. -/
theorem pairwise {i : Nat} {es : List Entry} (h : Reading tokens i es) :
    es.Pairwise (fun e f => e.resume ≤ f.index) := by
  induction h with
  | stop => exact .nil
  | pass ht heof hlet next ih => exact ih
  | attempt h next ih => exact .cons next.le_index ih

/-- **No `let` is missed**: from the start of a reading on, an attempt is made at it, or it stands
in the value of a statement that was found. -/
theorem covers (hend : Ended tokens) {i : Nat} {es : List Entry} (h : Reading tokens i es) {l : Nat}
    {u : Token} (hil : i ≤ l) (hu : tokens[l]? = some u) (hlet : u.kind = .letWord) :
    (∃ e ∈ es, e.index = l) ∨
      ∃ e ∈ es, (∃ s, e.result = .ok s) ∧ e.index + 2 < l ∧ l < valueEnd tokens (e.index + 3) := by
  -- the token at an index between two attempts is known, and is no `let`
  have hne : ∀ {k : Nat} {v : Token}, tokens[k]? = some v → v.kind ≠ .letWord → l ≠ k := by
    rintro k v hv hkind rfl
    rw [hu, Option.some.injEq] at hv
    exact hkind (hv ▸ hlet)
  induction h with
  | @stop i h =>
      obtain ⟨hlt, -⟩ := List.getElem?_eq_some_iff.1 hu
      have hi : tokens[i]? = some tokens[i] := List.getElem?_eq_getElem (by omega)
      have heof : tokens[i].kind = .eof := h _ hi
      have hlast := (hend i _ hi).1 heof
      have hl := hne hi (by simp [heof])
      omega
  | pass ht heof hnot next ih =>
      have hl := hne ht hnot
      exact ih (by omega)
  | @attempt i j r es h next ih =>
      by_cases hl : l = i
      · exact Or.inl ⟨_, List.mem_cons_self .., hl.symm⟩
      · by_cases hjl : j ≤ l
        · rcases ih hjl with ⟨e, he, hindex⟩ | ⟨e, he, hvalue⟩
          · exact Or.inl ⟨e, List.mem_cons_of_mem _ he, hindex⟩
          · exact Or.inr ⟨e, List.mem_cons_of_mem _ he, hvalue⟩
        · cases h with
          | nameless => omega
          | unassigned ht hi hx hname hy hsign =>
              have := hne hx (by simp [hname])
              omega
          | statement ht hi hx hname hy hsign =>
              have hname' := hne hx (by simp [hname])
              have hsign' := hne hy (by simp [hsign])
              have hstop : l ≠ valueEnd tokens (i + 3) := by
                rintro rfl
                have hends := endsValue_of_getElem?_valueEnd hu
                simp [endsValue, hlet] at hends
              exact Or.inr ⟨_, List.mem_cons_self .., ⟨_, rfl⟩, by simp only; omega,
                by simp only; omega⟩

end Reading

/-! ### The positions in a text -/

/-- Whether a `let` stands at the index `i`. -/
def LetAt (tokens : List Token) (i : Nat) : Prop := ∃ t, tokens[i]? = some t ∧ t.kind = .letWord

/-- Whether the statement `s` stands at the index `i`: its `let`, its name and `=` are the tokens
from there on, its name is spelt as the token, and its value is left open. -/
structure LetStatement.StandsAt (tokens : List Token) (i : Nat) (s : LetStatement) : Prop where
  word : tokens[i]? = some s.token
  word_kind : s.token.kind = .letWord
  name : tokens[i + 1]? = some s.name.token
  name_kind : s.name.token.kind = .ident
  sign : ∃ y, tokens[i + 2]? = some y ∧ y.kind = .assign
  spelling : s.name.value = s.name.token.literal
  value : s.value = none

/-- Whether the diagnostic `d` is about the token with the index `j`, which is no name behind
`let`, or no `=` behind `let` and a name. -/
structure Diagnostic.PointsAt (tokens : List Token) (j : Nat) (d : Diagnostic) : Prop where
  token : ∃ u, tokens[j]? = some u ∧ d.found = u.kind ∧ d.location = u.location
  found_ne : d.found ≠ d.expected
  before : (d.expected = .ident ∧ ∃ i, j = i + 1 ∧ LetAt tokens i) ∨
    (d.expected = .assign ∧ ∃ i, j = i + 2 ∧ LetAt tokens i ∧
      ∃ x, tokens[i + 1]? = some x ∧ x.kind = .ident)

theorem Attempt.standsAt {i j : Nat} {s : LetStatement} (h : Attempt tokens i j (.ok s)) :
    s.StandsAt tokens i := by
  cases h with
  | statement ht hlet hx hname hy hsign =>
      exact ⟨ht, hlet, hx, hname, ⟨_, hy, hsign⟩, rfl, rfl⟩

theorem Attempt.pointsAt {i j : Nat} {d : Diagnostic} (h : Attempt tokens i j (.error d)) :
    d.PointsAt tokens j := by
  cases h with
  | nameless ht hlet hx hname =>
      exact ⟨⟨_, hx, rfl, rfl⟩, hname, Or.inl ⟨rfl, _, rfl, _, ht, hlet⟩⟩
  | unassigned ht hlet hx hname hy hsign =>
      exact ⟨⟨_, hy, rfl, rfl⟩, hsign, Or.inr ⟨rfl, _, rfl, ⟨_, ht, hlet⟩, _, hx, hname⟩⟩

theorem Entry.found?_eq_some_iff {e : Entry} {p : Nat × LetStatement} :
    e.found? = some p ↔ e.index = p.1 ∧ e.result = .ok p.2 := by
  obtain ⟨i, j, r⟩ := e
  cases r <;> simp [Entry.found?, Prod.ext_iff]

theorem Entry.missed?_eq_some_iff {e : Entry} {p : Nat × Diagnostic} :
    e.missed? = some p ↔ e.resume = p.1 ∧ e.result = .error p.2 := by
  obtain ⟨i, j, r⟩ := e
  cases r <;> simp [Entry.missed?, Prod.ext_iff]

theorem Entry.mem_found_iff {es : List Entry} {p : Nat × LetStatement} :
    p ∈ es.filterMap Entry.found? ↔ ∃ e ∈ es, e.index = p.1 ∧ e.result = .ok p.2 := by
  simp only [List.mem_filterMap, Entry.found?_eq_some_iff]

theorem Entry.mem_missed_iff {es : List Entry} {p : Nat × Diagnostic} :
    p ∈ es.filterMap Entry.missed? ↔ ∃ e ∈ es, e.resume = p.1 ∧ e.result = .error p.2 := by
  simp only [List.mem_filterMap, Entry.missed?_eq_some_iff]

namespace Reading

/-- The attempts of a reading are made at increasing indices, and go on at increasing ones. -/
theorem pairwise_lt {i : Nat} {es : List Entry} (h : Reading tokens i es) :
    es.Pairwise (fun e f => e.index < f.index ∧ e.resume < f.resume) := by
  refine h.pairwise.imp_of_mem fun {e f} he hf hle => ?_
  have he' := (h.holds e he).index_lt_resume
  have hf' := (h.holds f hf).index_lt_resume
  omega

theorem pairwise_found {i : Nat} {es : List Entry} (h : Reading tokens i es) :
    (es.filterMap Entry.found?).Pairwise (fun p q => p.1 < q.1) := by
  refine h.pairwise_lt.filterMap _ fun e f hef p hp q hq => ?_
  rw [Entry.found?_eq_some_iff] at hp hq
  omega

theorem pairwise_missed {i : Nat} {es : List Entry} (h : Reading tokens i es) :
    (es.filterMap Entry.missed?).Pairwise (fun p q => p.1 < q.1) := by
  refine h.pairwise_lt.filterMap _ fun e f hef p hp q hq => ?_
  rw [Entry.missed?_eq_some_iff] at hp hq
  omega

theorem standsAt_of_mem_found {i : Nat} {es : List Entry} (h : Reading tokens i es)
    {p : Nat × LetStatement} (hp : p ∈ es.filterMap Entry.found?) : p.2.StandsAt tokens p.1 := by
  obtain ⟨k, st⟩ := p
  obtain ⟨e, he, rfl, hresult⟩ := Entry.mem_found_iff.1 hp
  exact (h.attempt_of_mem he hresult).standsAt

theorem pointsAt_of_mem_missed {i : Nat} {es : List Entry} (h : Reading tokens i es)
    {p : Nat × Diagnostic} (hp : p ∈ es.filterMap Entry.missed?) : p.2.PointsAt tokens p.1 := by
  obtain ⟨k, d⟩ := p
  obtain ⟨e, he, rfl, hresult⟩ := Entry.mem_missed_iff.1 hp
  exact (h.attempt_of_mem he hresult).pointsAt

end Reading

/-- The tokens behind a cursor stand at increasing places. -/
theorem Cursor.pairwise_before_readAll (c : Cursor) :
    c.readAll.1.Pairwise (fun t u => t.location.Before u.location) := by
  obtain ⟨d, hd⟩ := Tiling.exists_tiles c.rest
  have hend : c.location.after c.rest =
      (c.location.after d.lead).after (Tile.textOf d.tiles) := by
    rw [← Location.after_append, ← hd.text_eq, Tiling.text]
  rw [hd.readAll_eq, hend]
  exact hd.fitting.pairwise_before _

theorem before_of_lt {c : Cursor} {i j : Nat} {t u : Token} (ht : c.readAll.1[i]? = some t)
    (hu : c.readAll.1[j]? = some u) (hij : i < j) : t.location.Before u.location := by
  obtain ⟨hi, rfl⟩ := List.getElem?_eq_some_iff.1 ht
  obtain ⟨hj, rfl⟩ := List.getElem?_eq_some_iff.1 hu
  exact List.pairwise_iff_getElem.1 c.pairwise_before_readAll i j hi hj hij

/-- **Where statements and diagnostics stand.**  Each statement of a text stands at real tokens and
each diagnostic is about a real token, both in the order of the text; so the places of the
diagnostics increase, and no two of them are the same. -/
theorem Outcome.positions_ofSource (s : String) :
    ∃ is js : List Nat, is.Pairwise (· < ·) ∧ js.Pairwise (· < ·) ∧
      List.Forall₂ (LetStatement.StandsAt (tokenize s)) is (ofSource s).program.statements ∧
      List.Forall₂ (Diagnostic.PointsAt (tokenize s)) js (ofSource s).diagnostics ∧
      (ofSource s).diagnostics.Pairwise (fun d e => d.location.Before e.location) ∧
      ((ofSource s).diagnostics.map (·.location)).Nodup := by
  obtain ⟨es, hreading, houtcome⟩ := exists_reading (ended_tokenize s) 0
  rw [List.drop_zero, ← ofSource_eq] at houtcome
  rw [houtcome, ofEntries]
  have hbefore : ((es.filterMap Entry.missed?).map Prod.snd).Pairwise
      (fun d e => d.location.Before e.location) := by
    refine List.pairwise_map.2 (hreading.pairwise_missed.imp_of_mem fun {p q} hp hq hpq => ?_)
    obtain ⟨t, ht, -, htl⟩ := (hreading.pointsAt_of_mem_missed hp).token
    obtain ⟨u, hu, -, hul⟩ := (hreading.pointsAt_of_mem_missed hq).token
    rw [htl, hul]
    exact before_of_lt ht hu hpq
  refine ⟨(es.filterMap Entry.found?).map Prod.fst, (es.filterMap Entry.missed?).map Prod.fst,
    List.pairwise_map.2 hreading.pairwise_found, List.pairwise_map.2 hreading.pairwise_missed,
    ?_, ?_, hbefore, ?_⟩
  · rw [List.forall₂_map_left_iff, List.forall₂_map_right_iff, List.forall₂_same]
    exact fun p hp => hreading.standsAt_of_mem_found hp
  · rw [List.forall₂_map_left_iff, List.forall₂_map_right_iff, List.forall₂_same]
    exact fun p hp => hreading.pointsAt_of_mem_missed hp
  · refine List.pairwise_map.2 (hbefore.imp fun {d e} h heq => ?_)
    rw [heq] at h
    exact absurd h (Location.not_before_self _)

end LetInspector
