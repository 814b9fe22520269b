/-
**How often the window moves.**

Reading a program moves the window in three places: behind every statement and every token that is
passed over, from a token that was expected onto it, and over the tokens of a value.  The end token
stands behind the text for ever, so that the text alone does not stop the window.  This module
counts its moves.

After any number of moves the window stands at the token with that number
(`Window.current_iterate_move`).  So the number of moves is an index into the list of tokens, and a
reading of the list by indices (`LetInspector.Reading`) is followed step by step.  Every attempt
goes on at a later index, and reading stops at the end token, with one exception: when a value runs
into the end of the text, the window stands at the end token behind the value, and the move behind
the statement takes it one further.

Main definitions:

* `LetInspector.Outcome.RunsOut` — **the value of the last statement runs into the end of the
  text**.

Main results:

* `LetInspector.Attempt.letStatement_iterate_move` — one attempt, by moves of the window;
* `LetInspector.Reading.readProgram_go_iterate_move` — a whole reading, by moves of the window;
* `LetInspector.Reading.runsOut_iff` — when a reading goes on behind the end token;
* `LetInspector.Window.moves_readProgram` — **the number of moves**.
-/

import LetInspector.Proofs.Accounting

set_option autoImplicit false

namespace LetInspector

/-- **Whether the value of the last statement runs into the end of the text**: no semicolon stands
behind its `=`. -/
def Outcome.RunsOut (tokens : List Token) (o : Outcome) : Prop :=
  ∃ st i, o.program.statements.getLast? = some st ∧ st.StandsAt tokens i ∧
    ∀ t ∈ tokens.drop (i + 3), t.kind ≠ .semicolon

/-! ### The ends of values -/

section Values

variable {tokens : List Token} {k : Nat} {t : Token}

theorem valueEnd_of_endsValue (ht : tokens[k]? = some t) (h : endsValue t = true) :
    valueEnd tokens k = k := by
  rw [valueEnd, drop_eq_cons_of_getElem? ht, List.findIdx_cons, h]
  rfl

theorem valueEnd_succ (ht : tokens[k]? = some t) (h : endsValue t = false) :
    valueEnd tokens (k + 1) = valueEnd tokens k := by
  rw [valueEnd, valueEnd, drop_eq_cons_of_getElem? ht, List.findIdx_cons, h, cond_false]
  omega

/-- A token that is not the end token is not the last one. -/
theorem Ended.succ_lt_length (h : Ended tokens) (ht : tokens[k]? = some t) (heof : t.kind ≠ .eof) :
    k + 1 < tokens.length := by
  obtain ⟨u, hu⟩ := h.exists_getElem?_succ ht heof
  exact (List.getElem?_eq_some_iff.1 hu).1

/-- Every value ends at a token, which is the end token at the latest. -/
theorem Ended.valueEnd_lt (h : Ended tokens) (hk : k < tokens.length) :
    valueEnd tokens k < tokens.length := by
  have hlast : tokens[tokens.length - 1]? = some tokens[tokens.length - 1] :=
    List.getElem?_eq_getElem (by omega)
  have heof : tokens[tokens.length - 1].kind = .eof := (h _ _ hlast).2 (by omega)
  have hmem : tokens[tokens.length - 1] ∈ tokens.drop k := by
    refine List.mem_iff_getElem?.2 ⟨tokens.length - 1 - k, ?_⟩
    rw [List.getElem?_drop, Nat.add_sub_cancel' (by omega), hlast]
  have hends : endsValue tokens[tokens.length - 1] = true := by simp [endsValue, heof]
  have hlt := List.findIdx_lt_length_of_exists ⟨_, hmem, hends⟩
  rw [List.length_drop] at hlt
  rw [valueEnd]
  omega

/-- A value ends at the last token exactly if no semicolon stands from its start on. -/
theorem Ended.valueEnd_eq_last_iff (h : Ended tokens) (hk : k < tokens.length) :
    valueEnd tokens k + 1 = tokens.length ↔ ∀ u ∈ tokens.drop k, u.kind ≠ .semicolon := by
  have hlt := h.valueEnd_lt hk
  have hstop : tokens[valueEnd tokens k]? = some tokens[valueEnd tokens k] :=
    List.getElem?_eq_getElem hlt
  constructor
  · intro hlast u hu
    obtain ⟨i, hi⟩ := List.mem_iff_getElem?.1 hu
    obtain ⟨hilt, hget⟩ := List.getElem?_eq_some_iff.1 hi
    intro hsemicolon
    by_cases hfirst : i < (tokens.drop k).findIdx endsValue
    · have hnot := List.not_of_lt_findIdx hfirst
      rw [hget] at hnot
      simp [endsValue, hsemicolon] at hnot
    · -- the value ends at the last token, and nothing stands behind that
      have heq : k + i = valueEnd tokens k := by
        rw [List.length_drop] at hilt
        unfold valueEnd at hlast ⊢
        omega
      rw [List.getElem?_drop, heq] at hi
      rw [(h _ _ hi).2 hlast] at hsemicolon
      cases hsemicolon
  · intro hnone
    have hends := endsValue_of_getElem?_valueEnd hstop
    have hmem : tokens[valueEnd tokens k] ∈ tokens.drop k := by
      refine List.mem_iff_getElem?.2 ⟨valueEnd tokens k - k, ?_⟩
      have hle : k ≤ valueEnd tokens k := Nat.le_add_right ..
      rw [List.getElem?_drop, Nat.add_sub_cancel' hle, hstop]
    have hsemicolon := hnone _ hmem
    have heof : tokens[valueEnd tokens k].kind = .eof := by
      simpa [endsValue, hsemicolon] using hends
    exact (h _ _ hstop).1 heof

end Values

/-! ### Where the window stands -/

namespace Window

variable {c : Cursor} {n : Nat} {t : Token}

theorem iterate_move_eq_standing (c : Cursor) (n : Nat) :
    move^[n] (ofCursor c) = standing ((fun d => d.next.2)^[n] c) n := by
  induction n with
  | zero => rfl
  | succ n ih => rw [Function.iterate_succ_apply', Function.iterate_succ_apply', ih, move_standing]

/-- The window counts its moves. -/
theorem moves_iterate_move (c : Cursor) (n : Nat) : (move^[n] (ofCursor c)).moves = n := by
  rw [iterate_move_eq_standing]
  rfl

theorem move_iterate_move (c : Cursor) (n : Nat) :
    (move^[n] (ofCursor c)).move = move^[n + 1] (ofCursor c) :=
  (Function.iterate_succ_apply' move n _).symm

/-- **After `n` moves the window stands at the token number `n`.** -/
theorem current_iterate_move (ht : c.readAll.1[n]? = some t) :
    (move^[n] (ofCursor c)).current = t := by
  obtain ⟨hlt, -⟩ := List.getElem?_eq_some_iff.1 ht
  obtain ⟨rest, hrest⟩ := ((fun d : Cursor => d.next.2)^[n] c).exists_readAll_eq_cons
  rw [Cursor.readAll_iterate_next, leftAfter, if_pos hlt, drop_eq_cons_of_getElem? ht] at hrest
  rw [iterate_move_eq_standing, current_standing]
  exact (List.cons.inj hrest).1.symm

theorem upcoming_iterate_move (ht : c.readAll.1[n + 1]? = some t) :
    (move^[n] (ofCursor c)).upcoming = t := by
  rw [← current_iterate_move ht, ← move_iterate_move]
  rfl

/-- Behind the last token stands the end token. -/
theorem kind_current_of_length_le (h : c.readAll.1.length ≤ n) :
    (move^[n] (ofCursor c)).current.kind = .eof := by
  obtain ⟨front, e, hread, he, -⟩ := c.exists_readAll_eq_concat
  obtain ⟨rest, hrest⟩ := ((fun d : Cursor => d.next.2)^[n] c).exists_readAll_eq_cons
  rw [Cursor.readAll_iterate_next, leftAfter, if_neg (Nat.not_lt.2 h), hread,
    List.getLast?_concat] at hrest
  rw [iterate_move_eq_standing, current_standing, ← (List.cons.inj hrest).1, he]

/-- The window takes a token that was expected, with one move. -/
theorem expect_iterate_move (ht : c.readAll.1[n + 1]? = some t) (k : Kind) :
    (move^[n] (ofCursor c)).expect k =
      if t.kind = k then .ok (move^[n + 1] (ofCursor c)) else .error ⟨k, t.kind, t.location⟩ := by
  rw [expect, upcoming_iterate_move ht, move_iterate_move]

/-! ### The moves of one attempt -/

/-- Passing over a value takes the window to the end of the value. -/
theorem skipValue_iterate_move (hn : n < c.readAll.1.length) :
    (move^[n] (ofCursor c)).skipValue = move^[valueEnd c.readAll.1 n] (ofCursor c) := by
  have ht : c.readAll.1[n]? = some c.readAll.1[n] := List.getElem?_eq_getElem hn
  generalize hw : move^[n] (ofCursor c) = w
  fun_induction skipValue w generalizing n with
  | case1 w h =>
      subst hw
      rw [current_iterate_move ht] at h
      rw [valueEnd_of_endsValue ht (by simpa [endsValue] using h)]
  | case2 w h ih =>
      subst hw
      rw [current_iterate_move ht] at h
      have hends : endsValue c.readAll.1[n] = false := by simpa [endsValue] using h
      have hlt := c.ended_readAll.succ_lt_length ht fun heof => h (Or.inr heof)
      rw [ih hlt (List.getElem?_eq_getElem hlt) (move_iterate_move c n).symm,
        valueEnd_succ ht hends]

end Window

/-- **One attempt, by moves of the window**: it gives what the attempt gives, and the move behind it
takes the window to the index at which reading goes on. -/
theorem Attempt.letStatement_iterate_move {c : Cursor} {i j : Nat}
    {r : Except Diagnostic LetStatement} (h : Attempt c.readAll.1 i j r) :
    (Window.move^[i] (.ofCursor c)).letStatement.1 = r ∧
      (Window.move^[i] (.ofCursor c)).letStatement.2.move = Window.move^[j] (.ofCursor c) := by
  cases h with
  | nameless ht hlet hx hname =>
      rw [Window.letStatement, Window.expect_iterate_move hx, if_neg hname]
      exact ⟨rfl, Window.move_iterate_move c i⟩
  | unassigned ht hlet hx hname hy hsign =>
      rw [Window.letStatement, Window.expect_iterate_move hx, if_pos hname]
      simp only [Window.expect_iterate_move hy, if_neg hsign]
      exact ⟨trivial, Window.move_iterate_move c (i + 1)⟩
  | @statement t x y ht hlet hx hname hy hsign =>
      obtain ⟨hlt, -⟩ := List.getElem?_eq_some_iff.1 hy
      have hends : endsValue y = false := by simp [endsValue, hsign]
      have hskip : (Window.move^[i + 2] (.ofCursor c)).skipValue =
          Window.move^[valueEnd c.readAll.1 (i + 3)] (.ofCursor c) := by
        rw [Window.skipValue_iterate_move hlt, valueEnd_succ hy hends]
      rw [Window.letStatement, Window.expect_iterate_move hx, if_pos hname]
      simp only [Window.expect_iterate_move hy, if_pos hsign, hskip,
        Window.current_iterate_move ht, Window.current_iterate_move hx]
      exact ⟨trivial, Window.move_iterate_move c _⟩

/-- Reading goes on at a token, or right behind the last one. -/
theorem Attempt.resume_le {tokens : List Token} (hend : Ended tokens) {i j : Nat}
    {r : Except Diagnostic LetStatement} (h : Attempt tokens i j r) : j ≤ tokens.length := by
  cases h with
  | nameless ht hlet hx hname =>
      obtain ⟨hlt, -⟩ := List.getElem?_eq_some_iff.1 hx
      omega
  | unassigned ht hlet hx hname hy hsign =>
      obtain ⟨hlt, -⟩ := List.getElem?_eq_some_iff.1 hy
      omega
  | statement ht hlet hx hname hy hsign =>
      exact hend.valueEnd_lt (hend.succ_lt_length hy (by simp [hsign]))

/-! ### The moves of a reading -/

namespace Reading

/-- **A whole reading, by moves of the window.**  From a token on, reading stops at the end token,
or one move behind it if it goes on there after some attempt. -/
theorem readProgram_go_iterate_move {c : Cursor} {i : Nat} {es : List Entry}
    (h : Reading c.readAll.1 i es) (hi : i ≤ c.readAll.1.length)
    (statements : List LetStatement) (diagnostics : List Diagnostic) :
    ∃ k, (Window.readProgram.go (Window.move^[i] (.ofCursor c)) statements diagnostics).2 =
        Window.move^[k] (.ofCursor c) ∧
      (k = c.readAll.1.length ∨ k + 1 = c.readAll.1.length) ∧
      (k = c.readAll.1.length ↔
        i = c.readAll.1.length ∨ ∃ e ∈ es, e.resume = c.readAll.1.length) := by
  induction h generalizing statements diagnostics with
  | @stop i h =>
      have hlast : i = c.readAll.1.length ∨ i + 1 = c.readAll.1.length := by
        rcases Nat.eq_or_lt_of_le hi with heq | hlt
        · exact Or.inl heq
        · have ht := List.getElem?_eq_getElem hlt
          exact Or.inr ((c.ended_readAll i _ ht).1 (h _ ht))
      have heof : (Window.move^[i] (.ofCursor c)).current.kind = .eof := by
        rcases hlast with heq | hsucc
        · exact Window.kind_current_of_length_le (Nat.le_of_eq heq.symm)
        · have ht := List.getElem?_eq_getElem (l := c.readAll.1) (i := i) (by omega)
          rw [Window.current_iterate_move ht]
          exact h _ ht
      refine ⟨i, ?_, hlast, by simp⟩
      rw [Window.readProgram.go, if_pos heof]
  | @pass i t es ht heof hlet next ih =>
      have hlt := c.ended_readAll.succ_lt_length ht heof
      obtain ⟨k, hgo, hk, hiff⟩ := ih (by omega) statements diagnostics
      refine ⟨k, ?_, hk, ?_⟩
      · rw [Window.readProgram.go, Window.current_iterate_move ht, if_neg heof, if_neg hlet,
          Window.move_iterate_move, hgo]
      · rw [hiff]
        refine or_congr ?_ Iff.rfl
        omega
  | @attempt i j r es h next ih =>
      obtain ⟨t, ht, hlet⟩ := h.letAt
      obtain ⟨hlt, -⟩ := List.getElem?_eq_some_iff.1 ht
      obtain ⟨hresult, hmove⟩ := h.letStatement_iterate_move
      have heof : t.kind ≠ .eof := by simp [hlet]
      have hj := h.resume_le c.ended_readAll
      have hstep : ∃ statements' diagnostics',
          Window.readProgram.go (Window.move^[i] (.ofCursor c)) statements diagnostics =
            Window.readProgram.go (Window.move^[j] (.ofCursor c)) statements' diagnostics' := by
        rw [Window.readProgram.go, Window.current_iterate_move ht, if_neg heof, if_pos hlet]
        simp only [hresult, hmove]
        cases r with
        | ok st => exact ⟨_, _, rfl⟩
        | error d => exact ⟨_, _, rfl⟩
      obtain ⟨statements', diagnostics', hgo'⟩ := hstep
      obtain ⟨k, hgo, hk, hiff⟩ := ih hj statements' diagnostics'
      refine ⟨k, hgo'.symm ▸ hgo, hk, ?_⟩
      rw [hiff]
      simp only [List.exists_mem_cons_iff]
      have hne : i ≠ c.readAll.1.length := Nat.ne_of_lt hlt
      simp only [hne, false_or]

/-- The statement behind which reading stops is the last one. -/
theorem getLast?_statements {tokens : List Token} {i : Nat} {es : List Entry}
    (h : Reading tokens i es) {e : Entry} (he : e ∈ es) (hresume : e.resume = tokens.length)
    {st : LetStatement} (hst : e.result = .ok st) :
    (Outcome.ofEntries es).program.statements.getLast? = some st := by
  obtain ⟨before, behind, rfl⟩ := List.append_of_mem he
  have hnone : behind = [] := by
    refine List.eq_nil_iff_forall_not_mem.2 ?_
    intro f hf
    have hle := (List.pairwise_cons.1 (List.pairwise_append.1 h.pairwise).2.1).1 f hf
    obtain ⟨t, ht, -⟩ := (h.holds f (by simp [hf])).letAt
    obtain ⟨hlt, -⟩ := List.getElem?_eq_some_iff.1 ht
    omega
  subst hnone
  have hfound : e.found? = some (e.index, st) := Entry.found?_eq_some_iff.2 ⟨rfl, hst⟩
  rw [Outcome.ofEntries, List.filterMap_append, List.filterMap_cons_some hfound,
    List.filterMap_nil, List.map_append, List.map_singleton, List.getLast?_concat]

/-- **Reading goes on behind the end token exactly if the last value runs into the end of the
text.** -/
theorem runsOut_iff {c : Cursor} {es : List Entry} (h : Reading c.readAll.1 0 es) :
    (Outcome.ofEntries es).RunsOut c.readAll.1 ↔ ∃ e ∈ es, e.resume = c.readAll.1.length := by
  have hend := c.ended_readAll
  constructor
  · rintro ⟨st, i, hlast, hstands, hnone⟩
    obtain ⟨m, hm⟩ := List.mem_iff_getElem?.1 (List.mem_of_getLast? hlast)
    obtain ⟨k, hk⟩ := getElem?_statements_ofEntries.1 hm
    obtain ⟨e, he, hindex, hresult⟩ := Entry.mem_found_iff.1 (List.mem_of_getElem? hk)
    have hattempt := h.attempt_of_mem he hresult
    obtain rfl : i = e.index := index_eq_of_location_eq hstands.word hattempt.standsAt.word rfl
    obtain ⟨y, hy, hsign⟩ := hstands.sign
    have hlt := hend.succ_lt_length hy (by simp [hsign])
    refine ⟨e, he, ?_⟩
    rw [hattempt.resume_eq_of_ok]
    exact (hend.valueEnd_eq_last_iff hlt).2 hnone
  · rintro ⟨e, he, hresume⟩
    cases hresult : e.result with
    | error d =>
        -- a diagnostic is about a token, at which reading goes on
        obtain ⟨u, hu, -⟩ := (h.attempt_of_mem he hresult).pointsAt.token
        obtain ⟨hlt, -⟩ := List.getElem?_eq_some_iff.1 hu
        omega
    | ok st =>
        have hattempt := h.attempt_of_mem he hresult
        have hstands := hattempt.standsAt
        obtain ⟨y, hy, hsign⟩ := hstands.sign
        have hlt := hend.succ_lt_length hy (by simp [hsign])
        have hvalue := hattempt.resume_eq_of_ok
        exact ⟨st, e.index, h.getLast?_statements he hresume hresult, hstands,
          (hend.valueEnd_eq_last_iff hlt).1 (hvalue ▸ hresume)⟩

end Reading

/-! ### The number of moves -/

/-- The tokens behind a cursor are the end token and the others. -/
theorem Cursor.countP_ne_eof_add_one (c : Cursor) :
    c.readAll.1.countP (fun t => t.kind ≠ .eof) + 1 = c.readAll.1.length := by
  obtain ⟨front, e, hread, he, hfront⟩ := c.exists_readAll_eq_concat
  have hall : front.countP (fun t => t.kind ≠ .eof) = front.length := by
    refine List.countP_eq_length.2 ?_
    intro t ht
    simpa using hfront t ht
  rw [hread, List.countP_append, hall, List.countP_cons_of_neg (by simp [he]), List.countP_nil,
    List.length_append, List.length_singleton]

/-- **How often the window moves.**  Reading the program behind a cursor takes the window over two
tokens by single moves to where it stops, and the window counts them.  Their number is that of the
tokens before the end token; if the value of the last statement runs into the end of the text, and
only then, it is one more. -/
theorem Window.moves_readProgram (c : Cursor) :
    let w := (ofCursor c).readProgram.2
    let m := c.readAll.1.countP (fun t => t.kind ≠ .eof)
    w = move^[w.moves] (ofCursor c) ∧ w.current.kind = .eof ∧ w.moves ≤ m + 1 ∧
      (w.moves = m + 1 ↔ (Outcome.ofCursor c).RunsOut c.readAll.1) ∧
      (w.moves = m ↔ ¬ (Outcome.ofCursor c).RunsOut c.readAll.1) := by
  intro w m
  obtain ⟨es, hreading, houtcome⟩ := exists_reading c.ended_readAll 0
  obtain ⟨k, hgo, hlast, hk⟩ :=
    hreading.readProgram_go_iterate_move (Nat.zero_le _) [] []
  rw [List.drop_zero, ← Outcome.ofCursor_eq] at houtcome
  have hm : m + 1 = c.readAll.1.length := c.countP_ne_eof_add_one
  have hw : w = move^[k] (ofCursor c) := hgo
  have hmoves : w.moves = k := by rw [hw, moves_iterate_move]
  have hruns : k = m + 1 ↔ (Outcome.ofCursor c).RunsOut c.readAll.1 := by
    have hzero : 0 ≠ c.readAll.1.length := by omega
    rw [houtcome, hreading.runsOut_iff, hm, hk]
    simp only [hzero, false_or]
  have hkind : w.current.kind = .eof := by
    rcases hlast with heq | hsucc
    · rw [hw]
      exact kind_current_of_length_le (Nat.le_of_eq heq.symm)
    · have ht := List.getElem?_eq_getElem (l := c.readAll.1) (i := k) (by omega)
      rw [hw, current_iterate_move ht]
      exact (c.ended_readAll k _ ht).2 hsucc
  rw [hmoves]
  refine ⟨hw, hkind, by omega, hruns, ?_⟩
  rw [← hruns]
  omega

end LetInspector
