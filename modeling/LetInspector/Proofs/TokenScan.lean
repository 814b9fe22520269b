/-
**Reading a program off a list of tokens.**

`LetInspector.Window` reads a program through a window of two tokens that moves over a live cursor.
This module reads the same program by recursion on the list of tokens, with no window and no
cursor, and proves that the two agree wherever in a text the reader starts.

Main definitions:

* `LetInspector.afterSemicolon` — what follows a value;
* `LetInspector.Outcome.ofTokens` — **the program in a list of tokens**;
* `LetInspector.leftAfter` — the tokens that are left once some were read;
* `LetInspector.Window.standing` — the window at a cursor.

Main results:

* `LetInspector.Cursor.next_next_of_eof` — the end of a text stays the end;
* `LetInspector.Window.readProgram_go_standing` — a window reads the program in the tokens that
  are left;
* `LetInspector.Outcome.ofCursor_iterate_read` — the same for a reader that starts after any number
  of tokens of a text.
-/

import LetInspector.Program.Window
import LetInspector.Proofs.Tiling
import LetInspector.Token.Stream
import Mathlib.Logic.Function.Iterate

set_option autoImplicit false

namespace LetInspector

/-! ### The program in a list of tokens -/

/-- The tokens behind the first semicolon; none if the end token comes first. -/
def afterSemicolon : List Token → List Token
  | [] => []
  | t :: rest =>
    if t.kind = .semicolon then rest
    else if t.kind = .eof then []
    else afterSemicolon rest

theorem length_afterSemicolon_le (tokens : List Token) :
    (afterSemicolon tokens).length ≤ tokens.length := by
  induction tokens with
  | nil => exact Nat.le_refl 0
  | cons t rest ih =>
      rw [afterSemicolon, List.length_cons]
      split
      · omega
      · split
        · exact Nat.zero_le _
        · omega

namespace Outcome

/-- The outcome of nothing. -/
def empty : Outcome := ⟨⟨[]⟩, []⟩

/-- An outcome with one more statement in front. -/
def withStatement (s : LetStatement) (o : Outcome) : Outcome :=
  ⟨⟨s :: o.program.statements⟩, o.diagnostics⟩

/-- An outcome with one more diagnostic in front. -/
def withDiagnostic (d : Diagnostic) (o : Outcome) : Outcome := ⟨o.program, d :: o.diagnostics⟩

/-- **The program in a list of tokens.**  Behind `let` a name and then `=` have to follow.  A token
that stands in the way is noted, and reading goes on at that token; otherwise a statement is found,
and reading goes on behind its semicolon.  All other tokens are passed over, and the end token ends
the program. -/
def ofTokens : List Token → Outcome
  | [] => empty
  | t :: rest =>
    if t.kind = .eof then empty
    else if t.kind = .letWord then
      match rest with
      | [] => empty
      | x :: named =>
        if x.kind = .ident then
          match named with
          | [] => empty
          | y :: value =>
            if y.kind = .assign then
              (ofTokens (afterSemicolon value)).withStatement ⟨t, .ofToken x, none⟩
            else (ofTokens (y :: value)).withDiagnostic ⟨.assign, y.kind, y.location⟩
        else (ofTokens (x :: named)).withDiagnostic ⟨.ident, x.kind, x.location⟩
    else ofTokens rest
  termination_by tokens => tokens.length
  decreasing_by
    · have := length_afterSemicolon_le value
      simp only [List.length_cons]
      omega
    · simp
    · simp
    · simp

@[simp] theorem ofTokens_nil : ofTokens [] = empty := by
  rw [ofTokens]

theorem ofTokens_eof {t : Token} (h : t.kind = .eof) (rest : List Token) :
    ofTokens (t :: rest) = empty := by
  rw [ofTokens.eq_def]
  simp only [h, ↓reduceIte]

theorem ofTokens_other {t : Token} (heof : t.kind ≠ .eof) (hlet : t.kind ≠ .letWord)
    (rest : List Token) : ofTokens (t :: rest) = ofTokens rest := by
  rw [ofTokens.eq_def]
  simp only [heof, hlet, ↓reduceIte]

theorem ofTokens_let {t : Token} (ht : t.kind = .letWord) : ofTokens [t] = empty := by
  rw [ofTokens.eq_def]
  simp only [ht, reduceCtorEq, ↓reduceIte]

theorem ofTokens_let_name {t x : Token} (ht : t.kind = .letWord) (hx : x.kind = .ident) :
    ofTokens [t, x] = empty := by
  rw [ofTokens.eq_def]
  simp only [ht, hx, reduceCtorEq, ↓reduceIte]

theorem ofTokens_nameless {t x : Token} (ht : t.kind = .letWord) (hx : x.kind ≠ .ident)
    (rest : List Token) :
    ofTokens (t :: x :: rest) =
      (ofTokens (x :: rest)).withDiagnostic ⟨.ident, x.kind, x.location⟩ := by
  rw [ofTokens.eq_def]
  simp only [ht, hx, reduceCtorEq, ↓reduceIte]

theorem ofTokens_unassigned {t x y : Token} (ht : t.kind = .letWord) (hx : x.kind = .ident)
    (hy : y.kind ≠ .assign) (rest : List Token) :
    ofTokens (t :: x :: y :: rest) =
      (ofTokens (y :: rest)).withDiagnostic ⟨.assign, y.kind, y.location⟩ := by
  rw [ofTokens.eq_def]
  simp only [ht, hx, hy, reduceCtorEq, ↓reduceIte]

theorem ofTokens_statement {t x y : Token} (ht : t.kind = .letWord) (hx : x.kind = .ident)
    (hy : y.kind = .assign) (rest : List Token) :
    ofTokens (t :: x :: y :: rest) =
      (ofTokens (afterSemicolon rest)).withStatement ⟨t, .ofToken x, none⟩ := by
  rw [ofTokens.eq_def]
  simp only [ht, hx, hy, reduceCtorEq, ↓reduceIte]

end Outcome

/-! ### The end of a text stays the end -/

namespace Cursor

/-- Behind the end token stands the same end token. -/
theorem next_next_of_eof {c : Cursor} (h : c.next.1.kind = .eof) : c.next.2.next = c.next := by
  obtain ⟨⟨lead, tiles⟩, hd⟩ := Tiling.exists_tiles c.rest
  cases tiles with
  | nil =>
      rw [hd.next_eq_of_nil]
      rfl
  | cons t ts =>
      rw [hd.next_eq] at h
      cases hd.fitting with
      | cons lexical gap munch rest => exact absurd h lexical.kind_ne_eof

theorem readAll_of_eof {c : Cursor} (h : c.next.1.kind = .eof) : c.readAll.1 = [c.next.1] := by
  rw [readAll_eq, if_pos h]

theorem readAll_of_ne_eof {c : Cursor} (h : c.next.1.kind ≠ .eof) :
    c.readAll.1 = c.next.1 :: c.next.2.readAll.1 := by
  rw [readAll_eq, if_neg h]

/-- Reading all gives the next token first. -/
theorem exists_readAll_eq_cons (c : Cursor) : ∃ rest, c.readAll.1 = c.next.1 :: rest := by
  by_cases h : c.next.1.kind = .eof
  · exact ⟨[], readAll_of_eof h⟩
  · exact ⟨c.next.2.readAll.1, readAll_of_ne_eof h⟩

/-- At the end of a text, reading all from behind the end token gives it again. -/
theorem readAll_next_of_eof {c : Cursor} (h : c.next.1.kind = .eof) :
    c.next.2.readAll.1 = [c.next.1] := by
  have hnext := next_next_of_eof h
  rw [readAll_of_eof (by rw [hnext]; exact h), hnext]

/-- What reading all gives ends at its first end token. -/
theorem exists_readAll_eq_concat (c : Cursor) :
    ∃ front e, c.readAll.1 = front ++ [e] ∧ e.kind = .eof ∧ ∀ t ∈ front, t.kind ≠ .eof := by
  obtain ⟨d, hd⟩ := Tiling.exists_tiles c.rest
  rw [hd.readAll_eq]
  exact ⟨_, _, rfl, rfl, hd.fitting.kind_ne_eof _⟩

end Cursor

/-- The tokens of a text are an end token and others in front of it. -/
theorem exists_tokenize_eq_concat (s : String) :
    ∃ e, tokenize s = (tokenize s).dropLast ++ [e] ∧ e.kind = .eof ∧
      ∀ t ∈ (tokenize s).dropLast, t.kind ≠ .eof := by
  obtain ⟨d, hd⟩ := Tiling.exists_tiles s.toList
  rw [hd.tokenize_eq, List.dropLast_concat]
  exact ⟨.endAt (Location.start.after s.toList), rfl, rfl, hd.fitting.kind_ne_eof _⟩

/-! ### The window follows the list -/

namespace Window

/-- The window over the next two tokens at a cursor, after `n` moves. -/
def standing (c : Cursor) (n : Nat) : Window := { ofCursor c with moves := n }

theorem move_standing (c : Cursor) (n : Nat) :
    (standing c n).move = standing c.next.2 (n + 1) := rfl

theorem expect_standing (c : Cursor) (n : Nat) (k : Kind) :
    (standing c n).expect k =
      if c.next.2.next.1.kind = k then .ok (standing c.next.2 (n + 1))
      else .error ⟨k, c.next.2.next.1.kind, c.next.2.next.1.location⟩ := rfl

@[simp] theorem current_standing (c : Cursor) (n : Nat) : (standing c n).current = c.next.1 := rfl

/-- Passing over a value leaves the window where the next move takes it to what follows the
value. -/
theorem skipValue_standing (c : Cursor) (n : Nat) :
    ∃ c' m, (standing c n).skipValue = standing c' m ∧
      Outcome.ofTokens c'.next.2.readAll.1 = Outcome.ofTokens (afterSemicolon c.readAll.1) := by
  generalize hw : standing c n = w
  fun_induction skipValue w generalizing c n with
  | case1 w h =>
      subst hw
      refine ⟨c, n, rfl, ?_⟩
      rw [current_standing] at h
      by_cases heof : c.next.1.kind = .eof
      · -- the value runs into the end of the text, and the next move finds the end token again
        rw [Cursor.readAll_next_of_eof heof, Cursor.readAll_of_eof heof,
          Outcome.ofTokens_eof heof, afterSemicolon]
        simp [heof]
      · have hsemicolon : c.next.1.kind = .semicolon := h.resolve_right heof
        rw [Cursor.readAll_of_ne_eof heof, afterSemicolon, if_pos hsemicolon]
  | case2 w h ih =>
      subst hw
      rw [current_standing, not_or] at h
      obtain ⟨c', m, hskip, htokens⟩ := ih c.next.2 (n + 1) (move_standing c n).symm
      refine ⟨c', m, hskip, ?_⟩
      rw [htokens, Cursor.readAll_of_ne_eof h.2, afterSemicolon, if_neg h.1, if_neg h.2]

/-- **One statement**: the window at a `let` finds what the list of tokens has there, and the next
move takes it to what the list goes on with. -/
theorem letStatement_standing {c : Cursor} (hlet : c.next.1.kind = .letWord) (n : Nat) :
    ∃ c' m, (standing c n).letStatement.2.move = standing c' m ∧
      Outcome.ofTokens c.readAll.1 =
        match (standing c n).letStatement.1 with
        | .ok s => (Outcome.ofTokens c'.readAll.1).withStatement s
        | .error d => (Outcome.ofTokens c'.readAll.1).withDiagnostic d := by
  have hne : c.next.1.kind ≠ .eof := by simp [hlet]
  rw [Cursor.readAll_of_ne_eof hne, letStatement, expect_standing]
  by_cases hname : c.next.2.next.1.kind = .ident
  · have hne' : c.next.2.next.1.kind ≠ .eof := by simp [hname]
    rw [Cursor.readAll_of_ne_eof hne', if_pos hname]
    simp only [expect_standing]
    by_cases hassign : c.next.2.next.2.next.1.kind = .assign
    · have hne'' : c.next.2.next.2.next.1.kind ≠ .eof := by simp [hassign]
      obtain ⟨c', m, hskip, htokens⟩ := skipValue_standing c.next.2.next.2 (n + 2)
      rw [Cursor.readAll_of_ne_eof hne'', afterSemicolon] at htokens
      simp only [hassign, reduceCtorEq, ↓reduceIte] at htokens
      refine ⟨c'.next.2, m + 1, ?_, ?_⟩
      · rw [if_pos hassign]
        simp only [hskip]
        rfl
      · rw [if_pos hassign, Cursor.readAll_of_ne_eof hne'',
          Outcome.ofTokens_statement hlet hname hassign, htokens]
        rfl
    · obtain ⟨rest, hrest⟩ := c.next.2.next.2.exists_readAll_eq_cons
      refine ⟨c.next.2.next.2, n + 2, ?_, ?_⟩
      · rw [if_neg hassign]
        rfl
      · rw [if_neg hassign, hrest, Outcome.ofTokens_unassigned hlet hname hassign]
  · obtain ⟨rest, hrest⟩ := c.next.2.exists_readAll_eq_cons
    refine ⟨c.next.2, n + 1, ?_, ?_⟩
    · rw [if_neg hname]
      rfl
    · rw [if_neg hname, hrest, Outcome.ofTokens_nameless hlet hname]

/-- **A window reads the program in the tokens that are left**, on top of what was found before. -/
theorem readProgram_go_standing (c : Cursor) (n : Nat) (statements : List LetStatement)
    (diagnostics : List Diagnostic) :
    (readProgram.go (standing c n) statements diagnostics).1 =
      ⟨⟨statements.reverse ++ (Outcome.ofTokens c.readAll.1).program.statements⟩,
        diagnostics.reverse ++ (Outcome.ofTokens c.readAll.1).diagnostics⟩ := by
  generalize hw : standing c n = w
  fun_induction readProgram.go w statements diagnostics generalizing c n with
  | case1 w statements diagnostics heof =>
      subst hw
      rw [current_standing] at heof
      rw [Cursor.readAll_of_eof heof, Outcome.ofTokens_eof heof]
      simp [Outcome.empty]
  | case2 w statements diagnostics heof hlet found s hfound ih =>
      subst hw
      obtain ⟨c', m, hmove, htokens⟩ := letStatement_standing hlet n
      rw [ih c' m hmove.symm, htokens, hfound]
      simp [Outcome.withStatement]
  | case3 w statements diagnostics heof hlet found d hfound ih =>
      subst hw
      obtain ⟨c', m, hmove, htokens⟩ := letStatement_standing hlet n
      rw [ih c' m hmove.symm, htokens, hfound]
      simp [Outcome.withDiagnostic]
  | case4 w statements diagnostics heof hlet ih =>
      subst hw
      rw [current_standing] at heof hlet
      rw [ih c.next.2 (n + 1) rfl, Cursor.readAll_of_ne_eof heof, Outcome.ofTokens_other heof hlet]

end Window

/-! ### The program in a text -/

/-- The tokens that are left once `k` of them were read.  The last token is the end token, which is
never used up. -/
def leftAfter (k : Nat) (tokens : List Token) : List Token :=
  if k < tokens.length then tokens.drop k else tokens.getLast?.toList

theorem leftAfter_zero {tokens : List Token} (h : tokens ≠ []) : leftAfter 0 tokens = tokens := by
  rw [leftAfter, if_pos (List.length_pos_iff.2 h), List.drop_zero]

theorem leftAfter_singleton (k : Nat) (t : Token) : leftAfter k [t] = [t] := by
  cases k with
  | zero => rfl
  | succ k => simp [leftAfter]

theorem leftAfter_succ_cons (k : Nat) (t : Token) {tokens : List Token} (h : tokens ≠ []) :
    leftAfter (k + 1) (t :: tokens) = leftAfter k tokens := by
  obtain ⟨u, us, rfl⟩ := List.exists_cons_of_ne_nil h
  simp [leftAfter]

/-- Reading `k` tokens leaves the others, and always the end token. -/
theorem Cursor.readAll_iterate_next (k : Nat) (c : Cursor) :
    ((fun d : Cursor => d.next.2)^[k] c).readAll.1 = leftAfter k c.readAll.1 := by
  induction k generalizing c with
  | zero =>
      obtain ⟨rest, hrest⟩ := c.exists_readAll_eq_cons
      exact (leftAfter_zero (by simp [hrest])).symm
  | succ k ih =>
      rw [Function.iterate_succ_apply, ih]
      by_cases heof : c.next.1.kind = .eof
      · rw [Cursor.readAll_of_eof heof, Cursor.readAll_next_of_eof heof, leftAfter_singleton,
          leftAfter_singleton]
      · obtain ⟨rest, hrest⟩ := c.next.2.exists_readAll_eq_cons
        rw [Cursor.readAll_of_ne_eof heof, leftAfter_succ_cons k _ (by simp [hrest])]

/-- Reading tokens from a stream moves its cursor. -/
theorem TokenStream.cursor_iterate_read (k : Nat) (t : TokenStream) :
    ((fun u : TokenStream => u.read.2)^[k] t).cursor =
      (fun d : Cursor => d.next.2)^[k] t.cursor := by
  induction k generalizing t with
  | zero => rfl
  | succ k ih =>
      rw [Function.iterate_succ_apply, Function.iterate_succ_apply, ih]
      rfl

theorem TokenStream.readAll_iterate_read (k : Nat) (t : TokenStream) :
    ((fun u : TokenStream => u.read.2)^[k] t).cursor.readAll.1 =
      leftAfter k t.cursor.readAll.1 := by
  rw [TokenStream.cursor_iterate_read, Cursor.readAll_iterate_next]

namespace Outcome

/-- The outcome of what is left of a text is that of its tokens. -/
theorem ofCursor_eq (c : Cursor) : ofCursor c = ofTokens c.readAll.1 :=
  Window.readProgram_go_standing c 0 [] []

/-- **The outcome of a text is that of its tokens.** -/
theorem ofSource_eq (s : String) : ofSource s = ofTokens (tokenize s) :=
  ofCursor_eq (.ofSource s)

/-- **Reading through the window is reading the list of tokens**: a reader that starts when `k`
tokens of a text have been read finds the program in the tokens that are left. -/
theorem ofCursor_iterate_read (s : String) (k : Nat) :
    ofCursor ((fun t : TokenStream => t.read.2)^[k] (.ofSource s)).cursor =
      ofTokens (leftAfter k (tokenize s)) := by
  rw [ofCursor_eq, TokenStream.readAll_iterate_read]
  rfl

end Outcome

end LetInspector
