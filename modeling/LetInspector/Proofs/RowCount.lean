/-
**How many rows a text fills.**

The panes of the inspector have a row for each line of a text, for each token, and for each
statement and each diagnostic.  All of these take characters of the text: a line that is not the
last takes its feed, a token takes its literal, and a statement or a diagnostic takes the three
letters of its own `let`.  So the rows are hardly more than the characters, and a text that is
shorter than the range of offsets has no row behind that range.

Main definitions:

* `LetInspector.Outcome.size` — the number of statements and diagnostics.

Main results:

* `LetInspector.length_linesOfText_le`, `LetInspector.length_tokenize_le` — lines and tokens;
* `LetInspector.Outcome.size_ofTokens_le`, `LetInspector.three_mul_countP_let_le` — statements and
  diagnostics take `let` tokens, and these take three characters each;
* `LetInspector.rows_le_lastOffset` — **no pane has rows behind the range of offsets**.
-/

import LetInspector.Proofs.Display
import LetInspector.Proofs.Lines
import LetInspector.Proofs.Report

set_option autoImplicit false

namespace LetInspector

/-! ### Lines -/

/-- Every line takes a character at least. -/
theorem Lined.length_le {α : Type} {feed ret : α} {text : List α} {lines : List (List α)}
    (h : Lined feed ret text lines) : lines.length ≤ text.length := by
  induction h with
  | nil => exact Nat.le_refl 0
  | last hne hfeed => exact List.length_pos_of_ne_nil hne
  | ended hfeed hret next ih | returned hfeed next ih =>
      simp only [List.length_append, List.length_cons]
      omega

theorem length_linesOfText_le (s : String) : (linesOfText s).length ≤ s.length := by
  rw [← String.length_toList]
  exact (lined_linesOfText s).length_le

/-! ### Tokens -/

namespace Tile

theorem Fitting.length_le {ts : List Tile} (h : Fitting ts) : ts.length ≤ (textOf ts).length := by
  induction h with
  | nil => exact Nat.le_refl 0
  | cons lexical gap munch rest ih =>
      have hpos := List.length_pos_of_ne_nil lexical.literal_ne_nil
      simp only [textOf_cons, List.length_append, List.length_cons]
      omega

/-- The `let` tokens of a row of tiles take three characters each. -/
theorem Fitting.three_mul_countP_let_le {ts : List Tile} (h : Fitting ts) (l : Location) :
    3 * (tokensFrom l ts).countP (fun t => t.kind = .letWord) ≤ (textOf ts).length := by
  induction h generalizing l with
  | nil => exact Nat.le_refl 0
  | @cons t ts lexical gap munch rest ih =>
      have hrest := ih ((l.after t.lexeme.literal).after t.gap)
      have hkind : (t.lexeme.tokenAt l).kind = t.lexeme.kind := rfl
      simp only [tokensFrom, textOf_cons, List.length_append]
      by_cases hlet : t.lexeme.kind = .letWord
      · have hword := (lexical.word_of_kind (Or.inr (by rw [hlet]; rfl))).2
        have hliteral : String.ofList t.lexeme.literal = "let" :=
          Kind.eq_let_of_ofWord (hword.symm.trans hlet)
        have hlength : t.lexeme.literal.length = 3 := by
          rw [← String.length_ofList, hliteral]
          rfl
        rw [List.countP_cons_of_pos (by simpa [hkind] using hlet)]
        omega
      · rw [List.countP_cons_of_neg (by simpa [hkind] using hlet)]
        omega

end Tile

theorem length_tokenize_le (s : String) : (tokenize s).length ≤ s.length + 1 := by
  obtain ⟨d, hd⟩ := Tiling.exists_tiles s.toList
  have htext := congrArg List.length hd.text_eq
  have hle := hd.fitting.length_le
  have htokens := congrArg List.length (Tile.map_lexeme_tokensFrom (Location.start.after d.lead)
    d.tiles)
  rw [Tiling.text, List.length_append, String.length_toList] at htext
  rw [List.length_map, List.length_map] at htokens
  rw [hd.tokenize_eq, List.length_append, List.length_singleton, Tiling.tokens, htokens]
  omega

/-- The `let` tokens of a text take three characters each. -/
theorem three_mul_countP_let_le (s : String) :
    3 * (tokenize s).countP (fun t => t.kind = .letWord) ≤ s.length := by
  obtain ⟨d, hd⟩ := Tiling.exists_tiles s.toList
  have htext := congrArg List.length hd.text_eq
  have hle := hd.fitting.three_mul_countP_let_le (Location.start.after d.lead)
  have hend : [Token.endAt (Location.start.after s.toList)].countP
      (fun t => t.kind = .letWord) = 0 := rfl
  rw [Tiling.text, List.length_append, String.length_toList] at htext
  rw [hd.tokenize_eq, List.countP_append, hend, Tiling.tokens]
  omega

/-! ### Statements and diagnostics -/

theorem countP_afterSemicolon_le (p : Token → Bool) (tokens : List Token) :
    (afterSemicolon tokens).countP p ≤ tokens.countP p := by
  induction tokens with
  | nil => exact Nat.le_refl 0
  | cons t rest ih =>
      have hcons : rest.countP p ≤ (t :: rest).countP p := List.Sublist.countP_le (by simp)
      rw [afterSemicolon]
      split
      · exact hcons
      · split
        · exact Nat.zero_le _
        · exact Nat.le_trans ih hcons

namespace Outcome

/-- The number of statements and diagnostics. -/
def size (o : Outcome) : Nat := o.program.statements.length + o.diagnostics.length

@[simp] theorem size_empty : empty.size = 0 := rfl

@[simp] theorem size_withStatement (o : Outcome) (s : LetStatement) :
    (o.withStatement s).size = o.size + 1 := Nat.add_right_comm ..

@[simp] theorem size_withDiagnostic (o : Outcome) (d : Diagnostic) :
    (o.withDiagnostic d).size = o.size + 1 := rfl

/-- Every statement and every diagnostic takes a `let` token of its own. -/
theorem size_ofTokens_le (tokens : List Token) :
    (ofTokens tokens).size ≤ tokens.countP (fun t => t.kind = .letWord) := by
  induction tokens using ofTokens.induct with
  | case1 | case2 t rest heof | case3 t heof hlet | case4 t heof hlet x hx =>
      simp [ofTokens_eof, ofTokens_let, ofTokens_let_name, *]
  | case5 t heof hlet x hx y rest hy ih =>
      have hle := countP_afterSemicolon_le (fun t => t.kind = .letWord) rest
      rw [ofTokens_statement hlet hx hy, size_withStatement]
      simp only [List.countP_cons, hlet, hx, hy, decide_true, ↓reduceIte]
      omega
  | case6 t heof hlet x hx y rest hy ih =>
      rw [ofTokens_unassigned hlet hx hy, size_withDiagnostic,
        List.countP_cons_of_pos (by simpa using hlet)]
      exact Nat.succ_le_succ (Nat.le_trans ih (List.Sublist.countP_le (by simp)))
  | case7 t heof hlet x rest hx ih =>
      rw [ofTokens_nameless hlet hx, size_withDiagnostic,
        List.countP_cons_of_pos (by simpa using hlet)]
      exact Nat.succ_le_succ ih
  | case8 t rest heof hlet ih =>
      rw [ofTokens_other heof hlet]
      exact Nat.le_trans ih (List.Sublist.countP_le (by simp))

/-- A report has at most three rows that are no statement and no diagnostic. -/
theorem length_report_le (o : Outcome) :
    o.report.length ≤ o.size + 3 := by
  have hstatements := o.length_statementRows
  have hdiagnostics : o.diagnosticRows.length ≤ o.diagnostics.length + 1 := by
    unfold diagnosticRows
    split_ifs <;> simp
  rw [report_eq, List.length_append, List.length_cons, size]
  omega

end Outcome

/-- **No pane has rows behind the range of offsets.** -/
theorem rows_le_lastOffset {source : String} (h : source.length < lastOffset) :
    (linesOfText source).length ≤ lastOffset ∧ (tokenize source).length ≤ lastOffset ∧
      (Outcome.ofSource source).report.length ≤ lastOffset := by
  have hlines := length_linesOfText_le source
  have htokens := length_tokenize_le source
  have hlets := three_mul_countP_let_le source
  have hfound := Outcome.size_ofTokens_le (tokenize source)
  have hreport := (Outcome.ofSource source).length_report_le
  rw [Outcome.ofSource_eq] at hreport ⊢
  unfold lastOffset at h ⊢
  omega

end LetInspector
