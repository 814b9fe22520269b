/-
**The selected token is in view.**

A frame settles the offsets of the three panes, whatever they were: keys may have moved them far
beyond the rows, and the frame before may have had another size.  After a frame no window reaches
beyond the rows of its pane.  While the windows follow the selected token, its row is shown in the
list of tokens, and its line is shown in the text; only the end token can stand on a line that the
text does not have, and then the last lines are shown.

Main results:

* `LetInspector.Inspector.scrolls_render_le` — no window reaches beyond its rows;
* `LetInspector.Inspector.selected_in_view`, `LetInspector.Inspector.selected_line_in_view` — what a
  followed window shows after one frame;
* `LetInspector.Inspector.windows_after_run` — **the windows after a run that ends with a frame**.
-/

import LetInspector.Proofs.Highlight
import LetInspector.Proofs.Nearest
import LetInspector.Proofs.Selection

set_option autoImplicit false

namespace LetInspector

namespace Inspector

/-- The areas of the panes on a screen for which so many columns and rows are asked. -/
def layout (width height : Nat) : Layout :=
  Layout.ofSize (gridSize width height).1 (gridSize width height).2

/-! ### One frame -/

section Frame

variable (s : Inspector) (width height : Nat)

theorem scrolls_render :
    (s.render width height).1.scrolls =
      { source := s.sourceText.offset s.scrolls.source (layout width height).source.height
        tokens := s.tokenTable.offset s.scrolls.tokens (layout width height).tokens.height
        program := ProgramReport.offset s.outcome s.scrolls.program
          (layout width height).program.height } := rfl

/-- After a frame no window reaches beyond the rows of its pane. -/
theorem scrolls_render_le :
    (s.render width height).1.scrolls.source ≤
        (linesOfText s.source).length - visibleRows (layout width height).source.height ∧
      (s.render width height).1.scrolls.tokens ≤
        s.tokens.length - visibleRows (layout width height).tokens.height ∧
      (s.render width height).1.scrolls.program ≤
        s.outcome.report.length - visibleRows (layout width height).program.height :=
  ⟨settle_le _ _ _ _, settle_le _ _ _ _, settle_le _ _ _ none⟩

variable {s} (hfollowed : s.followed = true)

include hfollowed

/-- A window that follows the selected token shows its row in the list of tokens. -/
theorem selected_in_view (hselected : s.selected < s.tokens.length) :
    (s.render width height).1.scrolls.tokens ≤ s.selected ∧
      s.selected < (s.render width height).1.scrolls.tokens +
        visibleRows (layout width height).tokens.height := by
  have hvisible := one_le_visibleRows (layout width height).tokens.height
  have hrow : s.tokenTable.followedRow? = some s.selected := if_pos hfollowed
  rw [scrolls_render, TokenTable.offset, hrow]
  exact ⟨settle_le_row hvisible _ _, lt_settle_add hvisible _ _ hselected⟩

/-- A window that follows the selected token shows its line in the text, or the last lines if the
text does not have that line. -/
theorem selected_line_in_view {t : Token} (ht : s.selectedToken? = some t) :
    if t.location.line - 1 < (linesOfText s.source).length then
      (s.render width height).1.scrolls.source ≤ t.location.line - 1 ∧
        t.location.line - 1 < (s.render width height).1.scrolls.source +
          visibleRows (layout width height).source.height
    else (s.render width height).1.scrolls.source =
      (linesOfText s.source).length - visibleRows (layout width height).source.height := by
  have hvisible := one_le_visibleRows (layout width height).source.height
  have hmarked : s.sourceText.marked? = some t := ht
  have hrow : s.sourceText.followedRow? = some (t.location.line - 1) := by
    rw [SourceText.followedRow?, hmarked]
    exact if_pos hfollowed
  rw [scrolls_render, SourceText.offset, hrow]
  split_ifs with hline
  · exact ⟨settle_le_row hvisible _ _, lt_settle_add hvisible _ _ hline⟩
  · exact settle_of_le hvisible _ _ (Nat.le_of_not_lt hline)

end Frame

end Inspector

/-- Only the end token may stand on a line that the text does not have. -/
theorem kind_eq_eof_of_length_lines_le {source : String} {i : Nat} {t : Token}
    (ht : (tokenize source)[i]? = some t)
    (hline : (linesOfText source).length ≤ t.location.line - 1) : t.kind = .eof := by
  by_contra hk
  have hbounds := SourceText.line_of_getElem?_tokenize ht hk
  omega

namespace Inspector

/-! ### A run that ends with a frame -/

/-- **The windows after a run that ends with a frame.**  No window reaches beyond the rows of its
pane.  If the windows follow the selected token, its row is shown in the list of tokens; its line is
shown in the text unless it is the line of an end token behind the last line, and then the last
lines are shown. -/
theorem windows_after_run (source : String) (actions : List Action) (width height : Nat) :
    let s := ((ofSource source).performAll actions).perform (.render width height)
    let sourceRows := visibleRows (layout width height).source.height
    let tokenRows := visibleRows (layout width height).tokens.height
    let programRows := visibleRows (layout width height).program.height
    (s.scrolls.source ≤ (linesOfText source).length - sourceRows ∧
      s.scrolls.tokens ≤ (tokenize source).length - tokenRows ∧
      s.scrolls.program ≤ (Outcome.ofSource source).report.length - programRows) ∧
    (s.followed = true →
      (s.scrolls.tokens ≤ s.selected ∧ s.selected < s.scrolls.tokens + tokenRows) ∧
      ∃ t, (tokenize source)[s.selected]? = some t ∧
        if t.location.line - 1 < (linesOfText source).length then
          s.scrolls.source ≤ t.location.line - 1 ∧
            t.location.line - 1 < s.scrolls.source + sourceRows
        else t.kind = .eof ∧ s.scrolls.source = (linesOfText source).length - sourceRows) := by
  intro s sourceRows tokenRows programRows
  let before := (ofSource source).performAll actions
  have h : Consistent source (keysOf actions) before := consistent_performAll source actions
  have hbounds := before.scrolls_render_le width height
  rw [h.source_eq, h.tokens_eq, h.outcome_eq] at hbounds
  refine ⟨hbounds, ?_⟩
  intro hfollowed
  -- a frame does not change whether the windows follow
  replace hfollowed : before.followed = true := hfollowed
  obtain ⟨t, ht⟩ : ∃ t, before.selectedToken? = some t :=
    ⟨_, List.getElem?_eq_getElem h.selected_lt⟩
  have hline := selected_line_in_view width height hfollowed ht
  rw [h.source_eq] at hline
  rw [selectedToken?, h.tokens_eq] at ht
  refine ⟨selected_in_view width height hfollowed h.selected_lt, t, ht, ?_⟩
  split_ifs with hlt
  · rwa [if_pos hlt] at hline
  · rw [if_neg hlt] at hline
    exact ⟨kind_eq_eof_of_length_lines_le ht (Nat.le_of_not_lt hlt), hline⟩

end Inspector

end LetInspector
