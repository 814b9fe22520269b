/-
**The list of tokens is shown without gaps.**

The pane that lists the tokens settles its offset and then makes a row for each token from there on,
as many as it can show.  The rows are numbered while they are cut out of the list, and the number of
a row decides whether it is the selected one.  So three things have to line up: the offset, the
number of a row, and the index of its token.  They do for every list, every height and every offset
that the pane had before; the list may be empty or shorter than the pane, and the selected token may
stand outside the window or behind the list.

Main results:

* `LetInspector.TokenTable.getElem?_rows` — a row is that of the token with its number;
* `LetInspector.TokenTable.filter_selected_rows` — **at most one row is selected**, that of the
  selected token;
* `LetInspector.TokenTable.selected_mem_window` — a window that follows the selected token shows it;
* `LetInspector.TokenTable.rows_list_tokens` — all of this together.
-/

import LetInspector.Proofs.Highlight
import LetInspector.Proofs.Nearest
import LetInspector.View.Report

set_option autoImplicit false

namespace LetInspector

namespace TokenTable

/-! ### The rows of a window -/

section Rows

variable (p : TokenTable) (o height : Nat)

/-- The index behind the last token of a window. -/
def windowEnd : Nat := min (o + visibleRows height) p.tokens.length

theorem length_rows : (p.rows o height).length = p.windowEnd o height - o := by
  rw [rows, List.length_map, List.length_zipIdx, window, List.length_take, List.length_drop,
    windowEnd]
  omega

variable {o height}

/-- A row of a window is that of the token with its number. -/
theorem getElem?_rows {k : Nat} (hk : k < p.windowEnd o height - o) :
    ∃ t, p.tokens[o + k]? = some t ∧
      (p.rows o height)[k]? = some (.ofToken t (decide (o + k = p.selected))) := by
  unfold windowEnd at hk
  have ht : p.tokens[o + k]? = some p.tokens[o + k] := List.getElem?_eq_getElem (by omega)
  refine ⟨_, ht, ?_⟩
  rw [rows, List.getElem?_map, List.getElem?_zipIdx, window, List.getElem?_take_of_lt (by omega),
    List.getElem?_drop, ht]
  rfl

/-- **At most one row of a window is selected**, and it is that of the selected token. -/
theorem filter_selected_rows :
    (p.rows o height).filter TokenRow.selected =
      if o ≤ p.selected ∧ p.selected < p.windowEnd o height then
        p.tokens[p.selected]?.toList.map (TokenRow.ofToken · true)
      else [] := by
  have hnumber : (TokenRow.selected ∘ fun e : Token × Nat =>
      TokenRow.ofToken e.1 (decide (e.2 = p.selected))) = fun e => decide (e.2 = p.selected) := rfl
  rw [rows, List.filter_map, hnumber]
  split_ifs with hshown
  · obtain ⟨hle, hlt⟩ := hshown
    unfold windowEnd at hlt
    have ht : p.tokens[p.selected]? = some p.tokens[p.selected] :=
      List.getElem?_eq_getElem (by omega)
    have hrow : (window p.tokens o (visibleRows height))[p.selected - o]? =
        some p.tokens[p.selected] := by
      rw [window, List.getElem?_take_of_lt (by omega), List.getElem?_drop,
        Nat.add_sub_cancel' hle, ht]
    have hplace := filter_zipIdx_eq hrow o
    rw [Nat.add_sub_cancel' hle] at hplace
    rw [hplace, ht]
    simp
  · rw [List.map_eq_nil_iff, List.filter_eq_nil_iff]
    intro e he
    obtain ⟨hfirst, hlast, -⟩ := List.mem_zipIdx he
    rw [window, List.length_take, List.length_drop] at hlast
    rw [decide_eq_true_eq]
    intro hselected
    apply hshown
    unfold windowEnd
    omega

end Rows

/-! ### A settled window -/

section Settled

variable (p : TokenTable) (scroll height : Nat)

theorem offset_le_length : p.offset scroll height ≤ p.tokens.length := by
  have hle := settle_le scroll p.tokens.length (visibleRows height) p.followedRow?
  unfold offset
  omega

/-- No step of settling fails, unless the last number of the range of offsets is selected. -/
theorem settle?_followedRow? (hselected : p.selected < lastOffset) :
    settle? scroll p.tokens.length (visibleRows height) p.followedRow? =
      some (p.offset scroll height) := by
  refine settle?_eq scroll _ _ ?_
  intro row hrow
  unfold followedRow? at hrow
  split_ifs at hrow
  · obtain rfl := Option.mem_some_iff.1 hrow
    exact hselected
  · cases hrow

/-- A window that follows the selected token shows it. -/
theorem selected_mem_window (hfollowed : p.followed = true)
    (hselected : p.selected < p.tokens.length) :
    p.offset scroll height ≤ p.selected ∧
      p.selected < p.windowEnd (p.offset scroll height) height := by
  have hvisible := one_le_visibleRows height
  have hlt := lt_settle_add hvisible scroll p.selected hselected
  rw [windowEnd, offset, followedRow?, if_pos hfollowed]
  refine ⟨settle_le_row hvisible scroll p.selected, ?_⟩
  omega

/-- **The list of tokens is shown without gaps, and with at most one row selected.**  No step of
settling the offset leaves the range of offsets.  From the offset on there is a row for each token
of the window, in order, which shows the place, the kind and the literal of its own token; it is
drawn as selected exactly if its token has the selected index.  The selected rows are that of the
selected token if it is in the window, and none otherwise; a window that follows it shows it. -/
theorem rows_list_tokens (hselected : p.selected < lastOffset) :
    let o := p.offset scroll height
    let stop := min (o + visibleRows height) p.tokens.length
    settle? scroll p.tokens.length (visibleRows height)
      (if p.followed then some p.selected else none) = some o ∧
    o ≤ p.tokens.length ∧
    (p.rows o height).length = stop - o ∧
    (∀ k < stop - o, ∃ t r, p.tokens[o + k]? = some t ∧ (p.rows o height)[k]? = some r ∧
      r.line.map Span.text = [t.location.cell, alignLeft 10 t.kind.name, quote t.literal] ∧
      ∀ s a, r.draw s a =
        (if o + k = p.selected then s.paint a selectedStyle else s).drawEntry a r.line) ∧
    ((p.rows o height).filter TokenRow.selected =
      if o ≤ p.selected ∧ p.selected < stop then
        p.tokens[p.selected]?.toList.map (TokenRow.ofToken · true)
      else []) ∧
    (p.followed = true → p.selected < p.tokens.length →
      ∃ t, p.tokens[p.selected]? = some t ∧
        (p.rows o height).filter TokenRow.selected = [.ofToken t true]) := by
  intro o stop
  refine ⟨p.settle?_followedRow? scroll height hselected, p.offset_le_length scroll height,
    p.length_rows o height, ?_, p.filter_selected_rows, ?_⟩
  · intro k hk
    obtain ⟨t, ht, hrow⟩ := p.getElem?_rows hk
    refine ⟨t, _, ht, hrow, rfl, ?_⟩
    intro s a
    simp only [TokenRow.draw, TokenRow.ofToken, decide_eq_true_eq]
  · intro hfollowed hlt
    have ht : p.tokens[p.selected]? = some p.tokens[p.selected] := List.getElem?_eq_getElem hlt
    refine ⟨_, ht, ?_⟩
    rw [p.filter_selected_rows, if_pos (p.selected_mem_window scroll height hfollowed hlt), ht]
    rfl

end Settled

/-- A window without room inside its border follows the last of three tokens from far behind the
list. -/
theorem rows_list_tokens_of_low_pane :
    let p : TokenTable := ⟨[⟨.letWord, "let", ⟨1, 1⟩⟩, ⟨.ident, "a", ⟨1, 5⟩⟩, .endAt ⟨1, 6⟩], 2, true⟩
    p.selected < lastOffset ∧ p.offset lastOffset 0 = 2 ∧
      (p.rows 2 0).filter TokenRow.selected = [.ofToken (.endAt ⟨1, 6⟩) true] := by
  intro p
  have hselected : p.selected < lastOffset := by decide
  have hoffset : p.offset lastOffset 0 = 2 := by decide
  obtain ⟨t, ht, hrows⟩ :=
    (p.rows_list_tokens lastOffset 0 hselected).2.2.2.2.2 rfl (by decide)
  obtain rfl : Token.endAt ⟨1, 6⟩ = t := Option.some.inj ht
  rw [hoffset] at hrows
  exact ⟨hselected, hoffset, hrows⟩

end TokenTable

end LetInspector
