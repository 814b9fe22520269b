/-
**Which rows of the report are shown.**

The offset of the pane that reports on the program may be as large as the report is long, but the
first row that is drawn is only as far down as a screen can count: it is the offset reduced modulo
`LetInspector.addressable`.  So the pane shows the rows that its offset says as long as no offset
reaches that number.  This module proves that the bound is sharp.  In a longer report there is an
offset at which other rows are drawn, and the rows too far behind the bound are shown at no offset.

The rows on statements and those on diagnostics are never the same, and an empty row stands between
them.  This tells the two windows apart, the one that is drawn and the one that the offset says,
also in reports in which one statement stands many times.

Main definitions:

* `LetInspector.ProgramReport.shown` — the rows that are drawn;
* `LetInspector.ProgramReport.Shows` — a row of the report is among them.

Main results:

* `LetInspector.Outcome.getElem?_report_statement`,
  `LetInspector.Outcome.getElem?_report_diagnostic` — where a statement and a diagnostic stand;
* `LetInspector.ProgramReport.forall_shown_eq_window_iff` — when the pane shows the rows that its
  offset says;
* `LetInspector.ProgramReport.exists_shows_iff` — which rows can be scrolled into view;
* `LetInspector.ProgramReport.rows_in_view` — **the rows that the pane shows**.
-/

import LetInspector.Program.Window
import LetInspector.Proofs.Nearest
import LetInspector.View.Report
import Mathlib.Data.List.Basic

set_option autoImplicit false

namespace LetInspector

/-! ### The rows of a report -/

namespace Outcome

variable (o : Outcome)

theorem length_statementRows :
    o.statementRows.length = max 1 o.program.statements.length := by
  unfold statementRows
  split_ifs with h
  · rw [h]
    rfl
  · rw [List.length_map]
    exact (Nat.max_eq_right (List.length_pos_of_ne_nil h)).symm

theorem report_eq : o.report = o.statementRows ++ [] :: o.diagnosticRows := by
  rw [report, List.append_assoc, List.singleton_append]

theorem length_statementRows_lt : o.statementRows.length < o.report.length := by
  rw [report_eq, List.length_append, List.length_cons]
  omega

/-- The row of a statement is as far down as the statement. -/
theorem getElem?_report_statement {j : Nat} {st : LetStatement}
    (h : o.program.statements[j]? = some st) : o.report[j]? = some st.row := by
  have hne : o.program.statements ≠ [] := by
    intro hnil
    rw [hnil] at h
    cases h
  have hrow : o.statementRows[j]? = some st.row := by
    rw [statementRows, if_neg hne, List.getElem?_map, h, Option.map_some]
  rw [report_eq, List.getElem?_append_left (List.getElem?_eq_some_iff.1 hrow).1, hrow]

/-- The row of a diagnostic stands behind the rows on statements, the empty row and the heading. -/
theorem getElem?_report_diagnostic {j : Nat} {d : Diagnostic} (h : o.diagnostics[j]? = some d) :
    o.report[o.statementRows.length + 2 + j]? = some d.row := by
  have hne : ¬o.IsClean := by
    intro hnil
    rw [show o.diagnostics = [] from hnil] at h
    cases h
  have hplace : o.statementRows.length + 2 + j - o.statementRows.length = j + 1 + 1 := by omega
  rw [report_eq, List.getElem?_append_right (by omega), hplace, List.getElem?_cons_succ,
    diagnosticRows, if_neg hne, List.getElem?_cons_succ, List.getElem?_map, h, Option.map_some]

/-! ### Telling rows apart -/

theorem ne_nil_of_mem_statementRows {r : Line} (h : r ∈ o.statementRows) : r ≠ [] := by
  unfold statementRows at h
  split_ifs at h
  · rw [List.mem_singleton.1 h]
    exact List.cons_ne_nil _ _
  · obtain ⟨st, -, rfl⟩ := List.mem_map.1 h
    exact List.cons_ne_nil _ _

/-- The rows on statements have other spans than those on diagnostics. -/
theorem disjoint_statementRows_diagnosticRows : o.statementRows.Disjoint o.diagnosticRows := by
  intro r hs hd
  unfold statementRows at hs
  unfold diagnosticRows at hd
  split_ifs at hs hd
  · rw [List.mem_singleton.1 hs] at hd
    simp at hd
  · -- the heading is bold, and the row of a diagnostic has two spans
    rw [List.mem_singleton.1 hs] at hd
    obtain hd | hd := List.mem_cons.1 hd
    · simp at hd
    · obtain ⟨d, -, hd⟩ := List.mem_map.1 hd
      simp [Diagnostic.row] at hd
  · obtain ⟨st, -, rfl⟩ := List.mem_map.1 hs
    simp [LetStatement.row] at hd
  · obtain ⟨st, -, rfl⟩ := List.mem_map.1 hs
    obtain hd | hd := List.mem_cons.1 hd
    · simp [LetStatement.row] at hd
    · obtain ⟨d, -, hd⟩ := List.mem_map.1 hd
      simp [Diagnostic.row, LetStatement.row] at hd

/-- A row on a statement is not equal to any row from the empty one on. -/
theorem getElem?_report_ne {i j : Nat} (hi : i < o.statementRows.length)
    (hj : o.statementRows.length ≤ j) : o.report[i]? ≠ o.report[j]? := by
  rw [report_eq, List.getElem?_append_left hi, List.getElem?_append_right hj,
    List.getElem?_eq_getElem hi]
  intro h
  have hs := List.getElem_mem hi
  obtain hempty | hd := List.mem_cons.1 (List.mem_of_getElem? h.symm)
  · exact o.ne_nil_of_mem_statementRows hs hempty
  · exact o.disjoint_statementRows_diagnosticRows hs hd

end Outcome

namespace ProgramReport

/-! ### The rows that are drawn -/

/-- The rows that are drawn in an area, from the top down. -/
def shown (o : Outcome) (a : Area) (scroll : Nat) : List Line :=
  (rowsFrom o (offset o scroll a.height)).take a.inner.height

/-- A row of the report is drawn, as the given line. -/
def Shows (o : Outcome) (a : Area) (scroll row : Nat) (line : Line) : Prop :=
  ∃ k < a.inner.height,
    offset o scroll a.height % addressable + k = row ∧ (shown o a scroll)[k]? = some line

variable (o : Outcome) (a : Area)

theorem draw_eq_drawLines_shown (s : Screen) (focused : Bool) (scroll : Nat) :
    draw o s a focused (offset o scroll a.height) =
      (s.drawBorder a Pane.program.title focused).drawLines a.inner (shown o a scroll) := by
  rw [draw, Screen.drawLines, Screen.drawLines, Screen.drawRows, Screen.drawRows, shown,
    List.take_take, Nat.min_self]

theorem getElem?_shown (scroll k : Nat) :
    (shown o a scroll)[k]? =
      if k < a.inner.height then o.report[offset o scroll a.height % addressable + k]?
      else none := by
  rw [shown, rowsFrom, List.getElem?_take, List.getElem?_drop]

theorem offset_le (scroll : Nat) : offset o scroll a.height ≤ o.report.length - a.inner.height := by
  have hle : offset o scroll a.height ≤ o.report.length - visibleRows a.height :=
    settle_le _ _ _ none
  have hvisible : a.inner.height ≤ visibleRows a.height := Nat.le_max_right _ _
  omega

section Rows

variable {a} (hrows : 0 < a.inner.height)

include hrows

/-- An offset whose window does not reach beyond the report is kept. -/
theorem offset_of_le {scroll : Nat} (h : scroll ≤ o.report.length - a.inner.height) :
    offset o scroll a.height = scroll := by
  have hvisible : visibleRows a.height = a.inner.height := Nat.max_eq_right hrows
  rw [offset, hvisible]
  simp only [settle, confine]
  split_ifs <;> omega

/-- In a report that is long enough there is an offset at which other rows are drawn than it
says. -/
theorem exists_shown_ne_window (h : addressable + a.inner.height ≤ o.report.length) :
    ∃ scroll, shown o a scroll ≠ window o.report (offset o scroll a.height) a.inner.height := by
  have hcount := o.length_statementRows
  have hlt := o.length_statementRows_lt
  -- the first row that is not on a statement and that no offset below the bound has on top
  let row := max o.statementRows.length addressable
  let scroll := min row (o.report.length - a.inner.height)
  have hoffset : offset o scroll a.height = scroll := offset_of_le o hrows (Nat.min_le_right _ _)
  have hk : row - scroll < a.inner.height := by omega
  have hdrawn : scroll % addressable + (row - scroll) < o.statementRows.length := by
    by_cases hfew : o.statementRows.length < addressable
    · have hscroll : scroll = addressable := by omega
      have hmod : scroll % addressable = 0 := by rw [hscroll, Nat.mod_self]
      omega
    · have hmod : scroll % addressable < addressable := Nat.mod_lt _ addressable_pos
      omega
  have hsaid : scroll + (row - scroll) = row := by omega
  refine ⟨scroll, ?_⟩
  intro heq
  have hk? := congrArg (·[row - scroll]?) heq
  simp only [getElem?_shown, window, List.getElem?_take, List.getElem?_drop, if_pos hk, hoffset,
    hsaid] at hk?
  exact o.getElem?_report_ne hdrawn (Nat.le_max_left _ _) hk?

end Rows

/-- The pane shows the rows that its offset says, at every offset, if and only if it has no rows or
the report is not too long. -/
theorem forall_shown_eq_window_iff :
    (∀ scroll, shown o a scroll = window o.report (offset o scroll a.height) a.inner.height) ↔
      a.inner.height = 0 ∨ o.report.length < addressable + a.inner.height := by
  constructor
  · intro h
    by_contra hlong
    obtain ⟨hrows, hlong⟩ := not_or.1 hlong
    obtain ⟨scroll, hne⟩ :=
      exists_shown_ne_window o (Nat.pos_of_ne_zero hrows) (Nat.le_of_not_lt hlong)
    exact hne (h scroll)
  · rintro (hnone | hshort) scroll
    · rw [shown, window, hnone, List.take_zero, List.take_zero]
    · have hle := offset_le o a scroll
      have hpos := addressable_pos
      rw [shown, rowsFrom, window, Nat.mod_eq_of_lt (by omega)]

/-- A row can be scrolled into view if and only if it is not too far behind the bound. -/
theorem exists_shows_iff {row : Nat} {line : Line} (hrow : o.report[row]? = some line) :
    (∃ scroll, Shows o a scroll row line) ↔
      0 < a.inner.height ∧ row + 1 < addressable + a.inner.height := by
  constructor
  · rintro ⟨scroll, k, hk, rfl, -⟩
    have hmod := Nat.mod_lt (offset o scroll a.height) addressable_pos
    omega
  · rintro ⟨hrows, hnear⟩
    have hpos := addressable_pos
    have hlt := (List.getElem?_eq_some_iff.1 hrow).1
    -- the row is on top, unless an offset that large is out of range or wraps around
    let scroll := min row (min (o.report.length - a.inner.height) (addressable - 1))
    have hoffset : offset o scroll a.height = scroll := offset_of_le o hrows (by omega)
    have hmod : scroll % addressable = scroll := Nat.mod_eq_of_lt (by omega)
    have hk : row - scroll < a.inner.height := by omega
    have hplace : offset o scroll a.height % addressable + (row - scroll) = row := by
      rw [hoffset, hmod]
      omega
    refine ⟨scroll, row - scroll, hk, hplace, ?_⟩
    rw [getElem?_shown, if_pos hk, hplace, hrow]

/-- **The rows that the pane shows.**  From the top down they are those from the reduced offset on.
They are those that the offset itself says, at every offset, if and only if the pane has no rows or
the report has fewer than `addressable` rows more than the pane.  A statement and a diagnostic can
be scrolled into view if and only if a window that begins below `addressable` reaches the row in
which it stands. -/
theorem rows_in_view :
    (∀ (s : Screen) (focused : Bool) (scroll : Nat),
      draw o s a focused (offset o scroll a.height) =
        (s.drawBorder a Pane.program.title focused).drawLines a.inner (shown o a scroll)) ∧
    (∀ scroll k, (shown o a scroll)[k]? =
      if k < a.inner.height then o.report[offset o scroll a.height % addressable + k]?
      else none) ∧
    ((∀ scroll, shown o a scroll = window o.report (offset o scroll a.height) a.inner.height) ↔
      a.inner.height = 0 ∨ o.report.length < addressable + a.inner.height) ∧
    (∀ (j : Nat) (st : LetStatement), o.program.statements[j]? = some st →
      ((∃ scroll, Shows o a scroll j st.row) ↔
        0 < a.inner.height ∧ j + 1 < addressable + a.inner.height)) ∧
    (∀ (j : Nat) (d : Diagnostic), o.diagnostics[j]? = some d →
      ((∃ scroll, Shows o a scroll (o.statementRows.length + 2 + j) d.row) ↔
        0 < a.inner.height ∧
          o.statementRows.length + 2 + j + 1 < addressable + a.inner.height)) := by
  refine ⟨draw_eq_drawLines_shown o a, getElem?_shown o a, forall_shown_eq_window_iff o a, ?_, ?_⟩
  · intro j st hst
    exact exists_shows_iff o a (o.getElem?_report_statement hst)
  · intro j d hd
    exact exists_shows_iff o a (o.getElem?_report_diagnostic hd)

/-! ### A report that is too long -/

/-- The statement that is read from `let a=;` in a column of the first line. -/
def letAtColumn (column : Nat) : LetStatement where
  token := ⟨.letWord, "let", ⟨1, column⟩⟩
  name := .ofToken ⟨.ident, "a", ⟨1, column + 4⟩⟩
  value := none

/-- The outcome of a line in which `let a=;` stands so many times. -/
def letsInLine (count : Nat) : Outcome where
  program := ⟨(List.range count).map fun i => letAtColumn (7 * i + 1)⟩
  diagnostics := []

example : Outcome.ofSource "let a=;let a=;let a=;" = letsInLine 3 := by cbv

theorem length_statementRows_letsInLine {count : Nat} (h : 0 < count) :
    (letsInLine count).statementRows.length = count := by
  rw [Outcome.length_statementRows, letsInLine, List.length_map, List.length_range]
  exact Nat.max_eq_right h

theorem getElem?_report_letsInLine {count i : Nat} (h : i < count) :
    (letsInLine count).report[i]? = some (letAtColumn (7 * i + 1)).row := by
  apply Outcome.getElem?_report_statement
  rw [letsInLine, List.getElem?_map, List.getElem?_range h, Option.map_some]

/-- With `addressable` statements the last row of the report is `addressable + 1` rows down.  A pane
with one row that is scrolled to it shows the second statement instead. -/
theorem second_statement_shown_for_last_row :
    let o := letsInLine addressable
    let a : Area := ⟨0, 0, 30, 3⟩
    let scroll := addressable + 1
    offset o scroll a.height = scroll ∧
      o.report[scroll]? = some [⟨"No diagnostics", { fg := some palette.success }⟩] ∧
      (shown o a scroll)[0]? = some (letAtColumn 8).row ∧
      (shown o a scroll)[0]? ≠ o.report[offset o scroll a.height]? := by
  intro o a scroll
  have hlength : o.statementRows.length = addressable :=
    length_statementRows_letsInLine addressable_pos
  have hdiagnostics : o.diagnosticRows = [[⟨"No diagnostics", { fg := some palette.success }⟩]] :=
    if_pos rfl
  have hlast : o.report[scroll]? = some [⟨"No diagnostics", { fg := some palette.success }⟩] := by
    have hplace : scroll - addressable = 1 := Nat.add_sub_cancel_left ..
    rw [Outcome.report_eq, List.getElem?_append_right (by omega), hlength, hdiagnostics, hplace]
    rfl
  have hoffset : offset o scroll a.height = scroll := by
    refine offset_of_le o (by decide) (Nat.le_sub_of_add_le ?_)
    exact (List.getElem?_eq_some_iff.1 hlast).1
  have hdrawn : (shown o a scroll)[0]? = some (letAtColumn 8).row := by
    have htop : scroll % addressable = 1 := by decide
    rw [getElem?_shown, if_pos (by decide), hoffset, htop]
    exact getElem?_report_letsInLine (by decide)
  refine ⟨hoffset, hlast, hdrawn, ?_⟩
  rw [hdrawn, hoffset, hlast]
  decide

end ProgramReport

end LetInspector
