/-
**Splitting a line loses nothing and cannot fail.**

A line is split by the columns and the literals of tokens that may have nothing to do with it: they
may stand in any order and twice, overlap, have the column zero or one far behind the line, and have
literals of any length.  `LetInspector.highlight` takes characters off the front of what is left of
the line, and so it keeps the whole line whatever the columns are.  This module follows it on the
whole line instead, with a column that moves and a slice for each span, by operations that fail
where a range is empty or a slice lies outside the line.  The columns that the split comes to are
those that it has taken off, and so no operation fails.

Main definitions:

* `LetInspector.clamp?` — a number moved into a range that is not empty;
* `LetInspector.highlight?` — splitting a line by columns, with operations that may fail.

Main results:

* `LetInspector.text_highlight` — **the spans spell the line**;
* `LetInspector.highlight?_eq` — **no operation fails**, and the spans are the same;
* `LetInspector.highlight_keeps_line` — the two together.
-/

import LetInspector.Proofs.Nearest
import LetInspector.View.SourceText

set_option autoImplicit false

namespace LetInspector

/-! ### The text of spans -/

/-- The spans of what is left of a line spell it, wherever the tokens stand. -/
theorem text_highlight_go (length : Nat) (rest : List Char) (column : Nat)
    (tokens : List (Token × Bool)) :
    Line.text (highlight.go length rest column [] tokens) = String.ofList rest := by
  induction tokens generalizing rest column with
  | nil => rw [highlight.go, List.append_nil, reverse_plainSpans, text_plainSpans]
  | cons e others ih =>
      obtain ⟨t, marked⟩ := e
      rw [highlight.go, highlight_go_eq_append]
      simp only [List.append_nil, List.reverse_cons, reverse_plainSpans, List.splitAt_eq,
        Line.text_append, Line.text_cons, Line.text_nil, text_plainSpans, ih, String.append_empty]
      rw [String.append_assoc, ← String.ofList_append, List.take_append_drop,
        ← String.ofList_append, List.take_append_drop]

/-- **The spans of a line spell it.** -/
theorem text_highlight (line : List Char) (tokens : List (Token × Bool)) :
    Line.text (highlight line tokens) = String.ofList line :=
  text_highlight_go line.length line 0 tokens

/-! ### Splitting by columns -/

/-- The number of a range that is nearest to `n`, unless the range is empty. -/
def clamp? (n low high : Nat) : Option Nat :=
  if low ≤ high then some (max low (min n high)) else none

theorem clamp?_of_le {low high : Nat} (h : low ≤ high) (n : Nat) :
    clamp? n low high = some (max low (min n high)) := if_pos h

/-- The unstyled span between two columns of a line, if there is anything between them, unless they
bound no slice of the line. -/
def plainSpans? (line : List Char) (start stop : Nat) : Option (List Span) :=
  if start < stop then
    (slice? line start stop).map fun text => [⟨String.ofList text, {}⟩]
  else some []

/-- **A line split by columns, unless an operation fails.**  A token begins in its own column, moved
into what is left of the line; it ends behind its literal or with the line, and the sum that says so
must not exceed the limit.  Every span is a slice of the whole line. -/
def highlight? (limit : Nat) (line : List Char) (tokens : List (Token × Bool)) :
    Option (List Span) :=
  go 0 [] tokens
where
  /-- Splits on from a column, behind the spans so far. -/
  go (column : Nat) (done : List Span) : List (Token × Bool) → Option (List Span)
    | [] => do
      let last ← plainSpans? line column line.length
      return done ++ last
    | (t, marked) :: others => do
      let start ← clamp? (t.location.column - 1) column line.length
      let behind ← sum? limit start t.literal.length
      let stop := min behind line.length
      let gap ← plainSpans? line column start
      let body ← slice? line start stop
      go stop (done ++ gap ++ [⟨String.ofList body, tokenStyle t.kind marked⟩]) others

section Slices

variable (line : List Char)

theorem plainSpans?_of_le {start stop : Nat} (h : start ≤ stop) (h' : stop ≤ line.length) :
    plainSpans? line start stop = some (plainSpans ((line.drop start).take (stop - start))) := by
  unfold plainSpans? plainSpans
  by_cases hlt : start < stop
  · have hne : ((line.drop start).take (stop - start)).isEmpty = false := by
      rw [List.isEmpty_eq_false_iff_exists_mem]
      refine List.exists_mem_of_length_pos ?_
      rw [List.length_take, List.length_drop]
      omega
    rw [if_pos hlt, slice?_of_le line h h', Option.map_some, hne]
    rfl
  · have hzero : stop - start = 0 := Nat.sub_eq_zero_of_le (Nat.le_of_not_lt hlt)
    rw [if_neg hlt, hzero, List.take_zero]
    rfl

section Step

variable {t : Token} {column : Nat} (hcolumn : column ≤ line.length) {e : Extent}
  (he : Extent.ofToken t column line.length = e) (marked : Bool) (others : List (Token × Bool))

include hcolumn he

/-- One token off what is left of a line, by slices of the whole line. -/
theorem highlight_go_drop :
    highlight.go line.length (line.drop column) column [] ((t, marked) :: others) =
      plainSpans ((line.drop column).take (e.start - column)) ++
        ⟨String.ofList ((line.drop e.start).take (e.stop - e.start)), tokenStyle t.kind marked⟩ ::
          highlight.go line.length (line.drop e.stop) e.stop [] others := by
  have hle : column ≤ e.start := he ▸ Extent.le_start t column line.length
  have horder : e.start ≤ e.stop := he ▸ Extent.start_le_stop hcolumn
  rw [highlight.go, he, highlight_go_eq_append]
  simp only [List.splitAt_eq, List.drop_drop, Nat.add_sub_cancel' hle, Nat.add_sub_cancel' horder,
    List.append_nil, List.reverse_cons, reverse_plainSpans, List.append_assoc,
    List.singleton_append]

/-- One token by columns.  The column is one of the line, and so no operation fails. -/
theorem highlight?_go_cons {limit : Nat} (hlimit : line.length + t.literal.length ≤ limit)
    (done : List Span) :
    highlight?.go limit line column done ((t, marked) :: others) =
      highlight?.go limit line e.stop
        (done ++ plainSpans ((line.drop column).take (e.start - column)) ++
          [⟨String.ofList ((line.drop e.start).take (e.stop - e.start)),
            tokenStyle t.kind marked⟩]) others := by
  have hle : column ≤ e.start := he ▸ Extent.le_start t column line.length
  have horder : e.start ≤ e.stop := he ▸ Extent.start_le_stop hcolumn
  have hstop : e.stop ≤ line.length := he ▸ Extent.stop_le t column line.length
  have hstart : e.start ≤ line.length := Nat.le_trans horder hstop
  have hclamp : clamp? (t.location.column - 1) column line.length = some e.start :=
    he ▸ clamp?_of_le hcolumn _
  have hsum : sum? limit e.start t.literal.length = some (e.start + t.literal.length) :=
    sum?_of_le (Nat.le_trans (Nat.add_le_add_right hstart _) hlimit)
  have hbehind : min (e.start + t.literal.length) line.length = e.stop := he ▸ rfl
  simp only [highlight?.go, hclamp, hsum, hbehind, plainSpans?_of_le line hle hstart,
    slice?_of_le line horder hstop, Option.bind_eq_bind, Option.bind_some]

end Step

/-- From a column of the line on, splitting by columns gives the spans of what is left. -/
theorem highlight?_go_eq {limit : Nat} {tokens : List (Token × Bool)}
    (hlimit : ∀ e ∈ tokens, line.length + e.1.literal.length ≤ limit) {column : Nat}
    (hcolumn : column ≤ line.length) (done : List Span) :
    highlight?.go limit line column done tokens =
      some (done ++ highlight.go line.length (line.drop column) column [] tokens) := by
  -- the invariant is that the column is one of the line, and that what is left begins there
  induction tokens generalizing column done with
  | nil =>
      have hall : (line.drop column).take (line.length - column) = line.drop column :=
        List.take_of_length_le (Nat.le_of_eq List.length_drop)
      rw [highlight?.go, plainSpans?_of_le line hcolumn (Nat.le_refl _), hall, highlight.go,
        List.append_nil, reverse_plainSpans]
      rfl
  | cons e others ih =>
      obtain ⟨t, marked⟩ := e
      obtain ⟨hfirst, hothers⟩ := List.forall_mem_cons.1 hlimit
      rw [highlight?_go_cons line hcolumn rfl marked others hfirst,
        highlight_go_drop line hcolumn rfl, ih hothers (Extent.stop_le t column line.length)]
      simp only [List.append_assoc, List.singleton_append]

/-- **No operation fails.** -/
theorem highlight?_eq {limit : Nat} {tokens : List (Token × Bool)}
    (hlimit : ∀ e ∈ tokens, line.length + e.1.literal.length ≤ limit) :
    highlight? limit line tokens = some (highlight line tokens) := by
  rw [highlight?, highlight?_go_eq line hlimit (Nat.zero_le _), List.drop_zero, List.nil_append,
    highlight]

end Slices

/-- **Splitting a line keeps it, whatever the tokens are.**  The spans spell the line.  When they
are cut out of it by columns, every token is moved into a range that is not empty and every slice
lies in the line; a sum exceeds a limit only if the line and the literal together are that long. -/
theorem highlight_keeps_line (line : List Char) (tokens : List (Token × Bool)) :
    Line.text (highlight line tokens) = String.ofList line ∧
    ∀ limit, (∀ e ∈ tokens, line.length + e.1.literal.length ≤ limit) →
      highlight? limit line tokens = some (highlight line tokens) := by
  refine ⟨text_highlight line tokens, ?_⟩
  intro limit hlimit
  exact highlight?_eq line hlimit

/-- Tokens that overlap, stand twice, in the wrong order, in the column zero or behind the line. -/
theorem highlight_keeps_line_of_stray_tokens :
    let line := ['a', ' ', 'b']
    let b : Token := ⟨.ident, "b  ", ⟨7, 3⟩⟩
    let tokens := [(⟨.int, " b", ⟨1, 2⟩⟩, true), (b, false), (b, false),
      (⟨.illegal, "a", ⟨1, 0⟩⟩, true), (⟨.eof, "", ⟨1, lastOffset⟩⟩, false)]
    (∀ e ∈ tokens, line.length + e.1.literal.length ≤ 6) ∧
      Line.text (highlight line tokens) = "a b" ∧
      highlight? 6 line tokens = some (highlight line tokens) := by
  intro line b tokens
  have hlimit : ∀ e ∈ tokens, line.length + e.1.literal.length ≤ 6 := by decide
  have hkeeps := highlight_keeps_line line tokens
  exact ⟨hlimit, hkeeps.1, hkeeps.2 6 hlimit⟩

end LetInspector
