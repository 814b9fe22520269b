/-
**Places, counted.**

While a text is read, the place is kept up to date character by character.  This module says what
the place is without reading: the line is one more than the number of line feeds passed, and the
column is one more than the number of characters passed since the last of them.  So the tokens of a
text stand at strictly increasing places, and the places in a text that stands behind another one
are those of the text alone, moved by the place where the other one ends.

Main definitions:

* `LetInspector.Location.behind` — the place behind a text, by counting;
* `LetInspector.Location.Before` — the order of places;
* `LetInspector.Location.shift`, `LetInspector.Token.shift` — a place and a token of a text that is
  moved behind another place;
* `LetInspector.Tiling.offset` — how many characters stand in front of a lexeme.

Main results:

* `LetInspector.Location.start_after_eq_behind` — **counting gives the place that reading reaches**;
* `LetInspector.Location.after_eq_shift` — reading from another place shifts all places;
* `LetInspector.Tiling.location_tokenize` — the places of the tokens of a text.
-/

import LetInspector.Proofs.Tiling
import Mathlib.Data.List.Induction

set_option autoImplicit false

namespace LetInspector

namespace Location

/-! ### Counting -/

/-- The place behind the characters `cs`: the line is one more than the number of line feeds among
them, and the column is one more than the number of characters behind the last line feed. -/
def behind (cs : List Char) : Location :=
  ⟨1 + cs.count '\n', 1 + (cs.reverse.takeWhile (· ≠ '\n')).length⟩

/-- One more character moves the counted place by one step. -/
theorem behind_append_singleton (cs : List Char) (c : Char) :
    behind (cs ++ [c]) = (behind cs).step c := by
  unfold behind step
  by_cases hc : c = '\n'
  · subst hc
    simp [Nat.add_assoc]
  · have hcount : List.count '\n' [c] = 0 := List.count_eq_zero.2 (by simpa using Ne.symm hc)
    simp [hc, hcount, Nat.add_assoc]

/-- **Counting gives the place that reading reaches.** -/
theorem start_after_eq_behind (cs : List Char) : start.after cs = behind cs := by
  induction cs using List.reverseRecOn with
  | nil => rfl
  | append_singleton cs c ih =>
      rw [after_append, ih, behind_append_singleton]
      rfl

/-! ### Moving a text -/

/-- The place that `l` becomes when the text it stands in is moved from the start to `base`: on the
first line the columns go on from `base`, and on the other lines they stay. -/
def shift (base l : Location) : Location :=
  if l.line = 1 then ⟨base.line, base.column + l.column - 1⟩
  else ⟨base.line + l.line - 1, l.column⟩

/-- A step from a shifted place is a shifted step. -/
theorem shift_step (base : Location) {l : Location} (hline : 1 ≤ l.line) (hcolumn : 1 ≤ l.column)
    (c : Char) : base.shift (l.step c) = (base.shift l).step c := by
  unfold shift step
  by_cases hc : c = '\n'
  · -- the next line is never the first one
    have hne : l.line + 1 ≠ 1 := by omega
    by_cases hl : l.line = 1
    · simp [hc, hl]
    · simp only [hc, hl, hne, ↓reduceIte, Location.mk.injEq, and_true]
      omega
  · by_cases hl : l.line = 1
    · simp only [hc, hl, ↓reduceIte, Location.mk.injEq, true_and]
      omega
    · simp only [hc, hl, ↓reduceIte]

/-- **Reading from another place shifts the place that is reached.** -/
theorem after_eq_shift (base : Location) (cs : List Char) :
    base.after cs = base.shift (start.after cs) := by
  induction cs using List.reverseRecOn with
  | nil => simp [shift, start]
  | append_singleton cs c ih =>
      have hline : 1 ≤ (behind cs).line := Nat.le_add_right 1 _
      have hcolumn : 1 ≤ (behind cs).column := Nat.le_add_right 1 _
      rw [after_append, after_append, ih, start_after_eq_behind]
      exact (shift_step base hline hcolumn c).symm

/-! ### The order of places -/

/-- Whether the place `l` comes before the place `m`: on an earlier line, or further left on the
same one. -/
def Before (l m : Location) : Prop :=
  l.line < m.line ∨ (l.line = m.line ∧ l.column < m.column)

theorem Before.trans {l m n : Location} (h : l.Before m) (h' : m.Before n) : l.Before n := by
  unfold Before at h h' ⊢
  omega

theorem not_before_self (l : Location) : ¬ l.Before l := by
  simp [Before]

/-- One character on is later. -/
theorem before_step (l : Location) (c : Char) : l.Before (l.step c) := by
  unfold Before step
  by_cases hc : c = '\n' <;> simp [hc]

/-- **Further on is later.** -/
theorem before_after (l : Location) {cs : List Char} (h : cs ≠ []) : l.Before (l.after cs) := by
  induction cs generalizing l with
  | nil => exact absurd rfl h
  | cons c cs ih =>
      rw [after_cons]
      by_cases hcs : cs = []
      · subst hcs
        exact before_step l c
      · exact (before_step l c).trans (ih _ hcs)

theorem eq_after_iff (l : Location) {cs : List Char} : l = l.after cs ↔ cs = [] := by
  constructor
  · intro h
    by_contra hne
    have hbefore := l.before_after hne
    rw [← h] at hbefore
    exact l.not_before_self hbefore
  · rintro rfl
    rfl

end Location

/-- The token `t` at the place that `f` gives for its own. -/
def Token.relocate (f : Location → Location) (t : Token) : Token :=
  { t with location := f t.location }

/-- The token that `t` becomes when its text is moved from the start to `base`. -/
def Token.shift (base : Location) : Token → Token := relocate base.shift

/-! ### The places of tokens -/

namespace Tile

/-- The tokens of a row of tiles in a text that is moved behind another place. -/
theorem tokensFrom_after (base : Location) (cs : List Char) (ts : List Tile) :
    tokensFrom (base.after cs) ts =
      (tokensFrom (Location.start.after cs) ts).map (.shift base) := by
  induction ts generalizing cs with
  | nil => rfl
  | cons t ts ih =>
      simp only [tokensFrom, List.map_cons, ← Location.after_append, ih]
      rw [Location.after_eq_shift]
      rfl

/-- Every token of a row stands behind the tiles in front of it, and so does the end token. -/
theorem location_tokensFrom {l : Location} {ts : List Tile} {i : Nat} {u : Token}
    (h : (tokensFrom l ts ++ [Token.endAt (l.after (textOf ts))])[i]? = some u) :
    u.location = l.after (textOf (ts.take i)) := by
  induction ts generalizing l i with
  | nil =>
      cases i with
      | zero =>
          obtain rfl : Token.endAt l = u := by simpa [tokensFrom] using h
          rfl
      | succ i => simp [tokensFrom] at h
  | cons t ts ih =>
      cases i with
      | zero =>
          obtain rfl : t.lexeme.tokenAt l = u := by simpa [tokensFrom] using h
          rfl
      | succ i =>
          have hu := ih (l := (l.after t.lexeme.literal).after t.gap) (i := i)
            (by simpa [tokensFrom, Location.after_append] using h)
          rw [hu, List.take_succ_cons, textOf_cons, Location.after_append, Location.after_append]

/-- **The tokens of a fitting row stand at increasing places**, and the end token behind them. -/
theorem Fitting.pairwise_before {ts : List Tile} (h : Fitting ts) (l : Location) :
    (tokensFrom l ts ++ [Token.endAt (l.after (textOf ts))]).Pairwise
      (fun t u => t.location.Before u.location) := by
  induction h generalizing l with
  | nil => simp [tokensFrom]
  | @cons t ts lexical gap munch rest ih =>
      have htail := ih ((l.after t.lexeme.literal).after t.gap)
      simp only [tokensFrom, textOf_cons, Location.after_append, List.cons_append]
      refine List.pairwise_cons.2 ⟨?_, htail⟩
      intro u hu
      obtain ⟨i, hi⟩ := List.mem_iff_getElem?.1 hu
      -- a later token stands behind the first lexeme, which is not empty
      have hplace : u.location =
          l.after (t.lexeme.literal ++ (t.gap ++ textOf (ts.take i))) := by
        rw [location_tokensFrom hi, Location.after_append, Location.after_append]
      have hne : t.lexeme.literal ++ (t.gap ++ textOf (ts.take i)) ≠ [] :=
        List.append_ne_nil_of_left_ne_nil lexical.literal_ne_nil _
      rw [hplace]
      exact l.before_after hne

end Tile

namespace Tiling

open Tile

/-- How many characters stand in front of the lexeme number `i`, counted from zero; all of the text
for the end of it. -/
def offset (d : Tiling) (i : Nat) : Nat := (d.lead ++ textOf (d.tiles.take i)).length

/-- What stands in front of a lexeme is that many characters of the text. -/
theorem Tiles.take_offset {d : Tiling} {cs : List Char} (h : d.Tiles cs) (i : Nat) :
    cs.take (d.offset i) = d.lead ++ textOf (d.tiles.take i) := by
  have hsplit : cs = (d.lead ++ textOf (d.tiles.take i)) ++ textOf (d.tiles.drop i) := by
    rw [← h.text_eq, text, List.append_assoc, ← textOf_append, List.take_append_drop]
  rw [hsplit]
  exact List.take_left

/-- **The places of the tokens.**  Each token of a text stands behind as many characters as its
lexeme in the fitting tiling, the end token behind all of them; its place is found by counting line
feeds and the characters behind the last one; and the places increase. -/
theorem location_tokenize (s : String) :
    (∃ d : Tiling, d.Tiles s.toList ∧
      (tokenize s).map Token.lexeme = d.lexemes ++ [⟨.eof, []⟩] ∧
      d.offset d.lexemes.length = s.length ∧
      ∀ i t, (tokenize s)[i]? = some t →
        t.location.line = 1 + (s.toList.take (d.offset i)).count '\n' ∧
        t.location.column =
          1 + ((s.toList.take (d.offset i)).reverse.takeWhile (· ≠ '\n')).length) ∧
    (tokenize s).Pairwise (fun t u => t.location.Before u.location) := by
  obtain ⟨d, hd⟩ := exists_tiles s.toList
  have hend : Location.start.after s.toList =
      (Location.start.after d.lead).after (textOf d.tiles) := by
    rw [← Location.after_append, ← hd.text_eq, text]
  refine ⟨⟨d, hd, ?_, ?_, ?_⟩, ?_⟩
  · rw [hd.tokenize_eq, List.map_append, tokens, map_lexeme_tokensFrom]
    rfl
  · rw [offset, lexemes, List.length_map, List.take_length, ← text, hd.text_eq]
    exact String.length_toList
  · intro i t ht
    rw [hd.tokenize_eq, hend] at ht
    have hplace : t.location = Location.behind (s.toList.take (d.offset i)) := by
      rw [location_tokensFrom ht, ← Location.after_append, hd.take_offset,
        Location.start_after_eq_behind]
    rw [hplace]
    exact ⟨rfl, rfl⟩
  · rw [hd.tokenize_eq, hend]
    exact hd.fitting.pairwise_before _

end Tiling

end LetInspector
