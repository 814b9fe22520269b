/-
**Line by line.**

`LetInspector.splitLines` cuts a text into lines while it reads it.  This module says what the lines
are without reading: they are what stands between the feed marks, less one return mark in front of
each, and no empty line stands behind the last feed.  Since feed and return marks are gap
characters, no lexeme reaches over the end of a line.  So the tokens of a text are those of its
lines, one line after the other, and a token stands on the line that it is read from.

Main definitions:

* `LetInspector.Lined` — the lines of a text, by what stands between the feed marks;
* `LetInspector.tokensAt` — the tokens of a text that stands at a place, without the end token.

Main results:

* `LetInspector.lined_splitLines` — **cutting gives the lines**;
* `LetInspector.Lined.tokensAt_eq` — **the tokens of a text are those of its lines**;
* `LetInspector.Lined.filter_tokensAt` — the tokens that stand on one line of a text.
-/

import LetInspector.Proofs.Joining
import LetInspector.Text.Basic

set_option autoImplicit false

namespace LetInspector

/-! ### What the lines are -/

section Lined

variable {α : Type} {feed ret : α}

/-- **The lines of a text**, which end at `feed` marks; one `ret` in front of such a mark belongs to
the ending, and what stands behind the last of them is a line that is kept as it is. -/
inductive Lined (feed ret : α) : List α → List (List α) → Prop
  | nil : Lined feed ret [] []
  | last {line : List α} (hne : line ≠ []) (hfeed : feed ∉ line) : Lined feed ret line [line]
  | ended {line rest : List α} {lines : List (List α)} (hfeed : feed ∉ line)
      (hret : line.getLast? ≠ some ret) (next : Lined feed ret rest lines) :
      Lined feed ret (line ++ feed :: rest) (line :: lines)
  | returned {line rest : List α} {lines : List (List α)} (hfeed : feed ∉ line)
      (next : Lined feed ret rest lines) :
      Lined feed ret (line ++ ret :: feed :: rest) (line :: lines)

/-- No line holds a feed mark. -/
theorem Lined.not_mem {text : List α} {lines : List (List α)} (h : Lined feed ret text lines) :
    ∀ line ∈ lines, feed ∉ line := by
  induction h with
  | nil => simp
  | last hne hfeed => simpa using hfeed
  | ended hfeed hret next ih => exact List.forall_mem_cons.2 ⟨hfeed, ih⟩
  | returned hfeed next ih => exact List.forall_mem_cons.2 ⟨hfeed, ih⟩

variable [DecidableEq α]

theorem exists_lined (feed ret : α) (text : List α) : ∃ lines, Lined feed ret text lines := by
  -- induction on the length of the text, of which the first line takes at least a feed
  induction hn : text.length using Nat.strongRecOn generalizing text with
  | _ n ih =>
      by_cases hfeed : feed ∈ text
      · obtain ⟨line, rest, rfl, hline⟩ := List.eq_append_cons_of_mem hfeed
        rw [List.length_append, List.length_cons] at hn
        obtain ⟨lines, hrest⟩ := ih rest.length (by omega) rest rfl
        by_cases hret : line.getLast? = some ret
        · obtain ⟨front, rfl⟩ := List.getLast?_eq_some_iff.1 hret
          have hfront : feed ∉ front := fun h => hline (List.mem_append_left _ h)
          rw [List.append_assoc]
          exact ⟨front :: lines, .returned hfront hrest⟩
        · exact ⟨line :: lines, .ended hline hret hrest⟩
      · by_cases hne : text = []
        · exact ⟨[], hne ▸ .nil⟩
        · exact ⟨[text], .last hne hfeed⟩

/-! ### Cutting gives the lines -/

theorem splitLines_go_append {line : List α} (h : feed ∉ line) (begun : List α)
    (done : List (List α)) (rest : List α) :
    splitLines.go feed ret begun done (line ++ rest) =
      splitLines.go feed ret (line.reverse ++ begun) done rest := by
  induction line generalizing begun with
  | nil => rfl
  | cons x line ih =>
      have hx : x ≠ feed := fun hx => h (hx ▸ List.mem_cons_self ..)
      rw [List.cons_append, splitLines.go, if_neg hx,
        ih fun hmem => h (List.mem_cons_of_mem x hmem), List.reverse_cons, List.append_assoc]
      rfl

theorem splitLines_go_done (begun : List α) (done : List (List α)) (text : List α) :
    splitLines.go feed ret begun done text =
      done.reverse ++ splitLines.go feed ret begun [] text := by
  induction text generalizing begun done with
  | nil =>
      rw [splitLines.go, splitLines.go]
      split <;> simp
  | cons x rest ih =>
      rw [splitLines.go, splitLines.go]
      by_cases hx : x = feed
      · rw [if_pos hx, if_pos hx, ih, ih [] [_], List.reverse_cons, List.append_assoc]
        rfl
      · rw [if_neg hx, if_neg hx, ih]

/-- The first line is what stands in front of the first feed, less one return mark. -/
theorem splitLines_append_feed {line : List α} (h : feed ∉ line) (rest : List α) :
    splitLines feed ret (line ++ feed :: rest) =
      (dropReturn ret line.reverse).reverse :: splitLines feed ret rest := by
  rw [splitLines, splitLines_go_append h, splitLines.go, if_pos rfl, List.append_nil,
    splitLines_go_done]
  rfl

theorem Lined.splitLines_eq (hne : feed ≠ ret) {text : List α} {lines : List (List α)}
    (h : Lined feed ret text lines) : splitLines feed ret text = lines := by
  induction h with
  | nil => rfl
  | @last line hne hfeed =>
      have hgo : splitLines.go feed ret [] [] (line ++ []) =
          splitLines.go feed ret (line.reverse ++ []) [] [] := splitLines_go_append hfeed [] [] []
      rw [List.append_nil] at hgo
      rw [splitLines, hgo, splitLines.go]
      simp [hne]
  | @ended line rest lines hfeed hret next ih =>
      have hkeep : dropReturn ret line.reverse = line.reverse := by
        cases hrev : line.reverse with
        | nil => rfl
        | cons x xs =>
            have hx : x ≠ ret := by
              rintro rfl
              rw [List.getLast?_eq_head?_reverse, hrev] at hret
              exact hret rfl
            rw [dropReturn, if_neg hx]
      rw [splitLines_append_feed hfeed, ih, hkeep, List.reverse_reverse]
  | @returned line rest lines hfeed next ih =>
      have hfeed' : feed ∉ line ++ [ret] := by simp [hfeed, hne]
      rw [List.append_cons, splitLines_append_feed hfeed', ih, List.reverse_concat, dropReturn,
        if_pos rfl, List.reverse_reverse]

/-- **Cutting gives the lines.** -/
theorem lined_splitLines (hne : feed ≠ ret) (text : List α) :
    Lined feed ret text (splitLines feed ret text) := by
  obtain ⟨lines, h⟩ := exists_lined feed ret text
  rw [h.splitLines_eq hne]
  exact h

end Lined

theorem lined_linesOfText (s : String) : Lined '\n' '\r' s.toList (linesOfText s) :=
  lined_splitLines (by decide) s.toList

/-! ### The tokens of a text that stands at a place -/

/-- The tokens of the text `cs` that stands at the place `l`, without the end token. -/
def tokensAt (l : Location) (cs : List Char) : List Token := (Cursor.readAll ⟨cs, l⟩).1.dropLast

open Tiling

theorem Tiling.Tiles.tokensAt_eq {d : Tiling} {cs : List Char} (hd : d.Tiles cs) (l : Location) :
    tokensAt l cs = d.tokens l := by
  have hread := Tiles.readAll_eq (c := ⟨cs, l⟩) hd
  rw [tokensAt, hread, List.dropLast_concat]

/-- Nothing but the end token is left out. -/
theorem filter_readAll (l : Location) (cs : List Char) :
    (Cursor.readAll ⟨cs, l⟩).1.filter (fun t => t.kind ≠ .eof) = tokensAt l cs := by
  obtain ⟨d, hd⟩ := exists_tiles cs
  have hread := Tiles.readAll_eq (c := ⟨cs, l⟩) hd
  have hkind : ∀ t ∈ d.tokens l, t.kind ≠ .eof := hd.fitting.kind_ne_eof _
  rw [hread, hd.tokensAt_eq, List.filter_append, List.filter_eq_self.2 (by simpa using hkind)]
  exact List.append_nil _

theorem filter_tokenize (s : String) :
    (tokenize s).filter (fun t => t.kind ≠ .eof) = tokensAt .start s.toList :=
  filter_readAll .start s.toList

/-- Where a text stands changes the places of its tokens and nothing else. -/
theorem map_lexeme_tokensAt (l m : Location) (cs : List Char) :
    (tokensAt l cs).map Token.lexeme = (tokensAt m cs).map Token.lexeme := by
  obtain ⟨d, hd⟩ := exists_tiles cs
  rw [hd.tokensAt_eq, hd.tokensAt_eq, tokens, tokens, Tile.map_lexeme_tokensFrom,
    Tile.map_lexeme_tokensFrom]

/-- A text can be cut in front of a gap. -/
theorem tokensAt_append {ds : List Char} (h : ∀ c ∈ ds.head?, isGap c = true) (l : Location)
    (cs : List Char) : tokensAt l (cs ++ ds) = tokensAt l cs ++ tokensAt (l.after cs) ds := by
  obtain ⟨d, hd⟩ := exists_tiles cs
  obtain ⟨e, he⟩ := exists_tiles ds
  have hjoin : (d.join e).Tiles (cs ++ ds) := by
    refine hd.join he ?_
    intro t _ _ c hc
    exact t.lexeme.not_grows_of_isGap (h c hc)
  rw [hjoin.tokensAt_eq, hd.tokensAt_eq, he.tokensAt_eq, tokens_join, hd.text_eq]

/-- A gap in front of a text moves its tokens and adds none. -/
theorem tokensAt_gap_append {gap : List Char} (h : ∀ c ∈ gap, isGap c = true) (l : Location)
    (cs : List Char) : tokensAt l (gap ++ cs) = tokensAt (l.after gap) cs := by
  obtain ⟨d, hd⟩ := exists_tiles cs
  have hgap : (⟨gap, []⟩ : Tiling).Tiles gap := ⟨List.append_nil gap, h, .nil⟩
  have hjoin := hgap.join hd (by simp)
  rw [hjoin.tokensAt_eq, hd.tokensAt_eq, tokens_join, hgap.text_eq]
  rfl

@[simp] theorem tokensAt_nil (l : Location) : tokensAt l [] = [] :=
  Tiles.tokensAt_eq (d := ⟨[], []⟩) ⟨rfl, by simp, .nil⟩ l

/-! ### The tokens of a text are those of its lines -/

/-- Within a line only the column changes. -/
theorem Location.after_of_not_mem {cs : List Char} (h : '\n' ∉ cs) (l : Location) :
    l.after cs = ⟨l.line, l.column + cs.length⟩ := by
  induction cs generalizing l with
  | nil => rfl
  | cons c cs ih =>
      have hc : c ≠ '\n' := fun hc => h (hc ▸ List.mem_cons_self ..)
      rw [after_cons, step, if_neg hc, ih fun hmem => h (List.mem_cons_of_mem c hmem),
        List.length_cons, Nat.add_right_comm, Nat.add_assoc]

/-- The tokens behind the end of a line are those of a text that stands at the next line. -/
theorem tokensAt_line_append {line ending : List Char} (hline : '\n' ∉ line)
    (hending : ending = ['\n'] ∨ ending = ['\r', '\n']) (n : Nat) (rest : List Char) :
    tokensAt ⟨n, 1⟩ (line ++ (ending ++ rest)) =
      tokensAt ⟨n, 1⟩ line ++ tokensAt ⟨n + 1, 1⟩ rest := by
  have hgap : ∀ c ∈ ending, isGap c = true := by
    rcases hending with rfl | rfl <;> exact List.all_eq_true.1 rfl
  have hhead : ∀ c ∈ (ending ++ rest).head?, isGap c = true := by
    rcases hending with rfl | rfl <;> simp [isGap]
  have hplace : (Location.after ⟨n, 1⟩ line).after ending = ⟨n + 1, 1⟩ := by
    rw [Location.after_of_not_mem hline]
    rcases hending with rfl | rfl <;> simp [Location.step]
  rw [tokensAt_append hhead, tokensAt_gap_append hgap, hplace]

/-- **The tokens of a text are those of its lines**, each line at its own number. -/
theorem Lined.tokensAt_eq {cs : List Char} {lines : List (List Char)}
    (h : Lined '\n' '\r' cs lines) (n : Nat) :
    tokensAt ⟨n, 1⟩ cs = (lines.zipIdx n).flatMap fun p => tokensAt ⟨p.2, 1⟩ p.1 := by
  induction h generalizing n with
  | nil => simp
  | last hne hfeed => simp
  | @ended line rest lines hfeed hret next ih =>
      have hsplit := tokensAt_line_append hfeed (Or.inl rfl) n rest
      rw [List.singleton_append] at hsplit
      rw [hsplit, ih, List.zipIdx_cons, List.flatMap_cons]
  | @returned line rest lines hfeed next ih =>
      have hsplit := tokensAt_line_append hfeed (Or.inr rfl) n rest
      rw [List.cons_append, List.singleton_append] at hsplit
      rw [hsplit, ih, List.zipIdx_cons, List.flatMap_cons]

section

variable {α : Type} {f : α → Nat} {n : Nat} {xs ys : List α}

/-- What is numbered `n` in front of greater numbers. -/
theorem filter_append_eq_left (hx : ∀ a ∈ xs, f a = n) (hy : ∀ a ∈ ys, n < f a) :
    (xs ++ ys).filter (fun a => f a = n) = xs := by
  rw [List.filter_append, List.filter_eq_self.2 (by simpa using hx), List.filter_eq_nil_iff.2,
    List.append_nil]
  intro a ha
  have hlt := hy a ha
  simp only [decide_eq_true_eq]
  omega

/-- What is numbered `n` holds no other number. -/
theorem filter_append_eq_right (hx : ∀ a ∈ xs, f a = n) {m : Nat} (hm : n < m) :
    (xs ++ ys).filter (fun a => f a = m) = ys.filter (fun a => f a = m) := by
  rw [List.filter_append, List.filter_eq_nil_iff.2, List.nil_append]
  intro a ha
  have heq := hx a ha
  simp only [decide_eq_true_eq]
  omega

end

/-- A token stands on the line that it is read from. -/
theorem line_of_mem_tokensAt {line : List Char} (h : '\n' ∉ line) {l : Location} {t : Token}
    (ht : t ∈ tokensAt l line) : t.location.line = l.line := by
  obtain ⟨d, hd⟩ := exists_tiles line
  rw [hd.tokensAt_eq] at ht
  obtain ⟨i, hi⟩ := List.mem_iff_getElem?.1 (List.mem_append_left
    [Token.endAt ((l.after d.lead).after (Tile.textOf d.tiles))] ht)
  have hfront : '\n' ∉ d.lead ++ Tile.textOf (d.tiles.take i) := by
    rw [← hd.take_offset]
    exact fun hmem => h (List.mem_of_mem_take hmem)
  rw [Tile.location_tokensFrom hi, ← Location.after_append, Location.after_of_not_mem hfront]

section

variable {lines : List (List Char)}

theorem line_of_mem_flatMap (h : ∀ line ∈ lines, '\n' ∉ line) {n : Nat} {t : Token}
    (ht : t ∈ (lines.zipIdx n).flatMap fun p => tokensAt ⟨p.2, 1⟩ p.1) :
    n ≤ t.location.line ∧ t.location.line < n + lines.length := by
  obtain ⟨⟨line, i⟩, hmem, ht⟩ := List.mem_flatMap.1 ht
  obtain ⟨hle, hlt, hline⟩ := List.mem_zipIdx hmem
  have hfeed : '\n' ∉ line := h line (hline ▸ List.getElem_mem _)
  rw [line_of_mem_tokensAt hfeed ht]
  exact ⟨hle, hlt⟩

theorem filter_flatMap_zipIdx (h : ∀ line ∈ lines, '\n' ∉ line) {n k : Nat} {line : List Char}
    (hline : lines[k]? = some line) :
    ((lines.zipIdx n).flatMap fun p => tokensAt ⟨p.2, 1⟩ p.1).filter
      (fun t => t.location.line = n + k) = tokensAt ⟨n + k, 1⟩ line := by
  induction lines generalizing n k with
  | nil => simp at hline
  | cons first lines ih =>
      have hfirst : ∀ t ∈ tokensAt ⟨n, 1⟩ first, t.location.line = n := fun t ht =>
        line_of_mem_tokensAt (h first (List.mem_cons_self ..)) ht
      have htail : ∀ line ∈ lines, '\n' ∉ line := fun line hmem =>
        h line (List.mem_cons_of_mem first hmem)
      rw [List.zipIdx_cons, List.flatMap_cons]
      cases k with
      | zero =>
          obtain rfl : first = line := by simpa using hline
          exact filter_append_eq_left hfirst fun t ht => (line_of_mem_flatMap htail ht).1
      | succ k =>
          have hlater := ih htail (n := n + 1) (k := k) (by simpa using hline)
          rw [Nat.add_right_comm, Nat.add_assoc] at hlater
          rw [filter_append_eq_right hfirst (by omega), hlater]

end

/-- **The tokens that stand on one line of a text** are those of that line. -/
theorem Lined.filter_tokensAt {cs : List Char} {lines : List (List Char)}
    (h : Lined '\n' '\r' cs lines) {n k : Nat} {line : List Char} (hline : lines[k]? = some line) :
    (tokensAt ⟨n, 1⟩ cs).filter (fun t => t.location.line = n + k) = tokensAt ⟨n + k, 1⟩ line := by
  rw [h.tokensAt_eq]
  exact filter_flatMap_zipIdx h.not_mem hline

end LetInspector
