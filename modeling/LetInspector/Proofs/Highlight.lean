/-
**The text as the pane shows it.**

A line is split into spans by the columns of its tokens, while the tokens were read from the whole
text and the lines were cut out of it on their own.  This module proves that the two agree.  The
split keeps to the fitting tiling of the line: at every step the tiles left start in the column
that the split has come to, so each extent is exactly a lexeme and each stretch in between a gap.
Since the tokens of a text are those of its lines, a pane of a text with its own tokens shows every
token once, on the row of its line.

Main definitions:

* `LetInspector.tokenSpan` — the span of a token;
* `LetInspector.Shows` — spans that show the tokens of a line, and nothing else but gaps;
* `LetInspector.SourceText.ofSource`, `LetInspector.entries` — the pane of a text with its own
  tokens, and these tokens with whether they are marked.

Main results:

* `LetInspector.shows_highlight` — **a line that is split by its tokens shows them**;
* `LetInspector.flatMap_filter_line` — line by line, every token is met once;
* `LetInspector.SourceText.rows_show_tokens` — **the rows of a pane show the text as it was read**.
-/

import LetInspector.Proofs.Lines
import LetInspector.View.SourceText
import Mathlib.Data.List.Basic

set_option autoImplicit false

namespace LetInspector

open Tile

/-! ### The span of a token -/

theorem Kind.bg_style (k : Kind) : k.style.bg = none := by
  cases k <;> rfl

theorem Kind.style_ne (k : Kind) : k.style ≠ {} := by
  cases k <;> decide

theorem tokenStyle_ne (k : Kind) (marked : Bool) : tokenStyle k marked ≠ {} := by
  cases marked with
  | false => exact k.style_ne
  | true =>
      intro h
      cases congrArg Style.bg h

/-- Only what is marked has the ground of what is selected. -/
theorem bg_tokenStyle_iff (k : Kind) (marked : Bool) :
    (tokenStyle k marked).bg = some palette.selection ↔ marked = true := by
  cases marked with
  | false => simp [tokenStyle, k.bg_style]
  | true => simp [tokenStyle, Style.selected]

/-- The span of a token, marked or not. -/
def tokenSpan (e : Token × Bool) : Span := ⟨e.1.literal, tokenStyle e.1.kind e.2⟩

/-! ### Spans that show tokens -/

/-- **Whether spans show the tokens of a line.**  Nothing of the line is lost, the styled spans are
those of the tokens, in order, and what is not styled are gaps. -/
structure Shows (line : List Char) (es : List (Token × Bool)) (spans : Line) : Prop where
  text_eq : Line.text spans = String.ofList line
  styled_eq : spans.filter (fun x => x.style ≠ {}) = es.map tokenSpan
  plain : ∀ x ∈ spans, x.style = {} → ∀ c ∈ x.text.toList, c = ' ' ∨ c = '\t' ∨ c = '\r'

namespace Shows

variable {cs ds : List Char} {es fs : List (Token × Bool)} {xs ys : Line}

theorem append (h : Shows cs es xs) (h' : Shows ds fs ys) :
    Shows (cs ++ ds) (es ++ fs) (xs ++ ys) where
  text_eq := by
    rw [Line.text_append, h.text_eq, h'.text_eq, String.ofList_append]
  styled_eq := by
    rw [List.filter_append, h.styled_eq, h'.styled_eq, List.map_append]
  plain := by
    intro x hx
    rcases List.mem_append.1 hx with hx | hx
    · exact h.plain x hx
    · exact h'.plain x hx

theorem token (e : Token × Bool) : Shows e.1.literal.toList [e] [tokenSpan e] where
  text_eq := by
    simp [tokenSpan]
  styled_eq := by
    simp [tokenSpan, tokenStyle_ne]
  plain := by
    intro x hx hstyle
    obtain rfl := List.mem_singleton.1 hx
    exact absurd hstyle (tokenStyle_ne _ _)

theorem gap (hgap : ∀ c ∈ cs, isGap c = true) (hfeed : '\n' ∉ cs) :
    Shows cs [] (plainSpans cs) := by
  cases cs with
  | nil => exact ⟨rfl, rfl, by simp [plainSpans]⟩
  | cons c cs =>
      refine ⟨text_plainSpans _, by simp [plainSpans], ?_⟩
      intro x hx _ d hd
      obtain rfl := List.mem_singleton.1 hx
      have hmem : d ∈ c :: cs := by simpa using hd
      have hne : d ≠ '\n' := fun h => hfeed (h ▸ hmem)
      have hclass := hgap d hmem
      simp only [isGap, Bool.or_eq_true, decide_eq_true_eq] at hclass
      rcases hclass with ((h | h) | h) | h
      · exact Or.inl h
      · exact Or.inr (Or.inl h)
      · exact absurd h hne
      · exact Or.inr (Or.inr h)

/-- What is shown as selected are the marked tokens. -/
theorem selected_eq (h : Shows cs es xs) :
    xs.filter (fun x => x.style.bg = some palette.selection) =
      (es.filter Prod.snd).map tokenSpan := by
  have hstyled : xs.filter (fun x => x.style.bg = some palette.selection) =
      (xs.filter (fun x => x.style ≠ {})).filter
        (fun x => x.style.bg = some palette.selection) := by
    rw [List.filter_filter]
    refine List.filter_congr ?_
    intro x _
    by_cases hx : x.style = {}
    · simp [hx]
    · simp [hx]
  have hmarked : (fun x : Span => decide (x.style.bg = some palette.selection)) ∘ tokenSpan =
      Prod.snd := by
    funext e
    rw [Bool.eq_iff_iff, Function.comp_apply, decide_eq_true_eq]
    exact bg_tokenStyle_iff _ _
  rw [hstyled, h.styled_eq, List.filter_map, hmarked]

end Shows

/-! ### Splitting keeps to the tiles -/

/-- One step of a split whose extent is what stands behind a gap. -/
theorem highlight_go_append {length column : Nat} {gap body : List Char} {t : Token}
    (hextent : Extent.ofToken t column length =
      ⟨column + gap.length, column + gap.length + body.length⟩)
    (rest : List Char) (marked : Bool) (others : List (Token × Bool)) :
    highlight.go length (gap ++ (body ++ rest)) column [] ((t, marked) :: others) =
      plainSpans gap ++ ([⟨String.ofList body, tokenStyle t.kind marked⟩] ++
        highlight.go length rest (column + gap.length + body.length) [] others) := by
  have hgap : column + gap.length - column = gap.length := by omega
  have hbody : column + gap.length + body.length - (column + gap.length) = body.length := by omega
  rw [highlight.go, hextent, highlight_go_eq_append]
  simp only [hgap, hbody, List.splitAt_eq, List.take_left, List.drop_left]
  simp [reverse_plainSpans]

/-- A split shows the tiles that are left, if they start in the column it has come to. -/
theorem Tile.Fitting.shows_go {ts : List Tile} (h : Fitting ts) {gap : List Char}
    (hgap : ∀ c ∈ gap, isGap c = true) (hfeed : '\n' ∉ gap ++ textOf ts) {n column length : Nat}
    (hlength : column + (gap ++ textOf ts).length = length) {es : List (Token × Bool)}
    (hes : es.map Prod.fst = tokensFrom ⟨n, column + gap.length + 1⟩ ts) :
    Shows (gap ++ textOf ts) es (highlight.go length (gap ++ textOf ts) column [] es) := by
  induction h generalizing gap column es with
  | nil =>
      obtain rfl : es = [] := List.map_eq_nil_iff.1 hes
      rw [textOf_nil, List.append_nil] at hfeed ⊢
      rw [highlight.go, List.append_nil, reverse_plainSpans]
      exact .gap hgap hfeed
  | @cons t ts lexical gap' munch rest ih =>
      rw [textOf_cons] at hfeed hlength ⊢
      obtain ⟨⟨u, marked⟩, others, rfl, hu, hothers⟩ := List.map_eq_cons_iff.1 hes
      obtain rfl : u = t.lexeme.tokenAt ⟨n, column + gap.length + 1⟩ := hu
      simp only [List.length_append] at hlength
      simp only [List.mem_append, not_or] at hfeed
      have hextent : Extent.ofToken (t.lexeme.tokenAt ⟨n, column + gap.length + 1⟩) column length =
          ⟨column + gap.length, column + gap.length + t.lexeme.literal.length⟩ := by
        simp only [Extent.ofToken, Lexeme.tokenAt, String.length_ofList, Extent.mk.injEq]
        omega
      have hplace : ((Location.mk n (column + gap.length + 1)).after t.lexeme.literal).after t.gap =
          ⟨n, column + gap.length + t.lexeme.literal.length + t.gap.length + 1⟩ := by
        simp only [Location.after_of_not_mem hfeed.2.1, Location.after_of_not_mem hfeed.2.2.1,
          Location.mk.injEq, true_and]
        omega
      have htoken : Shows t.lexeme.literal
          [(t.lexeme.tokenAt ⟨n, column + gap.length + 1⟩, marked)]
          [⟨String.ofList t.lexeme.literal, tokenStyle t.lexeme.kind marked⟩] := by
        have hshows := Shows.token (t.lexeme.tokenAt ⟨n, column + gap.length + 1⟩, marked)
        rwa [Lexeme.tokenAt, String.toList_ofList] at hshows
      have hfeed' : '\n' ∉ t.gap ++ textOf ts := by
        rw [List.mem_append, not_or]
        exact hfeed.2.2
      have hlength' : column + gap.length + t.lexeme.literal.length +
          (t.gap ++ textOf ts).length = length := by
        rw [List.length_append]
        omega
      rw [hplace] at hothers
      rw [highlight_go_append hextent]
      exact (Shows.gap hgap hfeed.1).append (htoken.append (ih gap' hfeed' hlength' hothers))

/-- **A line that is split by its tokens shows them.** -/
theorem shows_highlight {line : List Char} (hfeed : '\n' ∉ line) {n : Nat}
    {es : List (Token × Bool)} (hes : es.map Prod.fst = tokensAt ⟨n, 1⟩ line) :
    Shows line es (highlight line es) := by
  obtain ⟨d, hd⟩ := Tiling.exists_tiles line
  obtain rfl : d.lead ++ textOf d.tiles = line := hd.text_eq
  have hlead : '\n' ∉ d.lead := fun hmem => hfeed (List.mem_append_left _ hmem)
  have hplace : (Location.mk n 1).after d.lead = ⟨n, 0 + d.lead.length + 1⟩ := by
    simp only [Location.after_of_not_mem hlead, Location.mk.injEq, true_and]
    omega
  rw [hd.tokensAt_eq, Tiling.tokens, hplace] at hes
  exact hd.fitting.shows_go hd.lead hfeed (Nat.zero_add _) hes

/-! ### The tokens of the lines, line by line -/

/-- **Line by line, every token is met once.** -/
theorem flatMap_filter_line {lines : List (List Char)} (h : ∀ line ∈ lines, '\n' ∉ line) {n : Nat}
    {es : List (Token × Bool)}
    (hes : es.map Prod.fst = (lines.zipIdx n).flatMap fun p => tokensAt ⟨p.2, 1⟩ p.1) :
    ((lines.zipIdx n).flatMap fun p => es.filter (fun e => e.1.location.line = p.2)) = es := by
  induction lines generalizing n es with
  | nil => exact (List.map_eq_nil_iff.1 hes).symm
  | cons line lines ih =>
      rw [List.zipIdx_cons, List.flatMap_cons] at hes ⊢
      obtain ⟨first, later, rfl, hfirst, hlater⟩ := List.map_eq_append_iff.1 hes
      have htail : ∀ line ∈ lines, '\n' ∉ line := fun line hmem =>
        h line (List.mem_cons_of_mem _ hmem)
      have hon : ∀ e ∈ first, e.1.location.line = n := by
        intro e he
        exact line_of_mem_tokensAt (h line (List.mem_cons_self ..))
          (hfirst ▸ List.mem_map_of_mem he)
      have hbehind : ∀ e ∈ later, n + 1 ≤ e.1.location.line := by
        intro e he
        exact (line_of_mem_flatMap htail (hlater ▸ List.mem_map_of_mem he)).1
      have hhead : (first ++ later).filter (fun e => e.1.location.line = n) = first :=
        filter_append_eq_left hon hbehind
      rw [hhead, List.append_right_inj]
      refine (List.flatMap_congr ?_).trans (ih htail hlater)
      intro p hp
      exact filter_append_eq_right hon (List.mem_zipIdx hp).1

/-- The entry of a list at a place, among all entries with their places. -/
theorem filter_zipIdx_eq {α : Type} {l : List α} {i : Nat} {x : α} (h : l[i]? = some x) (n : Nat) :
    (l.zipIdx n).filter (fun e => e.2 = n + i) = [(x, n + i)] := by
  induction l generalizing i n with
  | nil => simp at h
  | cons y l ih =>
      have hhead : ∀ e ∈ [(y, n)], Prod.snd e = n := by simp
      rw [List.zipIdx_cons, ← List.singleton_append]
      cases i with
      | zero =>
          obtain rfl : y = x := by simpa using h
          exact filter_append_eq_left hhead fun e he => (List.mem_zipIdx he).1
      | succ i =>
          have htail := ih (i := i) (by simpa using h) (n + 1)
          rw [Nat.add_right_comm, Nat.add_assoc] at htail
          rw [filter_append_eq_right hhead (by omega), htail]

theorem exists_of_mem_zipIdx {α : Type} {l : List α} {n : Nat} {e : α × Nat}
    (h : e ∈ l.zipIdx n) : ∃ k x, l[k]? = some x ∧ e = (x, n + k) := by
  obtain ⟨k, hk⟩ := List.mem_iff_getElem?.1 h
  rw [List.getElem?_zipIdx] at hk
  obtain ⟨x, hx, rfl⟩ := Option.map_eq_some_iff.1 hk
  exact ⟨k, x, hx, rfl⟩

/-- What one number gives, among all numbers of a list that is counted from `n`. -/
theorem flatMap_zipIdx_ite {α β : Type} (l : List α) (n m : Nat) (x : β) :
    ((l.zipIdx n).flatMap fun e => if m = e.2 then [x] else []) =
      if n ≤ m ∧ m < n + l.length then [x] else [] := by
  induction l generalizing n with
  | nil =>
      rw [List.zipIdx_nil, List.flatMap_nil, if_neg]
      rw [List.length_nil]
      omega
  | cons y l ih =>
      rw [List.zipIdx_cons, List.flatMap_cons, ih, List.length_cons]
      by_cases h : m = n
      · rw [if_pos h, if_neg (by omega), if_pos (by omega), List.append_nil]
      · rw [if_neg h, List.nil_append]
        exact if_congr (by omega) rfl rfl

/-- The tokens of a text but the end token, each with whether it stands at the place `i`. -/
def entries (source : String) (i : Nat) : List (Token × Bool) :=
  ((tokenize source).zipIdx.filter fun e => e.1.kind ≠ .eof).map fun e => (e.1, decide (e.2 = i))

theorem map_fst_entries (source : String) (i : Nat) :
    (entries source i).map Prod.fst = tokensAt .start source.toList := by
  rw [← filter_tokenize]
  conv => rhs; rw [← List.zipIdx_map_fst 0 (tokenize source), List.filter_map]
  rw [entries, List.map_map]
  rfl

/-- The marked entry, unless it is the end token. -/
theorem filter_marked_entries {source : String} {i : Nat} {t : Token}
    (ht : (tokenize source)[i]? = some t) :
    (entries source i).filter Prod.snd = if t.kind = .eof then [] else [(t, true)] := by
  have hplace := filter_zipIdx_eq ht 0
  rw [Nat.zero_add] at hplace
  have hmarked : (Prod.snd ∘ fun e : Token × Nat => (e.1, decide (e.2 = i))) =
      fun e => decide (e.2 = i) := rfl
  rw [entries, List.filter_map, hmarked, List.filter_comm, hplace]
  by_cases hk : t.kind = .eof
  · simp [hk]
  · simp [hk]

/-- Of the tokens of a text the end token alone has no characters. -/
theorem isEmpty_literal {source : String} {t : Token} (ht : t ∈ tokenize source) :
    t.literal.isEmpty = decide (t.kind = .eof) := by
  by_cases hk : t.kind = .eof
  · obtain ⟨d, hd⟩ := Tiling.exists_tiles source.toList
    rw [hd.tokenize_eq] at ht
    rcases List.mem_append.1 ht with ht | ht
    · exact absurd hk (hd.fitting.kind_ne_eof _ t ht)
    · obtain rfl := List.mem_singleton.1 ht
      rfl
  · have hne := (Tiling.lexical_of_mem_tokenize ht hk).literal_ne_nil
    rw [decide_eq_false hk, Bool.eq_false_iff]
    intro hempty
    exact hne (String.toList_eq_nil_iff.2 (String.isEmpty_iff.1 hempty))

namespace SourceText

/-- The pane of a text with its own tokens, of which the one at the place `i` is marked. -/
def ofSource (source : String) (i : Nat) (followed : Bool) : SourceText :=
  ⟨source, tokenize source, .entry i, followed⟩

variable {source : String} {i : Nat} {followed : Bool}

theorem tokensOn_ofSource (n : Nat) :
    (ofSource source i followed).tokensOn n =
      (entries source i).filter (fun e => e.1.location.line = n) := by
  have hmark : (fun e : Token × Nat => (e.1, decide ((Mark.entry i).IsAt e.2))) =
      fun e => (e.1, decide (e.2 = i)) := by
    funext e
    simp [Mark.IsAt, eq_comm]
  rw [tokensOn, entries, List.filter_map, List.filter_filter, ofSource, hmark]
  refine congrArg _ (List.filter_congr ?_)
  intro e he
  rw [isEmpty_literal (List.fst_mem_of_mem_zipIdx he)]
  simp

theorem shows_row {k : Nat} {line : List Char} (hline : (linesOfText source)[k]? = some line) :
    Shows line ((entries source i).filter (fun e => e.1.location.line = k + 1))
      (highlight line ((ofSource source i followed).tokensOn (k + 1))) := by
  have hlined := lined_linesOfText source
  have hfeed : '\n' ∉ line := hlined.not_mem line (List.mem_of_getElem? hline)
  have htokens := hlined.filter_tokensAt (n := 1) hline
  rw [show Location.mk 1 1 = .start from rfl, ← map_fst_entries source i, List.filter_map,
    Nat.add_comm] at htokens
  rw [tokensOn_ofSource]
  exact shows_highlight hfeed htokens

/-! ### The rows of a pane -/

theorem getElem?_of_window {α : Type} {l : List α} {o visible k : Nat} {x : α}
    (h : (window l o visible)[k]? = some x) : l[o + k]? = some x := by
  rw [window, List.getElem?_take] at h
  split at h
  · rwa [List.getElem?_drop] at h
  · cases h

theorem length_rows (p : SourceText) (o height : Nat) :
    (p.rows o height).length = min (visibleRows height) (p.lines.length - o) := by
  rw [rows, List.length_map, List.length_zipIdx, window, List.length_take, List.length_drop]

theorem getElem?_rows (p : SourceText) {o height k : Nat} {line : List Char}
    (hk : k < visibleRows height) (hline : p.lines[o + k]? = some line) :
    (p.rows o height)[k]? = some (p.row (o + k + 1) line) := by
  rw [rows, List.getElem?_map, List.getElem?_zipIdx, window, List.getElem?_take_of_lt hk,
    List.getElem?_drop, hline]
  rfl

theorem bg_gutter (p : SourceText) (n : Nat) : (p.gutter n).style.bg = none := by
  unfold gutter
  split <;> rfl

/-- What the row of a line shows as selected. -/
theorem filter_selected_row {t : Token} (ht : (tokenize source)[i]? = some t) {k : Nat}
    {line : List Char} (hline : (linesOfText source)[k]? = some line) :
    ((ofSource source i followed).row (k + 1) line).filter
        (fun x => x.style.bg = some palette.selection) =
      if t.kind ≠ .eof ∧ t.location.line = k + 1 then [tokenSpan (t, true)] else [] := by
  have hgutter := bg_gutter (ofSource source i followed) (k + 1)
  rw [row, List.filter_cons_of_neg (by simp [hgutter]), (shows_row hline).selected_eq,
    List.filter_comm, filter_marked_entries ht]
  by_cases hk : t.kind = .eof
  · simp [hk]
  · by_cases hl : t.location.line = k + 1 <;> simp [hk, hl]

/-- A token but the end token stands on one of the lines. -/
theorem line_of_getElem?_tokenize {t : Token} (ht : (tokenize source)[i]? = some t)
    (hk : t.kind ≠ .eof) :
    1 ≤ t.location.line ∧ t.location.line < 1 + (linesOfText source).length := by
  have hlined := lined_linesOfText source
  have hmem : t ∈ tokensAt .start source.toList := by
    rw [← filter_tokenize]
    exact List.mem_filter.2 ⟨List.mem_of_getElem? ht, by simpa using hk⟩
  rw [show Location.start = ⟨1, 1⟩ from rfl, hlined.tokensAt_eq] at hmem
  exact line_of_mem_flatMap hlined.not_mem hmem

/-- What the rows of a window show as selected. -/
theorem filter_selected_rows {t : Token} (ht : (tokenize source)[i]? = some t) (o height : Nat) :
    ((ofSource source i followed).rows o height).flatten.filter
        (fun x => x.style.bg = some palette.selection) =
      if t.kind ≠ .eof ∧ o < t.location.line ∧ t.location.line ≤ o + visibleRows height then
        [tokenSpan (t, true)]
      else [] := by
  have hrow : ∀ e ∈ (window (linesOfText source) o (visibleRows height)).zipIdx o,
      ((ofSource source i followed).row (e.2 + 1) e.1).filter
          (fun x => x.style.bg = some palette.selection) =
        if t.kind ≠ .eof ∧ t.location.line = e.2 + 1 then [tokenSpan (t, true)] else [] := by
    intro e he
    obtain ⟨k, line, hline, rfl⟩ := exists_of_mem_zipIdx he
    exact filter_selected_row ht (getElem?_of_window hline)
  rw [rows, ← List.flatMap_def, List.filter_flatMap]
  rw [show (ofSource source i followed).lines = linesOfText source from rfl]
  refine (List.flatMap_congr hrow).trans ?_
  by_cases hk : t.kind = .eof
  · simp [hk]
  · obtain ⟨hpos, hlast⟩ := line_of_getElem?_tokenize ht hk
    have hnumber : ∀ n, (t.kind ≠ .eof ∧ t.location.line = n + 1) ↔ t.location.line - 1 = n := by
      intro n
      rw [and_iff_right hk]
      omega
    simp only [hnumber]
    rw [flatMap_zipIdx_ite, window, List.length_take, List.length_drop]
    refine if_congr ?_ rfl rfl
    rw [and_iff_right hk]
    omega

/-- **The rows of a pane show the text as it was read.** -/
theorem rows_show_tokens {source : String} {i : Nat} {t : Token}
    (ht : (tokenize source)[i]? = some t) (followed : Bool) (scroll height : Nat) :
    let p := ofSource source i followed
    let o := p.offset scroll height
    (p.rows o height).length = min (visibleRows height) ((linesOfText source).length - o) ∧
    (∀ k < min (visibleRows height) ((linesOfText source).length - o),
      ∃ line gutter spans,
        (linesOfText source)[o + k]? = some line ∧
        (p.rows o height)[k]? = some (gutter :: spans) ∧
        gutter.text = alignRight 4 (toString (o + k + 1)) ++ " " ∧
        gutter.style = (if t.location.line = o + k + 1 then
          { fg := some palette.secondary, bold := true } else { fg := some palette.comment }) ∧
        Shows line ((entries source i).filter (fun e => e.1.location.line = o + k + 1)) spans) ∧
    (((linesOfText source).zipIdx 1).flatMap fun e =>
      (highlight e.1 (p.tokensOn e.2)).filter (fun x => x.style ≠ {})) =
        (entries source i).map tokenSpan ∧
    (p.rows o height).flatten.filter (fun x => x.style.bg = some palette.selection) =
      if t.kind ≠ .eof ∧ o < t.location.line ∧ t.location.line ≤ o + visibleRows height then
        [tokenSpan (t, true)]
      else [] := by
  intro p o
  have hmarked : p.marked? = some t := ht
  refine ⟨p.length_rows o height, ?_, ?_, filter_selected_rows ht o height⟩
  · intro k hk
    obtain ⟨line, hline⟩ : ∃ line, (linesOfText source)[o + k]? = some line := by
      refine ⟨_, List.getElem?_eq_getElem ?_⟩
      omega
    refine ⟨line, _, _, hline, p.getElem?_rows (by omega) hline, rfl, ?_, shows_row hline⟩
    rw [gutter, hmarked, Option.map_some]
    simp
  · have hstyled : ∀ e ∈ (linesOfText source).zipIdx 1,
        (highlight e.1 (p.tokensOn e.2)).filter (fun x => x.style ≠ {}) =
          ((entries source i).filter (fun x => x.1.location.line = e.2)).map tokenSpan := by
      intro e he
      obtain ⟨k, line, hline, rfl⟩ := exists_of_mem_zipIdx he
      rw [Nat.add_comm 1 k]
      exact (shows_row hline).styled_eq
    have hentries := flatMap_filter_line (lined_linesOfText source).not_mem
      ((map_fst_entries source i).trans ((lined_linesOfText source).tokensAt_eq 1))
    rw [List.flatMap_congr hstyled, ← List.map_flatMap, hentries]

/-- A window of one row that follows the mark shows it, behind a line that ends with a return mark
and an empty one. -/
theorem selected_in_followed_row :
    ((ofSource "a\r\n\n(" 1 true).rows ((ofSource "a\r\n\n(" 1 true).offset 0 3) 3).flatten.filter
        (fun x => x.style.bg = some palette.selection) =
      [tokenSpan (⟨.lparen, "(", ⟨3, 1⟩⟩, true)] := by
  have htoken : (tokenize "a\r\n\n(")[1]? = some ⟨.lparen, "(", ⟨3, 1⟩⟩ := by
    rw [tokenize, Cursor.readAll_eq, if_neg (by decide), Cursor.readAll_eq, if_neg (by decide)]
    rfl
  have hrow : (ofSource "a\r\n\n(" 1 true).followedRow? = some 2 := by
    rw [followedRow?, marked?, ofSource, Mark.token?, htoken]
    rfl
  have hoffset : (ofSource "a\r\n\n(" 1 true).offset 0 3 = 2 := by
    rw [offset, hrow]
    rfl
  have hselected := (rows_show_tokens htoken true 0 3).2.2.2
  rw [hoffset] at hselected ⊢
  exact hselected

end SourceText

end LetInspector
