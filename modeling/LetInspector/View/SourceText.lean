/-
**The pane that shows the text.**

Each row is a line of the text behind its number.  Every token of the line is one span, in the
style of its kind; what lies between tokens is not styled.  One token may be marked: it is shown as
selected, and the number of its line stands out.  A token that is not among those of the pane marks
a line only.

Main definitions:

* `LetInspector.Mark` — what is marked;
* `LetInspector.Extent.ofToken` — which columns of a line a token covers;
* `LetInspector.highlight` — a line split into spans;
* `LetInspector.SourceText`, `LetInspector.SourceText.row` — the pane and its rows;
* `LetInspector.SourceText.offset`, `LetInspector.SourceText.draw` — its offset and its drawing.

Main results:

* `LetInspector.Extent.start_le_stop`, `LetInspector.Extent.stop_le` — an extent lies in the line,
  at or behind the column that it may start from.
-/

import LetInspector.View.Pane

set_option autoImplicit false

namespace LetInspector

/-- What is marked in a list of tokens: nothing, the token at a place in the list, if there is one,
or a token that is no entry of the list, whatever it equals. -/
inductive Mark where
  | nothing
  | entry (index : Nat)
  | apart (token : Token)
deriving DecidableEq

namespace Mark

/-- The marked token. -/
def token? (m : Mark) (tokens : List Token) : Option Token :=
  match m with
  | nothing => none
  | entry i => tokens[i]?
  | apart t => some t

/-- Whether the entry at a place is the marked one. -/
def IsAt (m : Mark) (i : Nat) : Prop := m = entry i

instance (m : Mark) (i : Nat) : Decidable (m.IsAt i) := inferInstanceAs (Decidable (m = entry i))

end Mark

/-! ### Splitting a line -/

/-- The columns of a line, counted from zero, from `start` up to but not including `stop`. -/
structure Extent where
  /-- The first column. -/
  start : Nat
  /-- The column behind the last. -/
  stop : Nat
deriving DecidableEq

namespace Extent

/-- The columns that a token covers on a line of `length` columns, of which those before `column`
are taken. -/
def ofToken (t : Token) (column length : Nat) : Extent :=
  let start := max column (min (t.location.column - 1) length)
  ⟨start, min (start + t.literal.length) length⟩

theorem le_start (t : Token) (column length : Nat) : column ≤ (ofToken t column length).start := by
  simp only [ofToken]
  omega

theorem start_le_stop {t : Token} {column length : Nat} (h : column ≤ length) :
    (ofToken t column length).start ≤ (ofToken t column length).stop := by
  simp only [ofToken]
  omega

theorem stop_le (t : Token) (column length : Nat) : (ofToken t column length).stop ≤ length := by
  simp only [ofToken]
  omega

end Extent

/-- The unstyled span of a stretch between tokens, unless the stretch is empty. -/
def plainSpans (text : List Char) : List Span :=
  if text.isEmpty then [] else [⟨String.ofList text, {}⟩]

/-- The style of a token, marked or not. -/
def tokenStyle (k : Kind) (marked : Bool) : Style :=
  if marked then k.style.selected else k.style

/-- A line split into spans: one for each token, and one for each stretch between tokens.  Each
token comes with whether it is marked. -/
def highlight (line : List Char) (tokens : List (Token × Bool)) : List Span :=
  go line.length line 0 [] tokens
where
  /-- Splits on: `rest` is a line of `length` columns from `column` on, and the spans so far are in
  reverse. -/
  go (length : Nat) (rest : List Char) (column : Nat) (done : List Span) :
      List (Token × Bool) → List Span
    | [] => (plainSpans rest ++ done).reverse
    | (t, marked) :: others =>
      -- `rest` starts at `column`, so both ends of the extent are taken from there.
      let e := Extent.ofToken t column length
      let gap := rest.splitAt (e.start - column)
      let body := gap.2.splitAt (e.stop - e.start)
      let span : Span := ⟨String.ofList body.1, tokenStyle t.kind marked⟩
      go length body.2 e.stop (span :: plainSpans gap.1 ++ done) others

theorem reverse_plainSpans (text : List Char) : (plainSpans text).reverse = plainSpans text := by
  unfold plainSpans
  split <;> rfl

theorem text_plainSpans (text : List Char) : Line.text (plainSpans text) = String.ofList text := by
  cases text with
  | nil => rfl
  | cons c cs => simp [plainSpans]

theorem highlight_go_eq_append (length : Nat) (rest : List Char) (column : Nat)
    (done : List Span) (tokens : List (Token × Bool)) :
    highlight.go length rest column done tokens =
      done.reverse ++ highlight.go length rest column [] tokens := by
  induction tokens generalizing rest column done with
  | nil => simp [highlight.go, reverse_plainSpans]
  | cons t others ih =>
    rw [highlight.go]
    conv => rhs; rw [highlight.go]
    rw [ih]
    conv => rhs; rw [ih]
    simp

/-! ### The pane -/

/-- What the pane shows. -/
structure SourceText where
  /-- The text. -/
  source : String
  /-- The tokens. -/
  tokens : List Token
  /-- What is marked. -/
  mark : Mark
  /-- Whether the window follows the mark. -/
  followed : Bool

namespace SourceText

/-- The lines of the text. -/
def lines (p : SourceText) : List (List Char) := linesOfText p.source

/-- The marked token. -/
def marked? (p : SourceText) : Option Token := p.mark.token? p.tokens

/-- The row that the window follows. -/
def followedRow? (p : SourceText) : Option Nat :=
  if p.followed then p.marked?.map (fun t => t.location.line - 1) else none

/-- The offset that the pane is drawn with. -/
def offset (p : SourceText) (scroll height : Nat) : Nat :=
  settle scroll p.lines.length (visibleRows height) p.followedRow?

/-- The tokens of a line that have characters, each with whether it is marked. -/
def tokensOn (p : SourceText) (line : Nat) : List (Token × Bool) :=
  (p.tokens.zipIdx.filter fun e => e.1.location.line = line && !e.1.literal.isEmpty).map
    fun e => (e.1, decide (p.mark.IsAt e.2))

/-- The number in front of a line. -/
def gutter (p : SourceText) (number : Nat) : Span :=
  ⟨alignRight 4 (toString number) ++ " ",
    if p.marked?.map (fun t => t.location.line) = some number then
      { fg := some palette.secondary, bold := true }
    else { fg := some palette.comment }⟩

/-- The row of the line with the given number. -/
def row (p : SourceText) (number : Nat) (line : List Char) : Line :=
  p.gutter number :: highlight line (p.tokensOn number)

/-- The rows of a window. -/
def rows (p : SourceText) (offset height : Nat) : List Line :=
  ((window p.lines offset (visibleRows height)).zipIdx offset).map fun e => p.row (e.2 + 1) e.1

/-- Draws the pane. -/
def draw (p : SourceText) (s : Screen) (a : Area) (focused : Bool) (offset : Nat) : Screen :=
  (s.drawBorder a Pane.source.title focused).drawLines a.inner (p.rows offset a.height)

end SourceText

end LetInspector
