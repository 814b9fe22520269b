/-
**Lines of styled text.**

A line is a list of spans, each a text in one style.  On a screen a line becomes glyphs, one for
each cluster of a span.  Columns and rows are counted with sixteen binary digits, so a glyph of more
cells than these can count goes forward by what is left of its width.

There are two ways to put a line into a row.  In running text only so many glyphs are shown as fit:
glyphs without width are left out, so are glyphs wider than all the room there is, and the first one
that no longer fits ends the line; a cell that a wide glyph covers keeps what it held.  In the row
of a list each span is put behind the one before it, a glyph without width is added to the symbol
before it, and a cell that a wide glyph covers is emptied.

Main definitions:

* `LetInspector.Span`, `LetInspector.Line` — styled text;
* `LetInspector.Glyph`, `LetInspector.Line.glyphs` — one styled symbol, and those of a line;
* `LetInspector.Glyph.width`, `LetInspector.Glyph.advance` — the cells that a glyph takes, and the
  columns that it goes forward;
* `LetInspector.fitGlyphs` — the glyphs that fit;
* `LetInspector.Screen.drawGlyphs`, `LetInspector.Screen.drawLine`,
  `LetInspector.Screen.drawLineRight` — a line of running text;
* `LetInspector.Screen.drawSpan`, `LetInspector.Screen.drawEntry` — the row of a list;
* `LetInspector.Screen.drawRows`, `LetInspector.Screen.drawLines` — rows one below the other.
-/

import LetInspector.Screen.Basic
import LetInspector.Text.Width

set_option autoImplicit false

namespace LetInspector

/-! ### Spans and glyphs -/

/-- A text in one style. -/
structure Span where
  /-- The text. -/
  text : String
  /-- The style. -/
  style : Style := {}
deriving DecidableEq

/-- A line of styled text. -/
abbrev Line := List Span

/-- A styled symbol. -/
structure Glyph where
  /-- The symbol. -/
  symbol : Cluster
  /-- The style. -/
  style : Style
deriving DecidableEq

/-- The number of columns, and of rows, that a screen can count. -/
def addressable : Nat := 0x10000

theorem addressable_pos : 0 < addressable := by decide

/-- The number of cells that a glyph takes. -/
def Glyph.width (g : Glyph) : Nat := clusterWidth g.symbol

/-- The number of columns between the place of a glyph and that of the next. -/
def Glyph.advance (g : Glyph) : Nat := g.width % addressable

/-- The glyphs of a span: its clusters in its style, without line feeds. -/
def Span.glyphs (span : Span) : List Glyph :=
  ((clusters span.text.toList).filter (· ≠ ['\n'])).map fun k => ⟨k, span.style⟩

/-- The glyphs of a line.  No glyph reaches from one span into the next. -/
def Line.glyphs (line : Line) : List Glyph := line.flatMap Span.glyphs

/-- The text of a line. -/
def Line.text (line : Line) : String := String.join (line.map Span.text)

@[simp] theorem Line.text_nil : Line.text [] = "" := rfl

@[simp] theorem Line.text_cons (x : Span) (line : Line) :
    Line.text (x :: line) = x.text ++ Line.text line := by
  rw [Line.text, List.map_cons, String.join_cons, Line.text]

@[simp] theorem Line.text_append (line other : Line) :
    Line.text (line ++ other) = Line.text line ++ Line.text other := by
  rw [Line.text, List.map_append, String.join_append, Line.text, Line.text]

/-- The number of columns that glyphs go forward. -/
def glyphsAdvance : List Glyph → Nat
  | [] => 0
  | g :: rest => g.advance + glyphsAdvance rest

/-- The glyphs that fit into `width` columns, of which `used` are taken. -/
def fitGlyphsFrom (width used : Nat) : List Glyph → List Glyph
  | [] => []
  | g :: rest =>
    if g.width = 0 ∨ width < g.advance then fitGlyphsFrom width used rest
    else if width < used + g.advance then []
    else g :: fitGlyphsFrom width (used + g.advance) rest

/-- The glyphs that fit into `width` columns. -/
def fitGlyphs (width : Nat) (glyphs : List Glyph) : List Glyph := fitGlyphsFrom width 0 glyphs

namespace Screen

/-! ### Running text -/

/-- Puts glyphs side by side from a cell on.  A cell that a wide glyph covers keeps what it held. -/
def drawGlyphs (s : Screen) (x y : Nat) : List Glyph → Screen
  | [] => s
  | g :: rest => drawGlyphs (s.modify x y (Cell.put g.symbol g.style)) (x + g.advance) y rest

/-- Puts as much of a line as fits into the first row of an area. -/
def drawLine (s : Screen) (a : Area) (line : Line) : Screen :=
  s.drawGlyphs a.x a.y (fitGlyphs a.width line.glyphs)

/-- Puts as much of a line as fits into the first row of an area, up against its right end. -/
def drawLineRight (s : Screen) (a : Area) (line : Line) : Screen :=
  let shown := fitGlyphs a.width line.glyphs
  s.drawGlyphs (a.x + (a.width - glyphsAdvance shown)) a.y shown

/-! ### Rows of lists -/

/-- Empties so many cells of a row from a column on. -/
def erase (s : Screen) (x y count : Nat) : Screen :=
  (List.range count).foldl (fun s i => s.modify (x + i) y fun _ => {}) s

/-- Puts glyphs behind the first one of a span that begins at column `start`, as far as they end
before column `stop`. -/
def drawBehind (s : Screen) (start stop x y : Nat) : List Glyph → Screen
  | [] => s
  | g :: rest =>
    if stop < x + g.advance then s
    else
      let drawn :=
        -- As long as nothing in the span has width all of it is in its first cell.
        if x = start then s.modify x y (Cell.append g.symbol g.style)
        else if g.width = 0 then s.modify (x - 1) y (Cell.append g.symbol g.style)
        else s.modify x y (Cell.put g.symbol g.style)
      drawBehind (drawn.erase (x + 1) y (g.advance - 1)) start stop (x + g.advance) y rest

/-- Puts a span into a row from a column on, as far as it ends before column `stop`. -/
def drawSpan (s : Screen) (stop x y : Nat) (span : Span) : Screen :=
  match span.glyphs with
  | [] => s
  | g :: rest =>
    if stop < x + g.advance then s
    else
      let drawn := s.modify x y (Cell.put g.symbol g.style)
      drawBehind (drawn.erase (x + 1) y (g.advance - 1)) x stop (x + g.advance) y rest

/-- Puts spans one behind the other into a row from a column on, up to column `stop`. -/
def drawSpans (s : Screen) (stop x y : Nat) : Line → Screen
  | [] => s
  | span :: rest =>
    if stop ≤ x then s
    else drawSpans (s.drawSpan stop x y span) stop (x + glyphsAdvance span.glyphs) y rest

/-- Puts a line into the first row of an area, as the row of a list. -/
def drawEntry (s : Screen) (a : Area) (line : Line) : Screen :=
  let shown := s.clip a
  s.drawSpans (shown.x + shown.width) shown.x shown.y line

/-! ### Rows one below the other -/

/-- Draws the lines that fit into an area, one a row, each as `drawRow` draws it. -/
def drawRows {α : Type} (drawRow : Screen → Area → α → Screen) (s : Screen) (a : Area)
    (rows : List α) : Screen :=
  ((rows.take a.height).zipIdx).foldl
    (fun s row => drawRow s ⟨a.x, a.y + row.2, a.width, 1⟩ row.1) s

/-- Draws the lines that fit into an area, one a row. -/
def drawLines (s : Screen) (a : Area) (lines : List Line) : Screen := drawRows drawLine s a lines

end Screen

end LetInspector
