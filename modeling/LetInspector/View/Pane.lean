/-
**The panes of the inspector.**

There are three panes in a circle, and one of them has the focus.  The last row of the screen is the
status bar.  Above it the text is on the left; on the right the tokens are above the report on the
program.  Shares are percentages, rounded to the nearest whole cell, halves upwards; the second part
of a division gets what the first leaves.

A pane has a border with its title in the top edge.  The border of the pane that has the focus
stands out.  In an area too small for all of it, corners win over edges, and among the corners the
upper ones over the lower and the left ones over the right.

Inside the border a pane shows a window of its rows: so many rows from an offset on.  Before a pane
is drawn its offset is settled: if a row is followed, the window moves just far enough to show it;
then the window moves back, if it has to, so that it does not reach beyond the last row.  Offsets
have at most sixty-four binary digits, and sums that would leave that range stop at its end.

Main definitions:

* `LetInspector.Pane`, `LetInspector.Pane.next`, `LetInspector.Pane.previous` — the panes and their
  circle;
* `LetInspector.Layout.ofSize` — the areas on a screen of a given size;
* `LetInspector.palette`, `LetInspector.Kind.style` — the colours, and how tokens of a kind are
  shown;
* `LetInspector.Screen.drawBorder` — a border with its title;
* `LetInspector.lastOffset`, `LetInspector.offsetAdd` — the range of offsets, and sums within it;
* `LetInspector.visibleRows`, `LetInspector.window` — how many rows a pane of a height shows, and
  which;
* `LetInspector.reveal`, `LetInspector.confine`, `LetInspector.settle` — the two moves, and the
  offset that a pane is drawn with.

Main results:

* `LetInspector.settle_le` — a settled window does not reach beyond the last row.
-/

import LetInspector.Screen.Text
import LetInspector.Token.Basic

set_option autoImplicit false

namespace LetInspector

/-! ### The circle of panes -/

/-- The panes that can have the focus: the text, its tokens, and the report on its statements and
diagnostics. -/
inductive Pane where
  | source | tokens | program
deriving DecidableEq

namespace Pane

/-- The pane after a pane, and the first after the last. -/
def next : Pane → Pane
  | source => tokens
  | tokens => program
  | program => source

/-- The pane before a pane, and the last before the first. -/
def previous : Pane → Pane
  | source => program
  | tokens => source
  | program => tokens

/-- The title of a pane. -/
def title : Pane → String
  | source => " Source "
  | tokens => " Tokens "
  | program => " Program "

end Pane

/-! ### How the screen is divided -/

/-- The share of `n` that is `p` percent, rounded to the nearest number, halves upwards. -/
def percent (p n : Nat) : Nat := (p * n + 50) / 100

namespace Area

/-- An area divided into a left part with `p` percent of the columns and the rest. -/
def splitColumns (a : Area) (p : Nat) : Area × Area :=
  let left := percent p a.width
  (⟨a.x, a.y, left, a.height⟩, ⟨a.x + left, a.y, a.width - left, a.height⟩)

/-- An area divided into an upper part with `p` percent of the rows and the rest. -/
def splitRows (a : Area) (p : Nat) : Area × Area :=
  let upper := percent p a.height
  (⟨a.x, a.y, a.width, upper⟩, ⟨a.x, a.y + upper, a.width, a.height - upper⟩)

end Area

/-- Where everything is on a screen. -/
structure Layout where
  /-- The area of the text. -/
  source : Area
  /-- The area of the tokens. -/
  tokens : Area
  /-- The area of the report on the program. -/
  program : Area
  /-- The area of the status bar. -/
  statusBar : Area
deriving DecidableEq

namespace Layout

/-- The areas on a screen of the given size. -/
def ofSize (width height : Nat) : Layout :=
  let panes : Area := ⟨0, 0, width, height - 1⟩
  let columns := panes.splitColumns 55
  let right := columns.2.splitRows 60
  { source := columns.1
    tokens := right.1
    program := right.2
    statusBar := ⟨0, height - 1, width, min height 1⟩ }

end Layout

/-! ### Colours -/

/-- The colours, by what they are for. -/
structure Palette where
  /-- Plain text. -/
  text : Color
  /-- What stands out. -/
  primary : Color
  /-- What stands out beside it. -/
  secondary : Color
  /-- What stays in the background. -/
  comment : Color
  /-- Good news. -/
  success : Color
  /-- Bad news. -/
  error : Color
  /-- Reserved words. -/
  keyword : Color
  /-- Numerals. -/
  number : Color
  /-- Operators. -/
  operator : Color
  /-- Brackets, commas and semicolons. -/
  delimiter : Color
  /-- The border of the pane that has the focus. -/
  focusedBorder : Color
  /-- The border of any other pane. -/
  plainBorder : Color
  /-- The ground of the status bar. -/
  bar : Color
  /-- The ground of what is selected. -/
  selection : Color
deriving DecidableEq

/-- The colours in use. -/
def palette : Palette where
  text := .rgb 205 214 244
  primary := .rgb 137 180 250
  secondary := .rgb 250 179 135
  comment := .rgb 108 112 134
  success := .rgb 166 227 161
  error := .rgb 243 139 168
  keyword := .rgb 203 166 247
  number := .rgb 250 179 135
  operator := .rgb 148 226 213
  delimiter := .rgb 137 180 250
  focusedBorder := .rgb 249 226 175
  plainBorder := .rgb 108 112 134
  bar := .rgb 50 50 70
  selection := .rgb 69 71 90

/-- How tokens of a kind are shown. -/
def Kind.style (k : Kind) : Style :=
  match k with
  | .illegal => { fg := some palette.error, underlined := true }
  | .eof => { fg := some palette.comment }
  | .ident => { fg := some palette.text }
  | .int => { fg := some palette.number }
  | .comma | .semicolon | .lparen | .rparen | .lbrace | .rbrace => { fg := some palette.delimiter }
  | k =>
    if k.isKeyword then { fg := some palette.keyword, bold := true }
    else { fg := some palette.operator }

/-- How places are shown. -/
def placeStyle : Style := { fg := some palette.comment }

/-- The ground of what is selected. -/
def selectedStyle : Style := { bg := some palette.selection, bold := true }

/-- The style with what is selected laid over it. -/
def Style.selected (s : Style) : Style := { s with bg := some palette.selection, bold := true }

/-! ### Borders -/

/-- How a border is shown. -/
def borderStyle (focused : Bool) : Style :=
  if focused then { fg := some palette.focusedBorder, bold := true }
  else { fg := some palette.plainBorder }

namespace Screen

/-- Puts one symbol into each of the given cells. -/
def drawSymbol (s : Screen) (symbol : Char) (style : Style) (places : List (Nat × Nat)) : Screen :=
  places.foldl (fun s p => s.modify p.1 p.2 (Cell.put [symbol] style)) s

/-- Draws the border of a pane around the part of an area that is on the screen. -/
def drawBorder (s : Screen) (area : Area) (title : String) (focused : Bool) : Screen :=
  let a := s.clip area
  if a.width = 0 ∨ a.height = 0 then s
  else
    let style := borderStyle focused
    let right := a.x + a.width - 1
    let bottom := a.y + a.height - 1
    let columns := (List.range a.width).map (a.x + ·)
    let rows := (List.range a.height).map (a.y + ·)
    -- Where symbols share a cell the last one stays, so the order matters in small areas.
    let s := s.drawSymbol '│' style (rows.map (a.x, ·))
    let s := s.drawSymbol '─' style (columns.map (·, a.y))
    let s := s.drawSymbol '│' style (rows.map (right, ·))
    let s := s.drawSymbol '─' style (columns.map (·, bottom))
    let s := s.drawSymbol '┘' style [(right, bottom)]
    let s := s.drawSymbol '┐' style [(right, a.y)]
    let s := s.drawSymbol '└' style [(a.x, bottom)]
    let s := s.drawSymbol '┌' style [(a.x, a.y)]
    s.drawLine ⟨a.x + 1, a.y, a.width - 2, 1⟩ [⟨title, {}⟩]

end Screen

/-! ### Windows of rows -/

/-- The largest offset, with sixty-four binary digits. -/
def lastOffset : Nat := 0xFFFFFFFFFFFFFFFF

/-- The sum of two offsets, or the largest offset if the sum is larger. -/
def offsetAdd (a b : Nat) : Nat := min (a + b) lastOffset

/-- The number of rows that a pane of the given height shows: those inside its border, and never
less than one. -/
def visibleRows (height : Nat) : Nat := max 1 (height - 2)

/-- The offset nearest to `offset` whose window of `visible` rows shows `row`. -/
def reveal (offset visible row : Nat) : Nat :=
  if row < offset then row
  else if offsetAdd offset visible ≤ row then row + 1 - visible
  else offset

/-- The offset nearest to `offset` whose window does not reach beyond the last of `total` rows. -/
def confine (offset total visible : Nat) : Nat :=
  if visible < total then min offset (total - visible) else 0

/-- The offset that a pane of `total` rows is drawn with. -/
def settle (offset total visible : Nat) (followed : Option Nat) : Nat :=
  match followed with
  | none => confine offset total visible
  | some row => confine (reveal offset visible row) total visible

/-- The rows that a window shows. -/
def window {α : Type} (rows : List α) (offset visible : Nat) : List α :=
  (rows.drop offset).take visible

theorem confine_le (offset total visible : Nat) :
    confine offset total visible ≤ total - visible := by
  unfold confine
  split <;> omega

/-- A settled window does not reach beyond the last row. -/
theorem settle_le (offset total visible : Nat) (followed : Option Nat) :
    settle offset total visible followed ≤ total - visible := by
  unfold settle
  split <;> exact confine_le _ _ _

end LetInspector
