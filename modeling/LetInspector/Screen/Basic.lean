/-
**Screens of cells.**

A screen is a grid of cells, each with a symbol and a look.  Everything is drawn by changing cells;
a change outside the grid does nothing.  A screen has no more cells than sixteen binary digits can
number; a larger one that is asked for is made smaller in proportion.

The look of a cell is two colours and two marks.  A style is a change to a look: it replaces the
colours that it names and sets the marks that it names.

Main definitions:

* `LetInspector.Color`, `LetInspector.Look` — a colour and a look, each with its written form;
* `LetInspector.Style`, `LetInspector.Look.add` — a change to a look, and a look so changed;
* `LetInspector.Cell`, `LetInspector.Screen`, `LetInspector.Screen.blank`;
* `LetInspector.Screen.get?`, `LetInspector.Screen.modify` — one cell read and changed;
* `LetInspector.Area` — a rectangle of cells;
* `LetInspector.Screen.paint`, `LetInspector.Screen.clip` — a style laid over an area, and the part
  of an area that is on the screen;
* `LetInspector.gridSize`, `LetInspector.Screen.ofSize` — the size that a screen gets.
-/

import LetInspector.Text.Cluster

set_option autoImplicit false

namespace LetInspector

/-! ### Colours and styles -/

/-- A colour of a cell: the one that the terminal chooses, the black of the terminal, or one given
by its parts. -/
inductive Color where
  | unset
  | black
  | rgb (red green blue : UInt8)
deriving DecidableEq

namespace Color

/-- Two hexadecimal digits. -/
def hexPair (n : UInt8) : String :=
  let digits := Nat.toDigits 16 n.toNat
  String.ofList (List.replicate (2 - digits.length) '0' ++ digits)

/-- The written form of a colour. -/
def name : Color → String
  | unset => "-"
  | black => "black"
  | rgb r g b => "#" ++ hexPair r ++ hexPair g ++ hexPair b

end Color

/-- The look of a cell. -/
structure Look where
  /-- The colour of the symbol. -/
  fg : Color := .unset
  /-- The colour behind the symbol. -/
  bg : Color := .unset
  /-- Whether the symbol is bold. -/
  bold : Bool := false
  /-- Whether the symbol is underlined. -/
  underlined : Bool := false
deriving DecidableEq

/-- A change to a look. -/
structure Style where
  /-- The new colour of the symbol, if it changes. -/
  fg : Option Color := none
  /-- The new colour behind the symbol, if it changes. -/
  bg : Option Color := none
  /-- Whether the symbol becomes bold. -/
  bold : Bool := false
  /-- Whether the symbol becomes underlined. -/
  underlined : Bool := false
deriving DecidableEq

namespace Look

/-- The look after a change. -/
def add (l : Look) (s : Style) : Look where
  fg := s.fg.getD l.fg
  bg := s.bg.getD l.bg
  bold := l.bold || s.bold
  underlined := l.underlined || s.underlined

/-- The written form of the marks of a look. -/
def marks (l : Look) : String :=
  (if l.bold then "B" else "") ++ (if l.underlined then "U" else "")

/-- The written form of a look: both colours, and the marks if there are any. -/
def name (l : Look) : String :=
  l.fg.name ++ " " ++ l.bg.name ++ (if l.marks = "" then "" else " " ++ l.marks)

end Look

/-! ### Cells and grids -/

/-- One cell of a screen. -/
structure Cell where
  /-- The symbol that the cell holds. -/
  symbol : Cluster := [' ']
  /-- The look of the cell. -/
  look : Look := {}
deriving DecidableEq

namespace Cell

/-- The cell with a style laid over it. -/
def restyle (s : Style) (c : Cell) : Cell := { c with look := c.look.add s }

/-- The cell with another symbol and a style laid over it. -/
def put (symbol : Cluster) (s : Style) (c : Cell) : Cell := ⟨symbol, c.look.add s⟩

/-- The cell with more behind its symbol and a style laid over it. -/
def append (symbol : Cluster) (s : Style) (c : Cell) : Cell := ⟨c.symbol ++ symbol, c.look.add s⟩

end Cell

/-- The largest number of cells of a grid. -/
def gridLimit : Nat := 0xFFFF

/-- The columns and rows of the grid that is made when so many are asked for.  A grid that would
have too many cells is made smaller and keeps its proportion, which is taken as a binary number of
double precision; parts of columns and rows are dropped. -/
def gridSize (width height : Nat) : Nat × Nat :=
  if width * height ≤ gridLimit then (width, height)
  else
    let proportion := Float.ofNat width / Float.ofNat height
    let rows := Float.sqrt (Float.ofNat gridLimit / proportion)
    ((rows * proportion).toUInt64.toNat, rows.toUInt64.toNat)

/-- A rectangle of cells. -/
structure Area where
  /-- The first column. -/
  x : Nat
  /-- The first row. -/
  y : Nat
  /-- The number of columns. -/
  width : Nat
  /-- The number of rows. -/
  height : Nat
deriving DecidableEq

namespace Area

/-- The rectangle at a place, of the size that is made when so many columns and rows are asked
for. -/
def ofSize (x y width height : Nat) : Area :=
  ⟨x, y, (gridSize width height).1, (gridSize width height).2⟩

/-- The rectangle without its outermost cells. -/
def inner (a : Area) : Area := ⟨a.x + 1, a.y + 1, a.width - 2, a.height - 2⟩

end Area

/-- A grid of cells, row by row. -/
structure Screen where
  /-- The number of columns. -/
  width : Nat
  /-- The number of rows. -/
  height : Nat
  /-- The cells, row after row. -/
  cells : Array Cell
  /-- There is a cell for each place. -/
  size_eq : cells.size = width * height

namespace Screen

/-- The screen on which nothing is drawn. -/
def blank (width height : Nat) : Screen where
  width := width
  height := height
  cells := Array.replicate (width * height) {}
  size_eq := by simp

/-- The screen that is made when so many columns and rows are asked for. -/
def ofSize (width height : Nat) : Screen :=
  blank (gridSize width height).1 (gridSize width height).2

/-- The whole of a screen. -/
def area (s : Screen) : Area := ⟨0, 0, s.width, s.height⟩

/-- The part of an area that is on the screen. -/
def clip (s : Screen) (a : Area) : Area :=
  ⟨a.x, a.y, min a.width (s.width - a.x), min a.height (s.height - a.y)⟩

/-- The cell in a column and a row. -/
def get? (s : Screen) (x y : Nat) : Option Cell :=
  if x < s.width then s.cells[y * s.width + x]? else none

/-- Changes the cell in a column and a row. -/
def modify (s : Screen) (x y : Nat) (f : Cell → Cell) : Screen :=
  if x < s.width then
    { s with cells := s.cells.modify (y * s.width + x) f
             size_eq := by simp [s.size_eq] }
  else s

/-- Lays a style over an area. -/
def paint (s : Screen) (a : Area) (style : Style) : Screen :=
  (List.range a.height).foldl
    (fun s j => (List.range a.width).foldl
      (fun s i => s.modify (a.x + i) (a.y + j) (Cell.restyle style)) s) s

end Screen

end LetInspector
