/-
**A screen written row by row.**

A row is written as runs of text, each with the look that its cells share.  A cell that lies under
a wide symbol to its left is not written.  The cell behind a wide symbol is shown as if nothing had
been drawn on it; this is the next cell in the order in which rows follow each other, so behind the
last cell of a row it is the first of the next.

Main definitions:

* `LetInspector.Screen.shown?` — a cell as it is shown;
* `LetInspector.Screen.rowCells` — the cells of a row;
* `LetInspector.uncovered` — the cells of a row that no wide symbol covers;
* `LetInspector.joinRuns` — neighbouring cells of one look joined;
* `LetInspector.Screen.rows` — the written form of a screen.
-/

import LetInspector.Screen.Text

set_option autoImplicit false

namespace LetInspector

/-- Neighbouring symbols of one look. -/
structure Run where
  /-- The symbols, put together. -/
  text : List Char
  /-- The look that they share. -/
  look : Look
deriving DecidableEq

namespace Cell

/-- Whether the symbol of a cell takes more than this cell. -/
def IsWide (c : Cell) : Prop := 1 < clusterWidth c.symbol

instance (c : Cell) : Decidable c.IsWide := inferInstanceAs (Decidable (1 < clusterWidth c.symbol))

/-- The number of cells behind it that the symbol of a cell covers, as far as it can be counted. -/
def covers (c : Cell) : Nat := clusterWidth c.symbol % addressable - 1

end Cell

/-- The cells that no wide symbol to their left covers. -/
def uncovered (cells : List Cell) : List Cell :=
  go 0 cells
where
  /-- Goes on, with the number of cells that are covered yet. -/
  go (covered : Nat) : List Cell → List Cell
    | [] => []
    | c :: rest =>
      -- A wide symbol covers the cells behind it, whatever they hold.
      match covered with
      | 0 => c :: go c.covers rest
      | n + 1 => go n rest

/-- Puts a cell in front of runs. -/
def consRun (c : Cell) (runs : List Run) : List Run :=
  match runs with
  | r :: rest => if r.look = c.look then ⟨c.symbol ++ r.text, r.look⟩ :: rest
    else ⟨c.symbol, c.look⟩ :: r :: rest
  | [] => [⟨c.symbol, c.look⟩]

/-- Neighbouring cells of one look, joined. -/
def joinRuns (cells : List Cell) : List Run := cells.foldr consRun []

namespace Screen

/-- The cell before the one in a column and a row, if it has one. -/
def before? (s : Screen) (x y : Nat) : Option Cell :=
  match x, y with
  | x + 1, y => s.get? x y
  | 0, y + 1 => s.get? (s.width - 1) y
  | 0, 0 => none

/-- The cell in a column and a row as it is shown: empty if it is behind a wide symbol. -/
def shown? (s : Screen) (x y : Nat) : Option Cell :=
  if (s.before? x y).any fun c => c.IsWide then (s.get? x y).map fun _ => {} else s.get? x y

/-- The cells of a row as they are shown. -/
def rowCells (s : Screen) (y : Nat) : List Cell := (List.range s.width).filterMap (s.shown? · y)

/-- The runs of a row. -/
def row (s : Screen) (y : Nat) : List Run := joinRuns (uncovered (s.rowCells y))

/-- The runs of all rows, from top to bottom. -/
def rows (s : Screen) : List (List Run) := (List.range s.height).map s.row

end Screen

end LetInspector
