/-
**What is said about the text.**

Three parts of the screen say what was found in the text: the list of the tokens, the report on the
program, and the status bar.

Each row of the list is a token: its place, its kind and its literal.  The row of the selected token
is shown as selected over its whole width.

The rows of the report are the statements, an empty row, and the diagnostics under a heading.  Where
there are none of them a row says so.  The first row that is drawn is the offset of the pane reduced
modulo the number of rows that a screen can count.

The left half of the status bar counts: which token is selected, how many diagnostics there are, and
which kinds of tokens are the most frequent; then comes a message.  The right half names the keys.
Both halves are cut at their end where they do not fit.

Main definitions:

* `LetInspector.TokenTable`, `LetInspector.TokenTable.rows` — the list of the tokens and its rows;
* `LetInspector.TokenTable.offset`, `LetInspector.TokenTable.draw` — its offset and its drawing;
* `LetInspector.Outcome.report` — the rows of the report;
* `LetInspector.ProgramReport.offset`, `LetInspector.ProgramReport.draw` — its offset and its
  drawing;
* `LetInspector.StatusBar`, `LetInspector.StatusBar.summary`, `LetInspector.StatusBar.help` — the
  status bar and its two texts;
* `LetInspector.StatusBar.draw` — its drawing.
-/

import LetInspector.Program.Basic
import LetInspector.Text.Quoted
import LetInspector.View.Pane

set_option autoImplicit false

namespace LetInspector

/-! ### The list of the tokens -/

/-- A place in the columns that lists reserve for it. -/
def Location.cell (l : Location) : String :=
  alignRight 4 (toString l.line) ++ ":" ++ alignLeft 3 (toString l.column) ++ " "

/-- A row of the list. -/
structure TokenRow where
  /-- The text of the row. -/
  line : Line
  /-- Whether the row is that of the selected token. -/
  selected : Bool
deriving DecidableEq

namespace TokenRow

/-- The row of a token. -/
def ofToken (t : Token) (selected : Bool) : TokenRow where
  line := [⟨t.location.cell, placeStyle⟩, ⟨alignLeft 10 t.kind.name, t.kind.style⟩,
    ⟨quote t.literal, { fg := some palette.text }⟩]
  selected := selected

/-- Draws a row. -/
def draw (s : Screen) (a : Area) (r : TokenRow) : Screen :=
  (if r.selected then s.paint a selectedStyle else s).drawEntry a r.line

end TokenRow

/-- What the pane shows. -/
structure TokenTable where
  /-- The tokens. -/
  tokens : List Token
  /-- The place of the selected token in the list. -/
  selected : Nat
  /-- Whether the window follows the selected token. -/
  followed : Bool

namespace TokenTable

/-- The row that the window follows. -/
def followedRow? (p : TokenTable) : Option Nat := if p.followed then some p.selected else none

/-- The offset that the pane is drawn with. -/
def offset (p : TokenTable) (scroll height : Nat) : Nat :=
  settle scroll p.tokens.length (visibleRows height) p.followedRow?

/-- The rows of a window. -/
def rows (p : TokenTable) (offset height : Nat) : List TokenRow :=
  ((window p.tokens offset (visibleRows height)).zipIdx offset).map fun e =>
    .ofToken e.1 (decide (e.2 = p.selected))

/-- Draws the pane. -/
def draw (p : TokenTable) (s : Screen) (a : Area) (focused : Bool) (offset : Nat) : Screen :=
  Screen.drawRows TokenRow.draw (s.drawBorder a Pane.tokens.title focused) a.inner
    (p.rows offset a.height)

end TokenTable

/-! ### The report on the program -/

/-- The row of a statement. -/
def LetStatement.row (s : LetStatement) : Line :=
  [⟨s.token.location.cell, placeStyle⟩, ⟨"Let ", { fg := some palette.keyword, bold := true }⟩,
    ⟨s.display, { fg := some palette.text }⟩]

/-- The row of a diagnostic. -/
def Diagnostic.row (d : Diagnostic) : Line :=
  [⟨d.location.cell, placeStyle⟩, ⟨d.message, { fg := some palette.error }⟩]

/-- The text that counts diagnostics. -/
def diagnosticCount (n : Nat) : String := s!"{n} diagnostic(s)"

namespace Outcome

/-- The rows on the statements. -/
def statementRows (o : Outcome) : List Line :=
  if o.program.statements = [] then [[⟨"(no statements)", { fg := some palette.comment }⟩]]
  else o.program.statements.map LetStatement.row

/-- The rows on the diagnostics. -/
def diagnosticRows (o : Outcome) : List Line :=
  if o.IsClean then [[⟨"No diagnostics", { fg := some palette.success }⟩]]
  else
    [⟨diagnosticCount o.diagnostics.length, { fg := some palette.error, bold := true }⟩] ::
      o.diagnostics.map Diagnostic.row

/-- All rows of the pane. -/
def report (o : Outcome) : List Line := o.statementRows ++ [[]] ++ o.diagnosticRows

end Outcome

namespace ProgramReport

/-- The offset that the pane is drawn with. -/
def offset (o : Outcome) (scroll height : Nat) : Nat :=
  settle scroll o.report.length (visibleRows height) none

/-- The rows from the first that is drawn. -/
def rowsFrom (o : Outcome) (offset : Nat) : List Line := o.report.drop (offset % addressable)

/-- Draws the pane. -/
def draw (o : Outcome) (s : Screen) (a : Area) (focused : Bool) (offset : Nat) : Screen :=
  (s.drawBorder a Pane.program.title focused).drawLines a.inner (rowsFrom o offset)

end ProgramReport

/-! ### The status bar -/

/-- What the status bar shows. -/
structure StatusBar where
  /-- The message. -/
  message : String
  /-- The place of the selected token, counted from zero. -/
  selected : Nat
  /-- The number of tokens. -/
  tokenCount : Nat
  /-- The number of diagnostics. -/
  diagnosticCount : Nat
  /-- The most frequent kinds, with their counts. -/
  topKinds : List (Kind × Nat)

namespace StatusBar

/-- The ground of the bar. -/
def ground : Style := { bg := some palette.bar }

/-- Text of the given colour on the ground of the bar. -/
def onGround (c : Color) : Style := { fg := some c, bg := some palette.bar }

/-- The text of the left half. -/
def summary (b : StatusBar) : Line :=
  let verdict := if 0 < b.diagnosticCount then palette.error else palette.success
  let badge := if 0 < b.diagnosticCount then palette.error else palette.primary
  [⟨s!" Token {b.selected + 1}/{b.tokenCount} ",
      { fg := some .black, bg := some badge, bold := true }⟩,
    ⟨" | ", onGround palette.comment⟩,
    ⟨LetInspector.diagnosticCount b.diagnosticCount, onGround verdict⟩,
    ⟨" | ", onGround palette.comment⟩] ++
  b.topKinds.map (fun e => ⟨e.1.name ++ " ×" ++ toString e.2 ++ " ", onGround palette.secondary⟩) ++
  [⟨" " ++ b.message ++ " ", onGround palette.text⟩]

/-- The name of a key. -/
def key (name : String) : Span := ⟨name, { fg := some .black, bg := some palette.comment }⟩

/-- What a key does. -/
def keyUse (text : String) : Span := ⟨text, onGround palette.text⟩

/-- What stands between two keys. -/
def divider : List Span := [⟨"│", onGround palette.comment⟩, keyUse " "]

/-- The text of the right half. -/
def help : Line :=
  [key " ←/→ ", keyUse " token "] ++ divider ++ [key " ↑/↓ ", keyUse " scroll "] ++ divider ++
  [key " ⇥ ", keyUse " focus "] ++ divider ++ [key "q", keyUse " quit "]

/-- Draws the bar. -/
def draw (b : StatusBar) (s : Screen) (a : Area) : Screen :=
  let halves := a.splitColumns 50
  let s := Screen.drawRows Screen.drawLine (s.paint halves.1 ground) halves.1 [b.summary]
  Screen.drawRows Screen.drawLineRight (s.paint halves.2 ground) halves.2 [help]

end StatusBar

end LetInspector
