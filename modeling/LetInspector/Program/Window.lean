/-
**Reading a program through a window of two tokens.**

The reader sees two tokens, the current one and the one after it, and moves over the text one token
at a time.  It looks for `let`; then a name and `=` have to follow, and everything from there up to
the next semicolon is the value, which is passed over.  If the name or the `=` is missing, the
reader notes what stood there instead and goes on from that token.

Main definitions:

* `LetInspector.Window` — the two tokens, the cursor behind them, and how often the window moved;
* `LetInspector.Window.letStatement` — one statement, or the diagnostic for it;
* `LetInspector.Window.readProgram` — everything from the current token on;
* `LetInspector.Outcome.ofCursor`, `LetInspector.Outcome.ofSource` — the outcome of what is left of
  a text, and of a whole text.

Main results:

* `LetInspector.Window.weight_move_lt` — a move off any token but the end token brings the end
  nearer, so the reader stops on every text.
-/

import LetInspector.Program.Basic
import LetInspector.Token.Cursor

set_option autoImplicit false

namespace LetInspector

/-- Two neighbouring tokens and the text behind them. -/
structure Window where
  /-- The token under examination. -/
  current : Token
  /-- The token after it. -/
  upcoming : Token
  /-- The text behind both. -/
  cursor : Cursor
  /-- How many tokens the window has moved by. -/
  moves : Nat := 0
deriving DecidableEq

namespace Window

/-- The window over the next two tokens. -/
def ofCursor (c : Cursor) : Window :=
  { current := c.next.1, upcoming := c.next.2.next.1, cursor := c.next.2.next.2 }

/-- Moves the window by one token. -/
def move (w : Window) : Window :=
  ⟨w.upcoming, w.cursor.next.1, w.cursor.next.2, w.moves + 1⟩

/-- Moves the window onto the next token if it is of the given kind. -/
def expect (w : Window) (k : Kind) : Except Diagnostic Window :=
  if w.upcoming.kind = k then .ok w.move
  else .error ⟨k, w.upcoming.kind, w.upcoming.location⟩

/-! ### Every move brings the end nearer -/

/-- What a token counts for: nothing at the end of the text. -/
def tokenWeight (t : Token) : Nat := if t.kind = .eof then 0 else 1

/-- A bound on the number of tokens in and behind the window. -/
def weight (w : Window) : Nat :=
  tokenWeight w.current + tokenWeight w.upcoming + w.cursor.rest.length

theorem tokenWeight_le_one (t : Token) : tokenWeight t ≤ 1 := by
  unfold tokenWeight
  split <;> omega

theorem tokenWeight_next_add_le (c : Cursor) :
    tokenWeight c.next.1 + c.next.2.rest.length ≤ c.rest.length := by
  by_cases h : c.next.1.kind = .eof
  · have := c.rest_length_next_le
    simp only [tokenWeight, h, ↓reduceIte]
    omega
  · have := Cursor.rest_length_next_lt h
    have := tokenWeight_le_one c.next.1
    omega

theorem weight_move_le (w : Window) : w.move.weight ≤ w.weight := by
  have := tokenWeight_next_add_le w.cursor
  simp only [weight, move]
  omega

/-- A move off any token but the end token brings the end nearer. -/
theorem weight_move_lt {w : Window} (h : w.current.kind ≠ .eof) : w.move.weight < w.weight := by
  have := tokenWeight_next_add_le w.cursor
  have hone : tokenWeight w.current = 1 := by simp [tokenWeight, h]
  simp only [weight, move, hone]
  omega

theorem eq_move_of_expect_eq_ok {w v : Window} {k : Kind} (h : w.expect k = .ok v) :
    v = w.move := by
  unfold expect at h
  split at h
  · exact (Except.ok.inj h).symm
  · cases h

/-! ### One statement -/

/-- Moves the window up to the next semicolon, or to the end of the text. -/
def skipValue (w : Window) : Window :=
  if w.current.kind = .semicolon ∨ w.current.kind = .eof then w else w.move.skipValue
termination_by w.weight
decreasing_by exact weight_move_lt (fun h => by simp_all)

/-- The statement that the current token opens, or the diagnostic for it, and where the window then
stands. -/
def letStatement (w : Window) : Except Diagnostic LetStatement × Window :=
  match w.expect .ident with
  -- After a diagnostic the window is in front of the token that stood in the way, and that token
  -- may open a statement itself.
  | .error d => (.error d, w)
  | .ok named =>
    match named.expect .assign with
    | .error d => (.error d, named)
    | .ok assigned => (.ok ⟨w.current, .ofToken named.current, none⟩, assigned.skipValue)

theorem weight_skipValue_le (w : Window) : w.skipValue.weight ≤ w.weight := by
  fun_induction skipValue w with
  | case1 w h => exact Nat.le_refl _
  | case2 w h ih => exact Nat.le_trans ih (weight_move_le w)

/-- A statement, whether found or not, leaves the window no further from the end; and the move
behind it brings the end nearer. -/
theorem weight_move_letStatement_lt {w : Window} (h : w.current.kind ≠ .eof) :
    w.letStatement.2.move.weight < w.weight := by
  have hw := weight_move_lt h
  unfold letStatement
  split
  · exact hw
  · next named hnamed =>
    obtain rfl := eq_move_of_expect_eq_ok hnamed
    split
    · exact Nat.lt_of_le_of_lt (weight_move_le _) hw
    · next assigned hassigned =>
      obtain rfl := eq_move_of_expect_eq_ok hassigned
      exact Nat.lt_of_le_of_lt (Nat.le_trans (weight_move_le _)
        (Nat.le_trans (weight_skipValue_le _) (weight_move_le _))) hw

/-! ### The whole text -/

/-- Reads everything from the current token on: the outcome, and the window at the end. -/
def readProgram (w : Window) : Outcome × Window :=
  go w [] []
where
  /-- Reads on, with the statements and diagnostics found so far in reverse. -/
  go (w : Window) (statements : List LetStatement) (diagnostics : List Diagnostic) :
      Outcome × Window :=
    if w.current.kind = .eof then (⟨⟨statements.reverse⟩, diagnostics.reverse⟩, w)
    else if w.current.kind = .letWord then
      let found := w.letStatement
      match found.1 with
      | .ok s => go found.2.move (s :: statements) diagnostics
      | .error d => go found.2.move statements (d :: diagnostics)
    else go w.move statements diagnostics
  termination_by w.weight
  decreasing_by
    · exact weight_move_letStatement_lt (by assumption)
    · exact weight_move_letStatement_lt (by assumption)
    · exact weight_move_lt (by assumption)

end Window

namespace Outcome

/-- The outcome of what is left of a text. -/
def ofCursor (c : Cursor) : Outcome := (Window.ofCursor c).readProgram.1

/-- The outcome of a text. -/
def ofSource (source : String) : Outcome := ofCursor (.ofSource source)

end Outcome

end LetInspector
