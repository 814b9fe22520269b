/-
**The inspector.**

The inspector shows a text, its tokens, and the program that was read from it.  One token is
selected and one pane has the focus.  Keys move the selection, the focus, and the window of the
pane that has the focus; moving the selection makes the windows follow it, and moving a window makes
them stop.

Main definitions:

* `LetInspector.Key` — the keys that are told apart;
* `LetInspector.Inspector`, `LetInspector.Inspector.ofSource` — the state, and where it starts;
* `LetInspector.Inspector.press` — the state after a key.
-/

import LetInspector.Program.Window
import LetInspector.Text.Quoted
import LetInspector.View.Pane

set_option autoImplicit false

namespace LetInspector

/-- The keys that are told apart.  `tab` and `backTab` move the focus, `left`, `right`, `home` and
`last` the selection, `up` and `down` the window of the pane with the focus; `other` is any key that
is none of these and no character. -/
inductive Key where
  | tab
  | backTab
  | left
  | right
  | home
  | last
  | up
  | down
  | escape
  | char (c : Char)
  | other
deriving DecidableEq

/-- The offsets of the three panes. -/
structure Scrolls where
  /-- The offset of the text. -/
  source : Nat := 0
  /-- The offset of the tokens. -/
  tokens : Nat := 0
  /-- The offset of the report on the program. -/
  program : Nat := 0
deriving DecidableEq

namespace Scrolls

/-- The offset of a pane. -/
def get (s : Scrolls) : Pane → Nat
  | .source => s.source
  | .tokens => s.tokens
  | .program => s.program

/-- Changes the offset of a pane. -/
def modify (s : Scrolls) (p : Pane) (f : Nat → Nat) : Scrolls :=
  match p with
  | .source => { s with source := f s.source }
  | .tokens => { s with tokens := f s.tokens }
  | .program => { s with program := f s.program }

@[simp] theorem get_modify_self (s : Scrolls) (p : Pane) (f : Nat → Nat) :
    (s.modify p f).get p = f (s.get p) := by
  cases p <;> rfl

theorem get_modify_of_ne {p q : Pane} (h : q ≠ p) (s : Scrolls) (f : Nat → Nat) :
    (s.modify p f).get q = s.get q := by
  cases p <;> cases q <;> simp_all [modify, get]

end Scrolls

/-- The state of the inspector. -/
structure Inspector where
  /-- The text. -/
  source : String
  /-- Its tokens, the end token included. -/
  tokens : List Token
  /-- What reading it as a program gave. -/
  outcome : Outcome
  /-- The place of the selected token. -/
  selected : Nat := 0
  /-- Whether the windows follow the selected token. -/
  followed : Bool := true
  /-- The pane that has the focus. -/
  focus : Pane := .source
  /-- The offsets of the panes. -/
  scrolls : Scrolls := {}
  /-- The most frequent kinds of tokens, with their counts. -/
  topKinds : List (Kind × Nat)
  /-- Whether the inspector is to be left. -/
  leaving : Bool := false
  /-- The message of the status bar. -/
  message : String
deriving DecidableEq

namespace Inspector

/-- How many kinds the status bar lists. -/
def topKindCount : Nat := 3

/-- The message before anything was selected. -/
def openingMessage (o : Outcome) : String :=
  if o.IsClean then "Parsed cleanly" else "Parsed with diagnostics"

/-- The message about a token. -/
def tokenMessage (t : Token) : String :=
  t.kind.name ++ " " ++ quote t.literal ++ " at " ++ t.location.describe

/-- The inspector opened on a text. -/
def ofSource (source : String) : Inspector where
  source := source
  tokens := tokenize source
  outcome := .ofSource source
  topKinds := (Histogram.ofTokens (tokenize source)).top topKindCount
  message := openingMessage (.ofSource source)

/-- The selected token. -/
def selectedToken? (s : Inspector) : Option Token := s.tokens[s.selected]?

/-- Selects the token at a place, or the last if there is none, and makes the windows follow it. -/
def select (s : Inspector) (i : Nat) : Inspector :=
  let place := min i (s.tokens.length - 1)
  { s with
    selected := place
    followed := true
    -- Without tokens there is nothing to say, and the old message stays.
    message := (s.tokens[place]?.map tokenMessage).getD s.message }

/-- Changes the offset of the pane that has the focus, and makes the windows stop following. -/
def scroll (s : Inspector) (f : Nat → Nat) : Inspector :=
  { s with followed := false, scrolls := s.scrolls.modify s.focus f }

/-- The state after a key. -/
def press (s : Inspector) : Key → Inspector
  | .tab => { s with focus := s.focus.next }
  | .backTab => { s with focus := s.focus.previous }
  | .left => s.select (s.selected - 1)
  | .right => s.select (offsetAdd s.selected 1)
  | .home => s.select 0
  | .last => s.select (s.tokens.length - 1)
  | .up => s.scroll (· - 1)
  | .down => s.scroll (offsetAdd · 1)
  | .escape => { s with leaving := true }
  | .char c => if c = 'q' ∨ c = 'Q' then { s with leaving := true } else s
  | .other => s

/-- The state after keys in turn. -/
def pressAll (s : Inspector) (keys : List Key) : Inspector := keys.foldl press s

end Inspector

end LetInspector
