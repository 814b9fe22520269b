/-
**The frames of the inspector, and its run.**

Drawing a frame settles the offsets of the three panes for the size of the screen, and keeps them.
Nothing else of the state changes, and what is drawn depends on the settled state alone.

Keys are pressed and frames are drawn, in any order and any number of times; the size of the screen
may change from frame to frame.  On the terminal they come in rounds: a frame, and then a key if one
is pressed in time, until the inspector is left.

Main definitions:

* `LetInspector.Inspector.settled` — the state with its offsets settled;
* `LetInspector.Inspector.draw` — the screen of a settled state;
* `LetInspector.Inspector.render` — both;
* `LetInspector.Action` — a key, or a frame;
* `LetInspector.Inspector.perform`, `LetInspector.Inspector.performAll` — the state after one of
  them, and after many;
* `LetInspector.Round`, `LetInspector.Inspector.loop` — **the loop on the terminal**.
-/

import LetInspector.Inspector.Basic
import LetInspector.View.Report
import LetInspector.View.SourceText

set_option autoImplicit false

namespace LetInspector

namespace Inspector

/-- What the pane of the text shows. -/
def sourceText (s : Inspector) : SourceText := ⟨s.source, s.tokens, .entry s.selected, s.followed⟩

/-- What the pane of the tokens shows. -/
def tokenTable (s : Inspector) : TokenTable := ⟨s.tokens, s.selected, s.followed⟩

/-- What the status bar shows. -/
def statusBar (s : Inspector) : StatusBar :=
  ⟨s.message, s.selected, s.tokens.length, s.outcome.diagnostics.length, s.topKinds⟩

/-- The state with its offsets settled for a screen of the given size. -/
def settled (s : Inspector) (width height : Nat) : Inspector :=
  let l := Layout.ofSize width height
  { s with
    scrolls :=
      { source := s.sourceText.offset s.scrolls.source l.source.height
        tokens := s.tokenTable.offset s.scrolls.tokens l.tokens.height
        program := ProgramReport.offset s.outcome s.scrolls.program l.program.height } }

/-- The screen of a state whose offsets are settled. -/
def draw (s : Inspector) (width height : Nat) : Screen :=
  let l := Layout.ofSize width height
  let screen := Screen.blank width height
  let screen := s.sourceText.draw screen l.source (s.focus = .source) s.scrolls.source
  let screen := s.tokenTable.draw screen l.tokens (s.focus = .tokens) s.scrolls.tokens
  let screen := ProgramReport.draw s.outcome screen l.program (s.focus = .program) s.scrolls.program
  s.statusBar.draw screen l.statusBar

/-- Draws one frame: the state after it, and the screen.  It is drawn on the grid that is made when
so many columns and rows are asked for. -/
def render (s : Inspector) (width height : Nat) : Inspector × Screen :=
  let size := gridSize width height
  let after := s.settled size.1 size.2
  (after, after.draw size.1 size.2)

end Inspector

/-! ### Keys and frames in turn -/

/-- One thing that is done to the inspector: a key is pressed, or a frame is drawn on a screen for
which so many columns and rows are asked. -/
inductive Action where
  | press (key : Key)
  | render (width height : Nat)
deriving DecidableEq

/-- The key of an action. -/
def Action.key? : Action → Option Key
  | press k => some k
  | render _ _ => none

/-- The keys among actions. -/
def keysOf (actions : List Action) : List Key := actions.filterMap Action.key?

namespace Inspector

/-- The state after an action. -/
def perform (s : Inspector) : Action → Inspector
  | .press k => s.press k
  | .render width height => (s.render width height).1

/-- The state after actions in turn. -/
def performAll (s : Inspector) (actions : List Action) : Inspector := actions.foldl perform s

theorem performAll_concat (s : Inspector) (actions : List Action) (a : Action) :
    s.performAll (actions ++ [a]) = (s.performAll actions).perform a := by
  rw [performAll, List.foldl_append]
  rfl

end Inspector

/-! ### The loop on the terminal -/

/-- What the terminal reports: a key, pressed or not (held down, let go), or anything else. -/
inductive Input where
  | key (k : Key) (pressed : Bool)
  | other
deriving DecidableEq

/-- The key that was pressed, if one was. -/
def Input.pressed? : Input → Option Key
  | key k true => some k
  | _ => none

/-- What the terminal does in one round of the loop. -/
structure Round where
  /-- The columns of the frame. -/
  width : Nat
  /-- The rows of the frame. -/
  height : Nat
  /-- What is reported while the loop waits, if anything. -/
  found : Option Input := none
deriving DecidableEq

/-- The key that is pressed in a round. -/
def Round.key? (r : Round) : Option Key := r.found.bind Input.pressed?

/-- The loop of the inspector: the state after the rounds, and the screens that were shown.  Each
round draws a frame, ends the loop if the inspector is to be left, and otherwise waits for a key. -/
def Inspector.loop (s : Inspector) : List Round → Inspector × List Screen
  | [] => (s, [])
  | r :: rounds =>
    let frame := s.render r.width r.height
    if frame.1.leaving then (frame.1, [frame.2])
    else
      let others := (r.key?.elim frame.1 frame.1.press).loop rounds
      (others.1, frame.2 :: others.2)

end LetInspector
