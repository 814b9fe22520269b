/-
**The interactive session.**

A session reads lines and answers each of them.  A line that starts, after blanks, with `:ast` is
read as a program, and the answer is the program with its diagnostics; any other line is answered
by its tokens, one a line.  A prompt is shown at the start and after every answer.  Colour changes
how names of kinds and diagnostics are shown, and nothing else.

A session can be looked at in two ways.  `LetInspector.Session.run` collects everything that it does
and has a sink carry it out.  `LetInspector.Session.converse` does one thing after the other: a line
is read when the answers to the lines before it were taken, and nothing is done after the first
thing that fails.

Main definitions:

* `LetInspector.Session` — how a session answers;
* `LetInspector.Session.answer` — the answer to one line;
* `LetInspector.Session.events` — everything a session does for an input, and why it stops early;
* `LetInspector.Session.run` — a session that writes to a sink;
* `LetInspector.Session.converse` — **a session in step with a writer**.
-/

import LetInspector.Program.Window
import LetInspector.Session.Sink
import LetInspector.Text.Basic

set_option autoImplicit false

namespace LetInspector

/-- How a session answers. -/
structure Session where
  /-- Whether answers are coloured. -/
  color : Bool
deriving DecidableEq

/-- The terminal code of the colour that the name of a kind is shown in. -/
def Kind.colorCode (k : Kind) : String :=
  match k with
  | .illegal => "38;5;9"
  | .ident => "39"
  | .int => "38;5;3"
  | k => if k.isKeyword then "38;5;12" else "38;5;14"

namespace Session

/-- The prompt. -/
def prompt : String := ">> "

/-- The word that asks for a program. -/
def programCommand : List Char := [':', 'a', 's', 't']

/-- The terminal code of the colour that diagnostics are shown in. -/
def diagnosticCode : String := "38;5;9"

/-- The text in the colour with the given code, if the session is coloured. -/
def paint (s : Session) (code text : String) : String :=
  if s.color then "\x1b[" ++ code ++ "m" ++ text ++ "\x1b[39m" else text

/-- The line that shows a token. -/
def tokenLine (s : Session) (t : Token) : String :=
  t.displayAs (s.paint t.kind.colorCode t.kind.name) ++ "\n"

/-- The line that shows a diagnostic. -/
def diagnosticLine (s : Session) (d : Diagnostic) : String :=
  d.location.describe ++ ": " ++ s.paint diagnosticCode d.message ++ "\n"

/-- The answer to a line that asks for its tokens. -/
def tokenAnswer (s : Session) (line : List Char) : List String :=
  let tokens := (Cursor.readAll ⟨line, .start⟩).1
  (tokens.filter (fun t => t.kind ≠ .eof)).map s.tokenLine

/-- The answer to a line that asks for the program in `source`. -/
def programAnswer (s : Session) (source : List Char) : List String :=
  let outcome := Outcome.ofCursor ⟨source, .start⟩
  (outcome.program.display ++ "\n") :: outcome.diagnostics.map s.diagnosticLine

/-- The answer to one line. -/
def answer (s : Session) (line : List Char) : List String :=
  match programCommand.isPrefixOf? (dropBlanks line) with
  | some source => s.programAnswer source
  | none => s.tokenAnswer line

/-- The prompt, shown at once. -/
def promptEvents : List Event := [.write prompt, .flush]

/-- What a session does for one line. -/
def lineEvents (s : Session) (line : List Char) : List Event :=
  (s.answer line).map .write ++ promptEvents

/-- What a session does at the end of the input. -/
def closingEvents : List Event := [.write "\n"]

/-- The lines of an input up to the first that is not UTF-8, and whether there is one. -/
def readLines (input : ByteArray) : List (List Char) × Bool :=
  go [] (linesOfBytes input)
where
  /-- Reads on, with the lines read so far in reverse. -/
  go (done : List (List Char)) : List ByteArray → List (List Char) × Bool
    | [] => (done.reverse, false)
    | bytes :: rest =>
      match String.fromUTF8? bytes with
      | some line => go (line.toList :: done) rest
      | none => (done.reverse, true)

/-- Everything a session does for an input, and the failure that stops it early. -/
def events (s : Session) (input : ByteArray) : List Event × Option Failure :=
  let read := readLines input
  let before := promptEvents ++ read.1.flatMap s.lineEvents
  -- The line that is no text is met after the prompt for it was shown.
  if read.2 then (before, some .notText) else (before ++ closingEvents, none)

/-- A session on an input that writes to a sink. -/
def run (s : Session) (input : ByteArray) (sink : Sink) : Transcript :=
  sink.run (s.events input).1 (s.events input).2

/-- Reads a line and answers it. -/
def converseLine {σ : Type} (s : Session) (w : Writer σ) (bytes : ByteArray) : Output σ Unit :=
  match String.fromUTF8? bytes with
  | some line => w.takeAll (s.lineEvents line.toList)
  | none => throw .notText

/-- A session on an input, in step with a writer. -/
def converse {σ : Type} (s : Session) (w : Writer σ) (input : ByteArray) : Output σ Unit := do
  w.takeAll promptEvents
  (linesOfBytes input).forM (s.converseLine w)
  w.takeAll closingEvents

end Session

end LetInspector
