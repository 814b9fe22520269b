/-
**The program.**

The command line, with the terminal and the files around it.  A session reads one line at a time
and answers it at once.  The inspector goes through a single round of its loop, since the terminal
is not under the control of the program.

Main definitions:

* `LetInspector.fileState` — what stands behind a file name;
* `LetInspector.answerLines` — a session on the terminal;
* `main` — the program.
-/

import LetInspector.Command
import LetInspector.Inspector.Frame
import LetInspector.Screen.Rows

set_option autoImplicit false

namespace LetInspector

/-- What stands behind a file name.  A path that goes through a file leads nowhere. -/
def fileState (path : String) : IO FileState := do
  try
    return .bytes (← IO.FS.readBinFile path)
  catch e =>
    match e with
    | .inappropriateType _ 21 _ => return .directory
    | .noFileOrDirectory .. | .inappropriateType .. => return .missing
    | .permissionDenied .. => return .unreadable "Permission denied (os error 13)"
    | e => return .unreadable (toString e)

/-- Carries out one event of a session. -/
def perform (output : IO.FS.Stream) : Event → IO Unit
  | .write text => output.putStr text
  | .flush => output.flush

/-- Reads up to and including the next line feed, or to the end of the input. -/
partial def readLine (input : IO.FS.Stream) (before : ByteArray) : IO ByteArray := do
  let byte ← input.read 1
  if byte.isEmpty then return before
  if byte.toList = [10] then return before ++ byte
  readLine input (before ++ byte)

/-- Answers the lines of the input one by one; the failure that ends the session, if one does.  It
goes through the lines as `LetInspector.Session.converse` does behind the first prompt, but reads
each of them only when it is its turn, so that a user sees an answer before the next line is
typed. -/
partial def answerLines (s : Session) (input output : IO.FS.Stream) : IO (Option Failure) := do
  let line ← readLine input ByteArray.empty
  if line.isEmpty then
    Session.closingEvents.forM (perform output)
    return none
  let read := Session.readLines line
  (read.1.flatMap s.lineEvents).forM (perform output)
  if read.2 then return some .notText
  answerLines s input output

/-- Runs a session on the terminal. -/
def runSession : IO UInt32 := do
  let input ← IO.getStdin
  let output ← IO.getStdout
  let session : Session := ⟨← output.isTty⟩
  output.putStr Command.greeting
  Session.promptEvents.forM (perform output)
  match ← answerLines session input output with
  | none => return 0
  | some f =>
    output.flush
    IO.eprint (Command.failureLine f)
    return 1

/-- The one round that the inspector goes through. -/
def firstRound : Round where
  width := 80
  height := 24

/-- The symbols of a screen, row by row. -/
def Screen.plainText (s : Screen) : String :=
  String.join (s.rows.map fun runs => String.ofList (runs.flatMap Run.text) ++ "\n")

/-- Hands a response over to the terminal. -/
def respond : Response → IO UInt32
  | .done reply => do
    IO.print reply.out
    IO.eprint reply.err
    return reply.exit.toUInt32
  | .inspect source => do
    let shown := ((Inspector.ofSource source).loop [firstRound]).2
    IO.print (String.join (shown.map Screen.plainText))
    return 0

end LetInspector

open LetInspector in
/-- Runs the program on its arguments. -/
def main (args : List String) : IO UInt32 := do
  match Command.ofArgs? args with
  | none => respond (.done Command.usageReply)
  | some .session => runSession
  | some command =>
    let state ← match command.path? with
      | some path => fileState path
      | none => pure .missing
    respond (command.run (fun _ => state) ByteArray.empty)
