/-
**The command line.**

Without arguments the program starts a session.  With a file it opens the inspector, lists the
tokens of the file, or checks that it can be read as a program.  Anything else is answered by the
usage text.

Main definitions:

* `LetInspector.Command`, `LetInspector.Command.ofArgs?` — what the arguments ask for;
* `LetInspector.FileState` — what stands behind a file name;
* `LetInspector.Reply` — exit code and both outputs;
* `LetInspector.Command.run` — the reply, or the text to inspect.
-/

import LetInspector.Session.Basic

set_option autoImplicit false

namespace LetInspector

/-- What the arguments ask for: a session on the standard input, the inspector on a file, the tokens
of a file, or its diagnostics. -/
inductive Command where
  | session
  | inspect (path : String)
  | listTokens (path : String)
  | check (path : String)
deriving DecidableEq

/-- What stands behind a file name: nothing, something that cannot be read for the reason given, or
a file with these bytes. -/
inductive FileState where
  | missing
  | unreadable (reason : String)
  | bytes (content : ByteArray)

/-- Exit code, standard output and standard error. -/
structure Reply where
  /-- The exit code. -/
  exit : Nat := 0
  /-- The standard output. -/
  out : String := ""
  /-- The standard error. -/
  err : String := ""
deriving DecidableEq

/-- What a command comes to: a reply that ends the program, or a text to open the inspector on. -/
inductive Response where
  | done (reply : Reply)
  | inspect (source : String)
deriving DecidableEq

namespace FileState

/-- The reason given for a directory. -/
def directoryReason : String := "Is a directory (os error 21)"

/-- A directory, which exists and cannot be read. -/
def directory : FileState := .unreadable directoryReason

end FileState

namespace Command

/-- The name that the program goes by. -/
def programName : String := "monkey"

/-- The usage text. -/
def usage : String :=
  "Usage: " ++ programName ++ " [--tokens | --check] [file.monkey]\n\n" ++
  "  " ++ programName ++ "                     # Start the token REPL\n" ++
  "  " ++ programName ++ " prog.monkey         # Inspect a file in the TUI\n" ++
  "  " ++ programName ++ " --tokens prog.monkey  # Print the token stream\n" ++
  "  " ++ programName ++ " --check prog.monkey   # Report parse diagnostics\n"

/-- The line that a session starts with. -/
def greeting : String :=
  "Monkey token REPL. Type a line to see its tokens, `:ast <code>` to parse it.\n"

/-- What the arguments ask for, if anything. -/
def ofArgs? : List String → Option Command
  | [] => some session
  | [path] =>
    -- A single argument that looks like a flag names no file.
    if ['-', '-'].isPrefixOf path.toList then none else some (inspect path)
  | [flag, path] =>
    if flag = "--tokens" then some (listTokens path)
    else if flag = "--check" then some (check path)
    else none
  | _ => none

/-- The file that a command reads, if it reads one. -/
def path? : Command → Option String
  | session => none
  | inspect path | listTokens path | check path => some path

/-- The text of a file, or the reply that says why there is none. -/
def readSource (path : String) : FileState → Except Reply String
  | .missing =>
    .error { exit := 1, err := "Error: File '" ++ path ++ "' not found\n" ++ usage }
  | .unreadable reason =>
    .error { exit := 1, err := "Error: Cannot read '" ++ path ++ "': " ++ reason ++ "\n" }
  | .bytes content =>
    match String.fromUTF8? content with
    | some source => .ok source
    | none =>
      .error { exit := 1,
               err := "Error: Cannot read '" ++ path ++ "': " ++ Failure.notText.message ++ "\n" }

/-- The line of the token list that shows `t`. -/
def tokenRow (t : Token) : String := t.location.brief ++ "\t" ++ t.display ++ "\n"

/-- The token list of a text. -/
def tokenListing (source : String) : String := String.join ((tokenize source).map tokenRow)

/-- The line of a check that shows `d`. -/
def diagnosticRow (path : String) (d : Diagnostic) : String :=
  path ++ ":" ++ d.location.brief ++ ": " ++ d.message ++ "\n"

/-- The reply to a check of a text that was read from `path`. -/
def checkReply (path source : String) : Reply :=
  let outcome := Outcome.ofSource source
  if outcome.IsClean then
    { err := s!"Parsed successfully. Found {outcome.program.statements.length} statement(s).\n" }
  else
    { exit := 1, err := String.join (outcome.diagnostics.map (diagnosticRow path)) }

/-- The line that reports why a session stopped. -/
def failureLine (f : Failure) : String :=
  "Error: Error \x7b kind: " ++ f.category ++ ", message: \"" ++ f.message ++ "\" \x7d\n"

/-- The reply of an uncoloured session on an input. -/
def sessionReply (input : ByteArray) : Reply :=
  let transcript := Session.run ⟨false⟩ input {}
  let out := greeting ++ transcript.text
  match transcript.failure with
  | none => { out := out }
  | some f => { exit := 1, out := out, err := failureLine f }

/-- What a command comes to, given the files and the standard input. -/
def run (files : String → FileState) (input : ByteArray) : Command → Response
  | session => .done (sessionReply input)
  | inspect path =>
    match readSource path (files path) with
    | .error reply => .done reply
    | .ok source => .inspect source
  | listTokens path =>
    match readSource path (files path) with
    | .error reply => .done reply
    | .ok source => .done { out := tokenListing source }
  | check path =>
    match readSource path (files path) with
    | .error reply => .done reply
    | .ok source => .done (checkReply path source)

/-- The reply to arguments that ask for nothing. -/
def usageReply : Reply := { exit := 1, err := usage }

/-- What the arguments come to, given the files and the standard input. -/
def runArgs (files : String → FileState) (input : ByteArray) (args : List String) : Response :=
  match ofArgs? args with
  | none => .done usageReply
  | some command => command.run files input

end Command

end LetInspector
