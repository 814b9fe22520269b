/-
**Programs.**

A program is a list of `let` statements.  A statement keeps the tokens that it was read from, and
a place for its value; two programs are equal when all of that is equal, places included.

Reading a text gives the statements that were found and a diagnostic for each statement that was
begun and not found.  A diagnostic says which kind of token was wanted, which kind stood there
instead, and where.

Main definitions:

* `LetInspector.Identifier`, `LetInspector.LetStatement`, `LetInspector.Program`;
* `LetInspector.LetStatement.display`, `LetInspector.Program.display` — the written forms;
* `LetInspector.Program.firstLiteral` — the literal that the program starts with;
* `LetInspector.Diagnostic`, `LetInspector.Diagnostic.message`;
* `LetInspector.Outcome` — statements and diagnostics;
* `LetInspector.Outcome.IsClean`, `LetInspector.Outcome.toExcept` — the outcome as a success or a
  failure.
-/

import LetInspector.Token.Basic

set_option autoImplicit false

namespace LetInspector

/-! ### Statements -/

/-- A name, with the token that it was read from. -/
structure Identifier where
  /-- The token. -/
  token : Token
  /-- The name itself. -/
  value : String
deriving DecidableEq

/-- The name that a token spells. -/
def Identifier.ofToken (t : Token) : Identifier := ⟨t, t.literal⟩

/-- A statement that gives a name a value. -/
structure LetStatement where
  /-- The token of the word that opens the statement. -/
  token : Token
  /-- The name. -/
  name : Identifier
  /-- The value, as far as it is known. -/
  value : Option Identifier
deriving DecidableEq

namespace LetStatement

/-- The written form of the value: nothing if it is not known. -/
def valueText (s : LetStatement) : String :=
  match s.value with
  | some v => v.value
  | none => ""

/-- The written form of a statement. -/
def display (s : LetStatement) : String :=
  s.token.literal ++ " " ++ s.name.value ++ " = " ++ s.valueText ++ ";"

end LetStatement

/-- A list of statements. -/
structure Program where
  /-- The statements, in order. -/
  statements : List LetStatement
deriving DecidableEq

namespace Program

/-- The written form of a program: its statements, with nothing between them. -/
def display (p : Program) : String := String.join (p.statements.map LetStatement.display)

/-- The literal of the first token of the program; empty if the program is. -/
def firstLiteral (p : Program) : String :=
  match p.statements with
  | s :: _ => s.token.literal
  | [] => ""

end Program

/-! ### What reading gives -/

/-- A token that was not of the kind that had to follow. -/
structure Diagnostic where
  /-- The kind that had to follow. -/
  expected : Kind
  /-- The kind that followed. -/
  found : Kind
  /-- The place of the token that followed. -/
  location : Location
deriving DecidableEq

/-- The text of a diagnostic, without its place. -/
def Diagnostic.message (d : Diagnostic) : String :=
  "expected next token to be " ++ d.expected.name ++ ", got " ++ d.found.name ++ " instead"

/-- The statements and the diagnostics of a text, each in the order of the text. -/
structure Outcome where
  /-- The statements that were found. -/
  program : Program
  /-- The diagnostics. -/
  diagnostics : List Diagnostic
deriving DecidableEq

namespace Outcome

/-- An outcome is clean when nothing was missed. -/
def IsClean (o : Outcome) : Prop := o.diagnostics = []

instance (o : Outcome) : Decidable o.IsClean :=
  inferInstanceAs (Decidable (o.diagnostics = []))

/-- The program if the outcome is clean, and the diagnostics otherwise. -/
def toExcept (o : Outcome) : Except (List Diagnostic) Program :=
  if o.IsClean then .ok o.program else .error o.diagnostics

end Outcome

end LetInspector
