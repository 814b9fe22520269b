/-
**Tokens.**

A token is a kind, the characters it was read from, and the place of the first of them.

A place is a line and a column, both counted from one.  Reading a character moves the place: a
line feed goes to the start of the next line, and every other character, however wide it is drawn,
goes one column to the right.

There are twenty-seven kinds, in a fixed order that rankings fall back on.  Seven of them are the
reserved words of the language.  A histogram lists the kinds that occur, in the order of the kinds,
each with its count.  The ranking puts the most frequent kinds first, leaves the end token out, and
keeps the order of the kinds among equal counts.

Main definitions:

* `LetInspector.Location`, `LetInspector.Location.after` — a place, and the place behind a run of
  characters;
* `LetInspector.Location.describe`, `LetInspector.Location.brief` — the two written forms;
* `LetInspector.Kind`, `LetInspector.Kind.all`, `LetInspector.Kind.name` — the kinds, the kinds in
  order, and their written names;
* `LetInspector.Kind.ofWord`, `LetInspector.Kind.ofSymbol?` — the kind of a word and of a
  one-character symbol;
* `LetInspector.Token`, `LetInspector.Token.display` — a token, and its written form, which leaves
  the place out;
* `LetInspector.Histogram.ofTokens`, `LetInspector.Histogram.top` — how often each kind occurs, and
  the most frequent kinds.

Main results:

* `LetInspector.Location.after_append` — places can be followed piece by piece.
-/

set_option autoImplicit false

namespace LetInspector

/-! ### Places -/

/-- A line and a column, both counted from one. -/
structure Location where
  /-- The line. -/
  line : Nat
  /-- The column, in characters. -/
  column : Nat
deriving DecidableEq

namespace Location

/-- The place of the first character of a text. -/
def start : Location := ⟨1, 1⟩

/-- The place behind one character. -/
def step (l : Location) (c : Char) : Location :=
  if c = '\n' then ⟨l.line + 1, 1⟩ else ⟨l.line, l.column + 1⟩

/-- The place behind a run of characters. -/
def after (l : Location) (cs : List Char) : Location := cs.foldl step l

/-- The long written form, used in messages. -/
def describe (l : Location) : String := s!"line {l.line}, column {l.column}"

/-- The short written form, used in listings. -/
def brief (l : Location) : String := s!"{l.line}:{l.column}"

@[simp] theorem after_nil (l : Location) : l.after [] = l := rfl

@[simp] theorem after_cons (l : Location) (c : Char) (cs : List Char) :
    l.after (c :: cs) = (l.step c).after cs := rfl

theorem after_append (l : Location) (cs ds : List Char) :
    l.after (cs ++ ds) = (l.after cs).after ds := by
  simp [after, List.foldl_append]

end Location

/-! ### Kinds -/

/-- The kind of a token.  An illegal token is a character that starts no other token, and `eof` is
the end of the text. -/
inductive Kind where
  | illegal | eof | ident | int
  | assign | plus | minus | bang | asterisk | slash | lt | gt | eq | notEq
  | comma | semicolon | lparen | rparen | lbrace | rbrace
  | fnWord | letWord | ifWord | elseWord | returnWord | trueWord | falseWord
deriving DecidableEq

namespace Kind

/-- The kinds in their order. -/
def all : List Kind :=
  [illegal, eof, ident, int, assign, plus, minus, bang, asterisk, slash, lt, gt, eq, notEq, comma,
    semicolon, lparen, rparen, lbrace, rbrace, fnWord, letWord, ifWord, elseWord, returnWord,
    trueWord, falseWord]

/-- The written name of a kind. -/
def name : Kind → String
  | illegal => "ILLEGAL"
  | eof => "EOF"
  | ident => "IDENT"
  | int => "INT"
  | assign => "ASSIGN"
  | plus => "PLUS"
  | minus => "MINUS"
  | bang => "BANG"
  | asterisk => "ASTERISK"
  | slash => "SLASH"
  | lt => "LT"
  | gt => "GT"
  | eq => "EQ"
  | notEq => "NOT_EQ"
  | comma => "COMMA"
  | semicolon => "SEMICOLON"
  | lparen => "LPAREN"
  | rparen => "RPAREN"
  | lbrace => "LBRACE"
  | rbrace => "RBRACE"
  | fnWord => "FUNCTION"
  | letWord => "LET"
  | ifWord => "IF"
  | elseWord => "ELSE"
  | returnWord => "RETURN"
  | trueWord => "TRUE"
  | falseWord => "FALSE"

/-- The place of a kind in the order. -/
def rank (k : Kind) : Nat := all.idxOf k

/-- Whether the kind is that of a reserved word. -/
def isKeyword : Kind → Bool
  | fnWord | letWord | ifWord | elseWord | returnWord | trueWord | falseWord => true
  | _ => false

/-- The kind of a word: that of a reserved word, and a name otherwise. -/
def ofWord (word : String) : Kind :=
  match word with
  | "fn" => fnWord
  | "let" => letWord
  | "if" => ifWord
  | "else" => elseWord
  | "return" => returnWord
  | "true" => trueWord
  | "false" => falseWord
  | _ => ident

/-- The kind of a symbol of one character. -/
def ofSymbol? (c : Char) : Option Kind :=
  match c with
  | '=' => some assign
  | '+' => some plus
  | '-' => some minus
  | '!' => some bang
  | '*' => some asterisk
  | '/' => some slash
  | '<' => some lt
  | '>' => some gt
  | ',' => some comma
  | ';' => some semicolon
  | '(' => some lparen
  | ')' => some rparen
  | '{' => some lbrace
  | '}' => some rbrace
  | _ => none

theorem mem_all (k : Kind) : k ∈ all := by
  cases k <;> decide

end Kind

/-! ### Tokens -/

/-- A kind, the characters of the token, and the place where they start. -/
structure Token where
  /-- The kind. -/
  kind : Kind
  /-- The characters as they stand in the text; none at the end of the text. -/
  literal : String
  /-- The place of the first character. -/
  location : Location
deriving DecidableEq

namespace Token

/-- The token at the end of a text. -/
def endAt (l : Location) : Token := ⟨.eof, "", l⟩

/-- The written form of a token whose kind is shown as `name`. -/
def displayAs (t : Token) (name : String) : String :=
  "\x7bType:" ++ name ++ " Literal:" ++ t.literal ++ "\x7d"

/-- The written form of a token. -/
def display (t : Token) : String := t.displayAs t.kind.name

end Token

/-! ### Histograms -/

/-- The kinds that occur, in their order, with their counts. -/
structure Histogram where
  /-- The kinds and their counts. -/
  entries : List (Kind × Nat)
deriving DecidableEq

namespace Histogram

/-- One more occurrence of `k` in a list of counts that follows the order of the kinds. -/
def countIn (k : Kind) : List (Kind × Nat) → List (Kind × Nat)
  | [] => [(k, 1)]
  | (j, n) :: rest =>
    if k = j then (j, n + 1) :: rest
    else if k.rank < j.rank then (k, 1) :: (j, n) :: rest
    else (j, n) :: countIn k rest

/-- The histogram in which nothing occurs. -/
def empty : Histogram := ⟨[]⟩

/-- One more occurrence of `k`. -/
def insert (h : Histogram) (k : Kind) : Histogram := ⟨countIn k h.entries⟩

/-- The histogram of a list of tokens. -/
def ofTokens (tokens : List Token) : Histogram := tokens.foldl (fun h t => h.insert t.kind) empty

/-- All kinds but the end token, the most frequent first. -/
def ranking (h : Histogram) : List (Kind × Nat) :=
  -- The sort is stable and the entries follow the order of the kinds, which so decides ties.
  (h.entries.filter (fun e => e.1 ≠ .eof)).mergeSort (fun a b => b.2 ≤ a.2)

/-- The `n` most frequent kinds. -/
def top (h : Histogram) (n : Nat) : List (Kind × Nat) := h.ranking.take n

end Histogram

end LetInspector
