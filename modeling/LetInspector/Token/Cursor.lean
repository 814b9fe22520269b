/-
**Reading tokens off a text.**

A cursor is the part of a text that is still to be read, with the place where it starts.  Reading
one token skips the gap in front of it and then takes one lexeme; at the end of the text it gives
an end token, and goes on giving it.

A lexeme is the longest run of characters that forms one token: a word, a numeral, one of the two
two-character symbols, a one-character symbol, or a single character that belongs to none of these.
Characters of the gap class stand between lexemes and belong to none.

Main definitions:

* `LetInspector.Lexeme`, `LetInspector.Lexeme.read` — a kind with its characters, and the lexeme
  that starts with a given character, with what follows it;
* `LetInspector.Cursor` — what is left of a text, and where it starts;
* `LetInspector.Cursor.take` — the token that starts where the cursor stands;
* `LetInspector.Cursor.next` — the next token, and the cursor behind it;
* `LetInspector.Cursor.readAll` — all tokens up to and including the end token;
* `LetInspector.tokenize` — the tokens of a text.

Main results:

* `LetInspector.Lexeme.literal_append_read` — reading a lexeme loses nothing;
* `LetInspector.Cursor.rest_length_next_lt` — every token but the end token uses up text;
* `LetInspector.Cursor.readAll_eq` — the tokens, one by one.
-/

import LetInspector.Token.Basic

set_option autoImplicit false

namespace LetInspector

/-! ### Lexemes -/

/-- Whether the character stands between tokens: a space, a tab, a line feed or a carriage
return. -/
def isGap (c : Char) : Bool := c = ' ' || c = '\t' || c = '\n' || c = '\r'

/-- Whether the character may stand in a word: an ASCII letter or an underscore. -/
def isWordChar (c : Char) : Bool := c.isAlpha || c = '_'

/-- A kind with the characters of one token. -/
structure Lexeme where
  /-- The kind. -/
  kind : Kind
  /-- The characters. -/
  literal : List Char
deriving DecidableEq

namespace Lexeme

/-- The word that starts with `c`, and what follows it. -/
def readWord (c : Char) (rest : List Char) : Lexeme × List Char :=
  let word := c :: rest.takeWhile isWordChar
  (⟨.ofWord (String.ofList word), word⟩, rest.dropWhile isWordChar)

/-- The numeral that starts with `c`, and what follows it. -/
def readNumeral (c : Char) (rest : List Char) : Lexeme × List Char :=
  (⟨.int, c :: rest.takeWhile Char.isDigit⟩, rest.dropWhile Char.isDigit)

/-- The lexeme that starts with `c`, which is no gap character and is followed by `rest`, and what
follows the lexeme. -/
def read (c : Char) (rest : List Char) : Lexeme × List Char :=
  match c, rest with
  -- The two-character symbols win over the one-character symbols that they start with.
  | '=', '=' :: r => (⟨.eq, ['=', '=']⟩, r)
  | '!', '=' :: r => (⟨.notEq, ['!', '=']⟩, r)
  | c, rest =>
    match Kind.ofSymbol? c with
    | some k => (⟨k, [c]⟩, rest)
    | none =>
      if isWordChar c then readWord c rest
      else if c.isDigit then readNumeral c rest
      else (⟨.illegal, [c]⟩, rest)

/-- Reading loses nothing: the lexeme and what follows it make up the text. -/
theorem literal_append_read (c : Char) (rest : List Char) :
    (read c rest).1.literal ++ (read c rest).2 = c :: rest := by
  unfold read
  split
  · rfl
  · rfl
  · split
    · rfl
    · split
      · simp [readWord, List.takeWhile_append_dropWhile]
      · split
        · simp [readNumeral, List.takeWhile_append_dropWhile]
        · rfl

/-- A lexeme has at least its first character. -/
theorem literal_read_ne_nil (c : Char) (rest : List Char) : (read c rest).1.literal ≠ [] := by
  unfold read
  split
  · simp
  · simp
  · split
    · simp
    · split
      · simp [readWord]
      · split <;> simp [readNumeral]

/-- What follows a lexeme is no longer than what came behind its first character. -/
theorem read_rest_length_le (c : Char) (rest : List Char) :
    (read c rest).2.length ≤ rest.length := by
  have happ := congrArg List.length (literal_append_read c rest)
  have hpos := List.length_pos_iff.2 (literal_read_ne_nil c rest)
  simp only [List.length_append, List.length_cons] at happ
  omega

end Lexeme

/-! ### Cursors -/

/-- The part of a text that is still to be read, and the place where it starts. -/
structure Cursor where
  /-- The characters still to be read. -/
  rest : List Char
  /-- The place of the first of them. -/
  location : Location
deriving DecidableEq

namespace Cursor

/-- The cursor at the start of a text. -/
def ofSource (source : String) : Cursor := ⟨source.toList, .start⟩

/-- The cursor behind the gap that it stands at. -/
def skipGap (c : Cursor) : Cursor :=
  ⟨c.rest.dropWhile isGap, c.location.after (c.rest.takeWhile isGap)⟩

/-- The token that starts where the cursor stands, and the cursor behind it. -/
def take (c : Cursor) : Token × Cursor :=
  match c.rest with
  | [] => (.endAt c.location, c)
  | x :: rest =>
    let found := Lexeme.read x rest
    (⟨found.1.kind, String.ofList found.1.literal, c.location⟩,
      ⟨found.2, c.location.after found.1.literal⟩)

/-- The next token, and the cursor behind it. -/
def next (c : Cursor) : Token × Cursor := c.skipGap.take

theorem rest_length_skipGap_le (c : Cursor) : c.skipGap.rest.length ≤ c.rest.length := by
  have h := congrArg List.length (List.takeWhile_append_dropWhile (p := isGap) (l := c.rest))
  simp only [List.length_append] at h
  simp only [skipGap]
  omega

theorem take_of_rest_eq_nil {c : Cursor} (h : c.rest = []) : c.take = (.endAt c.location, c) := by
  unfold take
  rw [h]

theorem take_of_rest_eq_cons {c : Cursor} {x : Char} {rest : List Char} (h : c.rest = x :: rest) :
    c.take = (⟨(Lexeme.read x rest).1.kind, String.ofList (Lexeme.read x rest).1.literal,
      c.location⟩, ⟨(Lexeme.read x rest).2, c.location.after (Lexeme.read x rest).1.literal⟩) := by
  unfold take
  rw [h]

theorem rest_length_next_le (c : Cursor) : c.next.2.rest.length ≤ c.rest.length := by
  have hgap := rest_length_skipGap_le c
  unfold next
  cases hr : c.skipGap.rest with
  | nil =>
    rw [take_of_rest_eq_nil hr]
    exact hgap
  | cons x rest =>
    have hread := Lexeme.read_rest_length_le x rest
    rw [hr, List.length_cons] at hgap
    rw [take_of_rest_eq_cons hr]
    simp only
    omega

/-- Every token but the end token uses up at least one character. -/
theorem rest_length_next_lt {c : Cursor} (h : c.next.1.kind ≠ .eof) :
    c.next.2.rest.length < c.rest.length := by
  have hgap := rest_length_skipGap_le c
  unfold next at h ⊢
  cases hr : c.skipGap.rest with
  | nil =>
    rw [take_of_rest_eq_nil hr] at h
    exact absurd rfl h
  | cons x rest =>
    have hread := Lexeme.read_rest_length_le x rest
    rw [hr, List.length_cons] at hgap
    rw [take_of_rest_eq_cons hr]
    simp only
    omega

/-- All tokens up to and including the end token, and the cursor behind them. -/
def readAll (c : Cursor) : List Token × Cursor :=
  go c []
where
  /-- Reads on, with the tokens read so far in reverse. -/
  go (c : Cursor) (done : List Token) : List Token × Cursor :=
    let found := c.next
    if found.1.kind = .eof then ((found.1 :: done).reverse, found.2)
    else go found.2 (found.1 :: done)
  termination_by c.rest.length
  decreasing_by exact rest_length_next_lt (by assumption)

theorem readAll_go_eq_append (c : Cursor) (done : List Token) :
    readAll.go c done = (done.reverse ++ c.readAll.1, c.readAll.2) := by
  suffices h : ∀ n (c : Cursor) (done : List Token), c.rest.length = n →
      readAll.go c done = (done.reverse ++ (readAll.go c []).1, (readAll.go c []).2) from
    h _ c done rfl
  intro n
  induction n using Nat.strongRecOn with
  | _ n ih =>
    intro c done hn
    rw [readAll.go]
    conv => rhs; rw [readAll.go]
    by_cases hk : c.next.1.kind = .eof
    · simp [hk]
    · have hlt : c.next.2.rest.length < n := hn ▸ rest_length_next_lt hk
      simp only [hk, ↓reduceIte]
      rw [ih _ hlt _ (c.next.1 :: done) rfl, ih _ hlt _ [c.next.1] rfl]
      simp

/-- The tokens, one by one. -/
theorem readAll_eq (c : Cursor) :
    c.readAll =
      if c.next.1.kind = .eof then ([c.next.1], c.next.2)
      else (c.next.1 :: c.next.2.readAll.1, c.next.2.readAll.2) := by
  rw [readAll, readAll.go]
  by_cases hk : c.next.1.kind = .eof
  · simp [hk]
  · simp only [hk, ↓reduceIte]
    rw [readAll_go_eq_append]
    simp

end Cursor

/-- The tokens of a text, with the end token. -/
def tokenize (source : String) : List Token := (Cursor.ofSource source).readAll.1

end LetInspector
