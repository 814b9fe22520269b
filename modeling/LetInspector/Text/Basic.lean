/-
**Texts.**

A Unicode property is stored as its ranges of code points, in increasing order, both ends included;
a search stops at the first range that begins above the character.  The blank characters are those
with the property `White_Space`.  They are more than the gap characters of the language: a line of
input may be indented with any of them.

A line ends at a feed mark.  One return mark just before the feed belongs to the line ending; any
other return mark belongs to the line.  What comes after the last feed is a line of its own unless
it is empty.  The rule is the same for characters and for bytes.

A slice of a text is given by the places where it begins and ends, and there is none if they are in
the wrong order or beyond the end.

In a column of fixed width a shorter text is filled up with spaces, on one side or the other, and a
longer one is kept whole.  Widths are counted in characters.

Main definitions:

* `LetInspector.inRanges` — whether a code point lies in one of the ranges;
* `LetInspector.isBlank`, `LetInspector.dropBlanks` — blank characters, and a text without those at
  its start;
* `LetInspector.splitLines`, `LetInspector.linesOfText`, `LetInspector.linesOfBytes` — the lines of
  a list of marks, of a text and of a byte string;
* `LetInspector.slice?` — what stands between two places of a text;
* `LetInspector.alignRight`, `LetInspector.alignLeft` — a text in a column.
-/

set_option autoImplicit false

namespace LetInspector

/-! ### Classes of characters -/

/-- Whether the code point lies in one of the ranges, which are in increasing order. -/
def inRanges (n : Nat) : List (Nat × Nat) → Bool
  | [] => false
  | (lo, hi) :: rest => if n < lo then false else n ≤ hi || inRanges n rest

/-- Whether the character has the Unicode property `White_Space`. -/
def isBlank (c : Char) : Bool :=
  let n := c.toNat
  (0x9 ≤ n && n ≤ 0xD) || n = 0x20 || n = 0x85 || n = 0xA0 || n = 0x1680 ||
    (0x2000 ≤ n && n ≤ 0x200A) || n = 0x2028 || n = 0x2029 || n = 0x202F || n = 0x205F ||
    n = 0x3000

/-- The text without the blank characters at its start. -/
def dropBlanks (cs : List Char) : List Char := cs.dropWhile isBlank

/-! ### Lines -/

/-- Drops the last element of a line, held in reverse, if it is the return mark. -/
def dropReturn {α : Type} [DecidableEq α] (ret : α) : List α → List α
  | [] => []
  | x :: r => if x = ret then r else x :: r

/-- The lines of `text`, which end at `feed`; one `ret` before the `feed` belongs to the ending. -/
def splitLines {α : Type} [DecidableEq α] (feed ret : α) (text : List α) : List (List α) :=
  go [] [] text
where
  /-- Splits on, with the line begun and the lines completed so far, both in reverse. -/
  go (line : List α) (done : List (List α)) : List α → List (List α)
    | [] => if line.isEmpty then done.reverse else (line.reverse :: done).reverse
    | x :: rest =>
      if x = feed then go [] ((dropReturn ret line).reverse :: done) rest
      else go (x :: line) done rest

/-- The lines of a text. -/
def linesOfText (text : String) : List (List Char) := splitLines '\n' '\r' text.toList

/-- The lines of a byte string. -/
def linesOfBytes (bytes : ByteArray) : List ByteArray :=
  (splitLines 10 13 bytes.data.toList).map (fun line => ⟨line.toArray⟩)

/-! ### Slices -/

/-- What stands in a list from one place up to another, unless they are in the wrong order or beyond
the end. -/
def slice? {α : Type} (l : List α) (start stop : Nat) : Option (List α) :=
  if start ≤ stop ∧ stop ≤ l.length then some ((l.drop start).take (stop - start)) else none

theorem slice?_of_le {α : Type} (l : List α) {start stop : Nat} (h : start ≤ stop)
    (h' : stop ≤ l.length) :
    slice? l start stop = some ((l.drop start).take (stop - start)) := if_pos ⟨h, h'⟩

/-! ### Columns -/

/-- The text at the right of a column of `width` characters. -/
def alignRight (width : Nat) (s : String) : String :=
  String.ofList (List.replicate (width - s.length) ' ') ++ s

/-- The text at the left of a column of `width` characters. -/
def alignLeft (width : Nat) (s : String) : String :=
  s ++ String.ofList (List.replicate (width - s.length) ' ')

end LetInspector
