/-
**Reading by index.**

A cursor holds the part of a text that is still to be read.  A reader does the same work on the
whole text, which it never cuts: it keeps the place of the character under examination, the place
behind it, and the character itself.  It moves in single steps, looks one character ahead, and takes
the characters of a word or a numeral out of the text as a slice between two places.  A slice may be
out of range, so reading a token may give nothing.

The loops of a reader end from every state, sound or not.  That is proved here; what they give is
the matter of `LetInspector.Proofs.Progress`.

Main definitions:

* `LetInspector.Reader` — a text with a place in it, and `LetInspector.Reader.ofSource`, the start;
* `LetInspector.Reader.advance` — one step;
* `LetInspector.Reader.pass`, `LetInspector.Reader.run?` — a run of characters, skipped or taken;
* `LetInspector.Reader.next?`, `LetInspector.Reader.readAll?` — one token, and all tokens;
* `LetInspector.Reader.after?` — the reader behind a number of tokens.

Main results:

* `LetInspector.Reader.remaining_advance_lt` — a step from a character leaves less to do;
* `LetInspector.Reader.remaining_next?_lt` — so does every token but the end token.
-/

import LetInspector.Text.Basic
import LetInspector.Token.Cursor

set_option autoImplicit false

namespace LetInspector

/-- A text with a place in it. -/
structure Reader where
  /-- The whole text. -/
  text : List Char
  /-- The place of the character under examination. -/
  position : Nat
  /-- The place behind it, where the reader looks ahead. -/
  ahead : Nat
  /-- The character under examination, if the text has not ended. -/
  current : Option Char
  /-- The line and the column of that character. -/
  location : Location
deriving DecidableEq

namespace Reader

variable {r : Reader} {p : Char → Bool}

/-! ### Steps and runs -/

/-- One step: the line and the column follow the character that is left, if there is one, and the
place moves up to the end of the text and stays there. -/
def advance (r : Reader) : Reader where
  text := r.text
  position := min r.ahead r.text.length
  ahead := min r.ahead r.text.length + 1
  current := r.text[min r.ahead r.text.length]?
  location := r.current.elim r.location r.location.step

/-- The reader at the start of a text.  It comes there by a step from a place in front of the text,
where it examines no character. -/
def ofSource (source : String) : Reader := (⟨source.toList, 0, 0, none, .start⟩ : Reader).advance

/-- The character behind the one under examination. -/
def upcoming? (r : Reader) : Option Char := r.text[r.ahead]?

/-- How many steps the reader can still take from a character. -/
def remaining (r : Reader) : Nat := if r.current = none then 0 else r.text.length - r.ahead + 1

/-- A step from a character leaves less to do. -/
theorem remaining_advance_lt (h : r.current ≠ none) : r.advance.remaining < r.remaining := by
  rw [remaining, remaining, if_neg h]
  by_cases hnone : r.advance.current = none
  · rw [if_pos hnone]
    omega
  · -- the step leads to a character, so the end of the text does not hold it back
    have hlt : min r.ahead r.text.length < r.text.length :=
      Nat.lt_of_not_le fun hle => hnone (List.getElem?_eq_none hle)
    rw [if_neg hnone]
    simp only [advance]
    omega

theorem remaining_advance_lt_of_any (h : r.current.any p = true) :
    r.advance.remaining < r.remaining := by
  refine remaining_advance_lt ?_
  intro hnone
  simp [hnone] at h

/-- The reader behind the run of characters that satisfy `p`. -/
def pass (p : Char → Bool) (r : Reader) : Reader :=
  if r.current.any p = true then r.advance.pass p else r
termination_by r.remaining
decreasing_by exact remaining_advance_lt_of_any (by assumption)

theorem pass_of_any (h : r.current.any p = true) : r.pass p = r.advance.pass p := by
  rw [pass, if_pos h]

theorem pass_of_not_any (h : ¬ r.current.any p = true) : r.pass p = r := by
  rw [pass, if_neg h]

/-- The run of characters that satisfy `p`, and the reader behind it. -/
def run? (p : Char → Bool) (r : Reader) : Option (String × Reader) :=
  (slice? r.text r.position (r.pass p).position).map fun cs => (String.ofList cs, r.pass p)

/-! ### Tokens -/

/-- The token that starts with the character `c` under examination, and the reader behind it. -/
def scan? (r : Reader) (c : Char) : Option (Token × Reader) :=
  if c = '=' ∧ r.upcoming? = some '=' then some (⟨.eq, "==", r.location⟩, r.advance.advance)
  else if c = '!' ∧ r.upcoming? = some '=' then
    some (⟨.notEq, "!=", r.location⟩, r.advance.advance)
  else
    match Kind.ofSymbol? c with
    | some k => some (⟨k, c.toString, r.location⟩, r.advance)
    | none =>
      -- A run ends in front of the character that is examined next, so no step follows it.
      if isWordChar c then
        (r.run? isWordChar).map fun found => (⟨.ofWord found.1, found.1, r.location⟩, found.2)
      else if c.isDigit then
        (r.run? Char.isDigit).map fun found => (⟨.int, found.1, r.location⟩, found.2)
      else some (⟨.illegal, c.toString, r.location⟩, r.advance)

/-- The next token, and the reader behind it. -/
def next? (r : Reader) : Option (Token × Reader) :=
  match (r.pass isGap).current with
  | none => some (.endAt (r.pass isGap).location, r.pass isGap)
  | some c => (r.pass isGap).scan? c

/-- The reader behind the first `k` tokens, the end token again and again among them. -/
def after? (r : Reader) : Nat → Option Reader
  | 0 => some r
  | k + 1 => (r.after? k).bind fun u => u.next?.map Prod.snd

/-! ### Every token but the end token leaves less to do -/

theorem remaining_pass_le (p : Char → Bool) (r : Reader) : (r.pass p).remaining ≤ r.remaining := by
  fun_induction pass p r with
  | case1 r h ih => exact Nat.le_trans ih (Nat.le_of_lt (remaining_advance_lt_of_any h))
  | case2 r h => exact Nat.le_refl _

theorem remaining_pass_lt (h : r.current.any p = true) : (r.pass p).remaining < r.remaining := by
  rw [pass_of_any h]
  exact Nat.lt_of_le_of_lt (remaining_pass_le p r.advance) (remaining_advance_lt_of_any h)

/-- Taking a run leaves the reader behind it. -/
theorem eq_pass_of_run? {found : String × Reader} (h : r.run? p = some found) :
    found.2 = r.pass p := by
  obtain ⟨cs, -, rfl⟩ := Option.map_eq_some_iff.1 h
  rfl

/-- What is seen ahead is examined next. -/
theorem current_advance {c : Char} (h : r.upcoming? = some c) : r.advance.current = some c := by
  have hlt : r.ahead < r.text.length := (List.getElem?_eq_some_iff.1 h).1
  rw [← h, upcoming?, advance, Nat.min_eq_left (Nat.le_of_lt hlt)]

/-- Two steps into a character that is seen ahead leave less to do. -/
theorem remaining_advance_advance_lt {c : Char} (h : r.current ≠ none)
    (hahead : r.upcoming? = some c) : r.advance.advance.remaining < r.remaining := by
  refine Nat.lt_trans (remaining_advance_lt ?_) (remaining_advance_lt h)
  rw [current_advance hahead]
  exact Option.some_ne_none c

/-- The three ways in which a token is left behind: by two steps, by one, and by passing a run that
the character under examination belongs to. -/
theorem scan?_cases {c : Char} {found : Token × Reader} (h : r.scan? c = some found) :
    (r.upcoming? = some '=' ∧ found.2 = r.advance.advance) ∨ found.2 = r.advance ∨
      ∃ p : Char → Bool, p c = true ∧ found.2 = r.pass p := by
  unfold scan? at h
  by_cases hequal : c = '=' ∧ r.upcoming? = some '='
  · rw [if_pos hequal] at h
    cases h
    exact Or.inl ⟨hequal.2, rfl⟩
  by_cases hunequal : c = '!' ∧ r.upcoming? = some '='
  · rw [if_neg hequal, if_pos hunequal] at h
    cases h
    exact Or.inl ⟨hunequal.2, rfl⟩
  rw [if_neg hequal, if_neg hunequal] at h
  cases hsymbol : Kind.ofSymbol? c with
  | some k =>
      simp only [hsymbol, Option.some.injEq] at h
      exact Or.inr (Or.inl (h ▸ rfl))
  | none =>
      simp only [hsymbol] at h
      by_cases hword : isWordChar c = true
      · rw [if_pos hword] at h
        obtain ⟨x, hx, rfl⟩ := Option.map_eq_some_iff.1 h
        exact Or.inr (Or.inr ⟨isWordChar, hword, eq_pass_of_run? hx⟩)
      · rw [if_neg hword] at h
        by_cases hdigit : c.isDigit = true
        · rw [if_pos hdigit] at h
          obtain ⟨x, hx, rfl⟩ := Option.map_eq_some_iff.1 h
          exact Or.inr (Or.inr ⟨Char.isDigit, hdigit, eq_pass_of_run? hx⟩)
        · rw [if_neg hdigit] at h
          cases h
          exact Or.inr (Or.inl rfl)

theorem remaining_scan?_lt {c : Char} {found : Token × Reader} (hc : r.current = some c)
    (h : r.scan? c = some found) : found.2.remaining < r.remaining := by
  have hne : r.current ≠ none := by simp [hc]
  rcases scan?_cases h with ⟨hahead, hfound⟩ | hfound | ⟨p, hp, hfound⟩
  · rw [hfound]
    exact remaining_advance_advance_lt hne hahead
  · rw [hfound]
    exact remaining_advance_lt hne
  · rw [hfound]
    exact remaining_pass_lt (by simpa [hc] using hp)

/-- Every token but the end token leaves less to do. -/
theorem remaining_next?_lt {found : Token × Reader} (h : r.next? = some found)
    (hne : found.1.kind ≠ .eof) : found.2.remaining < r.remaining := by
  unfold next? at h
  split at h
  · cases h
    exact absurd rfl hne
  · rename_i c hc
    exact Nat.lt_of_lt_of_le (remaining_scan?_lt hc h) (remaining_pass_le isGap r)

/-- All tokens up to and including the end token, and the reader behind them. -/
def readAll? (r : Reader) : Option (List Token × Reader) :=
  match _h : r.next? with
  | none => none
  | some found =>
    if found.1.kind = .eof then some ([found.1], found.2)
    else found.2.readAll?.map fun others => (found.1 :: others.1, others.2)
termination_by r.remaining
decreasing_by exact remaining_next?_lt (by assumption) (by assumption)

end Reader

end LetInspector
