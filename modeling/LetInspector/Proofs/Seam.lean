/-
**Where a text can be cut.**

Two texts that stand one behind the other have the tokens of the first and then those of the second,
unless a lexeme runs across the seam between them.  `LetInspector.Tiling.Tiles.tokenize_append`
has one direction: it is enough that the last lexeme of the first text ends where the second
begins.  This module proves that it is also necessary, and says what it means for the characters on
the two sides of the seam.

Whether a lexeme goes on is seen from its last character, with one exception: `=` goes on into
another `=`, while `==`, which ends with the same character, does not.  There the kind decides.

Main definitions:

* `LetInspector.MeetIn` — the characters on the two sides of a seam are of one class;
* `LetInspector.MeetInSymbol` — the seam stands between `=` or `!` and another `=`.

Main results:

* `LetInspector.Lexeme.Lexical.grows_iff` — when a lexeme goes on, by its last character;
* `LetInspector.Tiling.Tiles.stopsAt_of_lexemes` — if the lexemes of a longer text begin with those
  of a shorter one, the last of them ends where the shorter one does;
* `LetInspector.tokenize_append_iff` — **where a text can be cut**.
-/

import LetInspector.Proofs.Joining
import Mathlib.Data.List.Basic

set_option autoImplicit false

namespace LetInspector

/-! ### What goes on, by its last character -/

namespace Lexeme

/-- A lexeme with a letter or an underscore in it is a word. -/
theorem Lexical.forall_isWordChar {x : Lexeme} (hx : x.Lexical) {z : Char} (hz : z ∈ x.literal)
    (hword : isWordChar z = true) : ∀ c ∈ x.literal, isWordChar c = true := by
  cases hx with
  | word hne h => exact h
  | numeral hne h =>
      rw [isWordChar_eq_false_of_isDigit (h z hz)] at hword
      cases hword
  | equal =>
      obtain rfl : z = '=' := by simpa using hz
      exact absurd hword (by decide)
  | unequal =>
      obtain rfl | rfl : z = '!' ∨ z = '=' := by simpa using hz
      · exact absurd hword (by decide)
      · exact absurd hword (by decide)
  | symbol h =>
      obtain rfl := List.mem_singleton.1 hz
      rw [(Kind.not_mem_classes_of_mem_symbols h).2.1] at hword
      cases hword
  | stray hgap hnot hdigit hsymbol =>
      obtain rfl := List.mem_singleton.1 hz
      rw [hnot] at hword
      cases hword

/-- The numerals are the lexemes with a digit in them. -/
theorem Lexical.isDigit_iff {x : Lexeme} (hx : x.Lexical) {z : Char} (hz : z ∈ x.literal) :
    z.isDigit = true ↔ x.kind = .int := by
  cases hx with
  | word hne h =>
      constructor
      · intro hdigit
        have hword := h z hz
        rw [isWordChar_eq_false_of_isDigit hdigit] at hword
        cases hword
      · intro hk
        exact absurd hk (Kind.ofWord_ne_of_not_isKeyword _ rfl (by decide))
  | numeral hne h => exact ⟨fun _ => rfl, fun _ => h z hz⟩
  | equal =>
      obtain rfl : z = '=' := by simpa using hz
      simp
  | unequal =>
      obtain rfl | rfl : z = '!' ∨ z = '=' := by simpa using hz
      · simp
      · simp
  | @symbol c k h =>
      obtain rfl := List.mem_singleton.1 hz
      have hall : ∀ p ∈ Kind.symbols, p.2 ≠ .int := by decide
      have hk : k ≠ .int := hall _ h
      simp [(Kind.not_mem_classes_of_mem_symbols h).2.2, hk]
  | stray hgap hword hdigit hsymbol =>
      obtain rfl := List.mem_singleton.1 hz
      simp [hdigit]

/-- **When a lexeme goes on**, by any one of its characters and, for `=` and `!`, by its kind. -/
theorem Lexical.grows_iff {x : Lexeme} (hx : x.Lexical) {z : Char} (hz : z ∈ x.literal)
    (c : Char) :
    x.Grows c ↔ (isWordChar z = true ∧ isWordChar c = true) ∨
      (z.isDigit = true ∧ c.isDigit = true) ∨ ((x.kind = .assign ∨ x.kind = .bang) ∧ c = '=') := by
  have hword : (∀ d ∈ x.literal, isWordChar d = true) ↔ isWordChar z = true :=
    ⟨fun h => h z hz, hx.forall_isWordChar hz⟩
  rw [Grows, hword, hx.isDigit_iff hz]

end Lexeme

/-! ### The last tile of a text -/

namespace Tile

theorem tokensFrom_append (l : Location) (ts us : List Tile) :
    tokensFrom l (ts ++ us) = tokensFrom l ts ++ tokensFrom (l.after (textOf ts)) us := by
  induction ts generalizing l with
  | nil => rfl
  | cons t ts ih =>
      simp only [List.cons_append, tokensFrom, ih, textOf_cons, Location.after_append]

theorem Fitting.of_append {ts us : List Tile} (h : Fitting (ts ++ us)) : Fitting us := by
  induction ts with
  | nil => exact h
  | cons t ts ih =>
      cases h with
      | cons lexical gap munch rest => exact ih rest

end Tile

namespace Tiling

open Tile

/-- **No lexeme runs across the seam.**  If the lexemes of a longer text begin with those of a
shorter one that it begins with, then the last of these ends where the shorter text does, unless a
gap stands behind it. -/
theorem Tiles.stopsAt_of_lexemes {f : Tiling} {lead rest : List Char} {ts : List Tile}
    {more : List Lexeme} (hf : f.Tiles (lead ++ (textOf ts ++ rest)))
    (hlead : ∀ c ∈ lead, isGap c = true) (hts : Fitting ts)
    (hmore : f.lexemes = ts.map Tile.lexeme ++ more) :
    ∀ t ∈ ts.getLast?, t.gap = [] → t.lexeme.StopsAt rest := by
  induction hts generalizing f lead with
  | nil => simp
  | @cons t ts lexical gap munch fitting ih =>
      obtain ⟨flead, ftiles⟩ := f
      cases ftiles with
      | nil => simp [lexemes] at hmore
      | cons u us =>
          obtain ⟨hlex, hlexemes⟩ : u.lexeme = t.lexeme ∧
              us.map Tile.lexeme = ts.map Tile.lexeme ++ more := by
            simpa [lexemes] using hmore
          -- the gap in front is the same in both texts, and so is the first lexeme
          have hhead : ∀ c ∈ (textOf (t :: ts) ++ rest).head?, isGap c = false := by
            obtain ⟨c, cs, hc, hcgap, -⟩ := (Fitting.cons lexical gap munch fitting).read_eq
            simp [hc, hcgap]
          have hdrop := (takeWhile_append_of_head? hlead hhead).2
          rw [hf.skip_eq.2, textOf_cons, textOf_cons, hlex, List.append_assoc,
            List.append_cancel_left_eq, List.append_assoc] at hdrop
          have htail := hf.tail
          rw [hdrop] at htail
          cases ts with
          | nil =>
              intro v hv hgap
              obtain rfl : t = v := by simpa using hv
              cases hf.fitting with
              | cons ulexical ugap umunch ufitting =>
                  have hstop := stopsAt_of_munch ugap umunch
                  rw [hdrop, hlex, hgap] at hstop
                  exact hstop
          | cons t' ts' =>
              have hlast := ih htail gap hlexemes
              rwa [List.getLast?_cons_cons]

/-- **Joined texts have the tokens of both exactly if no lexeme runs across the seam.** -/
theorem Tiles.tokenize_append_iff_stopsAt {d : Tiling} {a b : String} (hd : d.Tiles a.toList) :
    tokenize (a ++ b) =
        d.tokens .start ++ (tokenize b).map (.shift (Location.start.after a.toList)) ↔
      ∀ t ∈ d.tiles.getLast?, t.gap = [] → t.lexeme.StopsAt b.toList := by
  constructor
  · intro h
    obtain ⟨f, hf⟩ := exists_tiles (a ++ b).toList
    obtain ⟨e, he⟩ := exists_tiles b.toList
    have htext : (a ++ b).toList = d.lead ++ (textOf d.tiles ++ b.toList) := by
      rw [String.toList_append, ← hd.text_eq, text, List.append_assoc]
    have htokens : f.tokens .start =
        d.tokens .start ++ e.tokens (Location.start.after a.toList) := by
      rw [hf.tokenize_eq, he.map_shift_tokenize, ← List.append_assoc] at h
      exact (List.append_inj' h rfl).1
    have hmore := congrArg (List.map Token.lexeme) htokens
    rw [List.map_append, tokens, tokens, map_lexeme_tokensFrom, map_lexeme_tokensFrom] at hmore
    rw [htext] at hf
    exact hf.stopsAt_of_lexemes hd.lead hd.fitting hmore
  · exact hd.tokenize_append

end Tiling

/-! ### The two sides of a seam -/

/-- Whether the last character of `a` and the first one of `b` are both of the class `p`. -/
def MeetIn (p : Char → Bool) (a b : String) : Prop :=
  ∃ c ∈ a.toList.getLast?, ∃ d ∈ b.toList.head?, p c = true ∧ p d = true

/-- Whether the last token of `a` is `=` or `!`, ends where `a` ends, and is followed by the
`=` that `b` begins with. -/
def MeetInSymbol (a b : String) : Prop :=
  '=' ∈ b.toList.head? ∧
    ∃ t ∈ (tokenize a).dropLast.getLast?, (t.kind = .assign ∨ t.kind = .bang) ∧
      ∃ e ∈ (tokenize a).getLast?, t.location.after t.literal.toList = e.location

namespace Tiling

open Tile

theorem Tiles.dropLast_tokenize {d : Tiling} {a : String} (hd : d.Tiles a.toList) :
    (tokenize a).dropLast = d.tokens .start := by
  rw [hd.tokenize_eq, List.dropLast_concat]

theorem Tiles.getLast?_tokenize {d : Tiling} {a : String} (hd : d.Tiles a.toList) :
    (tokenize a).getLast? = some (.endAt (Location.start.after a.toList)) := by
  rw [hd.tokenize_eq, List.getLast?_concat]

/-- The lexemes of a text, the last one apart. -/
theorem Tiles.exists_getLast? {d : Tiling} {cs : List Char} {t : Tile} (hd : d.Tiles cs)
    (ht : t ∈ d.tiles.getLast?) :
    ∃ front, cs = front ++ (t.lexeme.literal ++ t.gap) ∧ t.lexeme.Lexical ∧
      (∀ c ∈ t.gap, isGap c = true) ∧
      ∀ l, (d.tokens l).getLast? = some (t.lexeme.tokenAt (l.after front)) := by
  obtain ⟨ts, hts⟩ := List.getLast?_eq_some_iff.1 ht
  have hfit : Fitting [t] := by
    have hall := hd.fitting
    rw [hts] at hall
    exact hall.of_append
  refine ⟨d.lead ++ textOf ts, ?_, ?_, ?_, ?_⟩
  · rw [← hd.text_eq, text, hts]
    simp
  · cases hfit with
    | cons lexical gap munch rest => exact lexical
  · cases hfit with
    | cons lexical gap munch rest => exact gap
  · intro l
    rw [tokens, hts, tokensFrom_append, Location.after_append]
    exact List.getLast?_concat

/-- The last character of a text is a gap character, unless a lexeme stands at its end. -/
theorem Tiles.meetIn_iff {d : Tiling} {a b : String} (hd : d.Tiles a.toList) {p : Char → Bool}
    (hp : ∀ c, isGap c = true → p c = false) :
    MeetIn p a b ↔ ∃ t ∈ d.tiles.getLast?, t.gap = [] ∧
      ∃ z ∈ t.lexeme.literal.getLast?, ∃ c ∈ b.toList.head?, p z = true ∧ p c = true := by
  constructor
  · rintro ⟨z, hz, c, hc, hpz, hpc⟩
    have hnot : isGap z ≠ true := by
      intro hgap
      rw [hp z hgap] at hpz
      cases hpz
    cases hlast : d.tiles.getLast? with
    | none =>
        -- without a lexeme, all of the text is a gap
        have hlead : a.toList = d.lead := by
          rw [← hd.text_eq, text, List.getLast?_eq_none_iff.1 hlast, textOf_nil, List.append_nil]
        rw [hlead] at hz
        exact absurd (hd.lead z (List.mem_of_getLast? hz)) hnot
    | some t =>
        obtain ⟨front, htext, hlexical, hgap, -⟩ := hd.exists_getLast? hlast
        rw [htext, List.getLast?_append_of_ne_nil _ (by simp [hlexical.literal_ne_nil])] at hz
        by_cases hnil : t.gap = []
        · rw [hnil, List.append_nil] at hz
          exact ⟨t, rfl, hnil, z, hz, c, hc, hpz, hpc⟩
        · rw [List.getLast?_append_of_ne_nil _ hnil] at hz
          exact absurd (hgap z (List.mem_of_getLast? hz)) hnot
  · rintro ⟨t, ht, hnil, z, hz, c, hc, hpz, hpc⟩
    obtain ⟨front, htext, hlexical, -, -⟩ := hd.exists_getLast? ht
    refine ⟨z, ?_, c, hc, hpz, hpc⟩
    rw [htext, hnil, List.append_nil, List.getLast?_append_of_ne_nil _ hlexical.literal_ne_nil]
    exact hz

/-- The last token of a text ends where the text ends if no gap stands behind its lexeme. -/
theorem Tiles.meetInSymbol_iff {d : Tiling} {a b : String} (hd : d.Tiles a.toList) :
    MeetInSymbol a b ↔ '=' ∈ b.toList.head? ∧ ∃ t ∈ d.tiles.getLast?, t.gap = [] ∧
      (t.lexeme.kind = .assign ∨ t.lexeme.kind = .bang) := by
  rw [MeetInSymbol, hd.dropLast_tokenize, hd.getLast?_tokenize]
  refine and_congr_right fun _ => ?_
  cases hlast : d.tiles.getLast? with
  | none =>
      rw [tokens, List.getLast?_eq_none_iff.1 hlast]
      simp [tokensFrom]
  | some t =>
      obtain ⟨front, htext, -, -, htoken⟩ := hd.exists_getLast? hlast
      rw [htoken, htext, Location.after_append, Location.after_append]
      -- a gap behind the lexeme moves the end of the text off the end of the lexeme
      simp only [Option.mem_def, Option.some.injEq, exists_eq_left', Lexeme.tokenAt,
        String.toList_ofList, Token.endAt, Location.eq_after_iff]
      exact and_comm

/-- **The seam of two texts, by its two sides**: the last lexeme of the first text ends where the
second begins unless it goes on into a character of its class. -/
theorem Tiles.stopsAt_iff_not_meet {d : Tiling} {a b : String} (hd : d.Tiles a.toList) :
    (∀ t ∈ d.tiles.getLast?, t.gap = [] → t.lexeme.StopsAt b.toList) ↔
      ¬ MeetIn isWordChar a b ∧ ¬ MeetIn Char.isDigit a b ∧ ¬ MeetInSymbol a b := by
  rw [hd.meetIn_iff fun c hc => (not_mem_classes_of_isGap hc).1,
    hd.meetIn_iff fun c hc => (not_mem_classes_of_isGap hc).2, hd.meetInSymbol_iff]
  cases hlast : d.tiles.getLast? with
  | none => simp
  | some t =>
      obtain ⟨front, -, hlexical, -, -⟩ := hd.exists_getLast? hlast
      obtain ⟨z, hz⟩ := Option.ne_none_iff_exists'.1
        (mt List.getLast?_eq_none_iff.1 hlexical.literal_ne_nil)
      have hmem : z ∈ t.lexeme.literal := List.mem_of_getLast? hz
      simp only [Lexeme.StopsAt, hlexical.grows_iff hmem, Option.mem_def, Option.some.injEq,
        forall_eq', exists_eq_left', hz]
      cases b.toList.head? with
      | none => simp
      | some c =>
          by_cases hnil : t.gap = []
          · simp only [hnil, Option.some.injEq, forall_eq', exists_eq_left', true_and, true_imp_iff]
            tauto
          · simp [hnil]

end Tiling

/-- **Where a text can be cut.**  The tokens of two texts together are those of the first without
its end token, and then those of the second, moved to where the first one ends, exactly if the seam
stands neither inside a word nor inside a numeral nor inside `==` or `!=`. -/
theorem tokenize_append_iff (a b : String) :
    ∃ e, (tokenize a).getLast? = some e ∧ e.kind = .eof ∧
      (tokenize (a ++ b) = (tokenize a).dropLast ++ (tokenize b).map (.shift e.location) ↔
        ¬ MeetIn isWordChar a b ∧ ¬ MeetIn Char.isDigit a b ∧ ¬ MeetInSymbol a b) := by
  obtain ⟨d, hd⟩ := Tiling.exists_tiles a.toList
  refine ⟨.endAt (Location.start.after a.toList), hd.getLast?_tokenize, rfl, ?_⟩
  rw [hd.dropLast_tokenize, ← hd.stopsAt_iff_not_meet]
  exact hd.tokenize_append_iff_stopsAt

end LetInspector
