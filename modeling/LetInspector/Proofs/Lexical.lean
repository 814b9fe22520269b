/-
**The lexical classes.**

`LetInspector.Lexeme.read` takes one lexeme off a text by looking at its first characters.  This
module says what a lexeme is without reading anything: a run of letters and underscores, a run of
digits, one of the symbols, or a single character that belongs nowhere else.  It also says when a
lexeme would go on into the character behind it.  These two notions determine the reader.

Main definitions:

* `LetInspector.Kind.symbols` — the one-character symbols with their kinds;
* `LetInspector.Lexeme.Lexical` — the lexical classes;
* `LetInspector.Lexeme.Grows`, `LetInspector.Lexeme.StopsAt` — a lexeme goes on into a character,
  and a lexeme ends in front of a text.

Main results:

* `LetInspector.Lexeme.lexical_read`, `LetInspector.Lexeme.stopsAt_read` — what is read belongs to
  a class and ends where the reader stops;
* `LetInspector.Lexeme.read_append` — a member of a class that ends in front of a text is what is
  read off the two together.
-/

import LetInspector.Token.Cursor
import Mathlib.Data.List.TakeWhile

set_option autoImplicit false

namespace LetInspector

/-! ### Classes of characters -/

/-- The one-character symbols, each with its kind. -/
def Kind.symbols : List (Char × Kind) :=
  [('=', .assign), ('+', .plus), ('-', .minus), ('!', .bang), ('*', .asterisk), ('/', .slash),
    ('<', .lt), ('>', .gt), (',', .comma), (';', .semicolon), ('(', .lparen), (')', .rparen),
    ('{', .lbrace), ('}', .rbrace)]

theorem Kind.mem_symbols_of_ofSymbol? {c : Char} {k : Kind} (h : Kind.ofSymbol? c = some k) :
    (c, k) ∈ Kind.symbols := by
  unfold Kind.ofSymbol? at h
  split at h <;> simp_all [Kind.symbols]

theorem Kind.ofSymbol?_of_mem_symbols {c : Char} {k : Kind} (h : (c, k) ∈ Kind.symbols) :
    Kind.ofSymbol? c = some k := by
  have hall : ∀ p ∈ Kind.symbols, Kind.ofSymbol? p.1 = some p.2 := by decide
  exact hall (c, k) h

theorem Kind.ofSymbol?_eq_none {c : Char} (h : ∀ k, (c, k) ∉ Kind.symbols) :
    Kind.ofSymbol? c = none := by
  rw [Option.eq_none_iff_forall_ne_some]
  intro k hk
  exact h k (Kind.mem_symbols_of_ofSymbol? hk)

/-- A symbol is no gap character, no letter, no underscore and no digit. -/
theorem Kind.not_mem_classes_of_mem_symbols {c : Char} {k : Kind} (h : (c, k) ∈ Kind.symbols) :
    isGap c = false ∧ isWordChar c = false ∧ c.isDigit = false := by
  have hall : ∀ p ∈ Kind.symbols,
      isGap p.1 = false ∧ isWordChar p.1 = false ∧ p.1.isDigit = false := by decide
  exact hall (c, k) h

/-- A gap character is no letter, no underscore and no digit. -/
theorem not_mem_classes_of_isGap {c : Char} (h : isGap c = true) :
    isWordChar c = false ∧ c.isDigit = false := by
  simp only [isGap, Bool.or_eq_true, decide_eq_true_eq] at h
  rcases h with ((rfl | rfl) | rfl) | rfl <;> decide

theorem isGap_eq_false_of_isWordChar {c : Char} (h : isWordChar c = true) : isGap c = false := by
  refine Bool.eq_false_iff.2 fun hgap => ?_
  rw [(not_mem_classes_of_isGap hgap).1] at h
  cases h

theorem isGap_eq_false_of_isDigit {c : Char} (h : c.isDigit = true) : isGap c = false := by
  refine Bool.eq_false_iff.2 fun hgap => ?_
  rw [(not_mem_classes_of_isGap hgap).2] at h
  cases h

/-- Numbers are written with digits. -/
theorem isDigit_of_mem_toString {n : Nat} {c : Char} (h : c ∈ (toString n).toList) :
    c.isDigit = true := by
  rw [Nat.toString_eq_repr, Nat.toList_repr] at h
  exact Nat.isDigit_of_mem_toDigits (by decide) (by decide) h

/-- The letters are those of the two ASCII rows. -/
theorem isAlpha_iff_toNat {c : Char} :
    c.isAlpha = true ↔ (65 ≤ c.toNat ∧ c.toNat ≤ 90) ∨ (97 ≤ c.toNat ∧ c.toNat ≤ 122) := by
  change (decide (65 ≤ c.val ∧ c.val ≤ 90) ||
    (decide (97 ≤ c.val) && decide (c.val ≤ 122))) = true ↔ _
  simp only [Bool.or_eq_true, Bool.and_eq_true, decide_eq_true_eq, UInt32.le_iff_toNat_le]
  exact Iff.rfl

/-- A digit is no letter and no underscore. -/
theorem isWordChar_eq_false_of_isDigit {c : Char} (h : c.isDigit = true) :
    isWordChar c = false := by
  have hne : c ≠ '_' := by
    rintro rfl
    exact absurd h (by decide)
  simp only [Char.isDigit_iff_toNat, Char.reduceToNat] at h
  refine Bool.eq_false_iff.2 fun hw => ?_
  simp only [isWordChar, Bool.or_eq_true, isAlpha_iff_toNat, decide_eq_true_eq, hne,
    or_false] at hw
  omega

theorem Kind.not_mem_symbols_of_isWordChar {c : Char} (h : isWordChar c = true) (k : Kind) :
    (c, k) ∉ Kind.symbols := by
  intro hk
  rw [(Kind.not_mem_classes_of_mem_symbols hk).2.1] at h
  cases h

theorem Kind.not_mem_symbols_of_isDigit {c : Char} (h : c.isDigit = true) (k : Kind) :
    (c, k) ∉ Kind.symbols := by
  intro hk
  rw [(Kind.not_mem_classes_of_mem_symbols hk).2.2] at h
  cases h

/-- A word is a name or a reserved word. -/
theorem Kind.ofWord_ne_of_not_isKeyword (w : String) {k : Kind} (hk : k.isKeyword = false)
    (hident : k ≠ .ident) : Kind.ofWord w ≠ k := by
  rintro rfl
  unfold Kind.ofWord at hk hident
  split at hk <;> simp_all [Kind.isKeyword]

/-! ### Runs of characters -/

theorem forall_mem_run {p : Char → Bool} {c : Char} {rest : List Char} (h : p c = true) :
    ∀ e ∈ c :: rest.takeWhile p, p e = true := by
  intro e he
  rcases List.mem_cons.1 he with rfl | he
  · exact h
  · exact List.mem_takeWhile_imp he

/-- The first character behind a run does not belong to it. -/
theorem eq_false_of_mem_head?_dropWhile {p : Char → Bool} {cs : List Char} {d : Char}
    (h : d ∈ (cs.dropWhile p).head?) : p d = false := by
  have hnot := List.head?_dropWhile_not p cs
  rw [h] at hnot
  simpa using hnot

/-- A run in front of a text that does not go on with it is taken off whole. -/
theorem takeWhile_append_of_head? {p : Char → Bool} {cs rest : List Char}
    (h : ∀ c ∈ cs, p c = true) (hstop : ∀ d ∈ rest.head?, p d = false) :
    (cs ++ rest).takeWhile p = cs ∧ (cs ++ rest).dropWhile p = rest := by
  rw [List.takeWhile_append_of_pos h, List.dropWhile_append_of_pos h]
  cases rest with
  | nil => simp
  | cons d rest =>
      have hd : p d = false := hstop d rfl
      simp [hd]

namespace Lexeme

/-! ### Classes of lexemes -/

/-- **The lexical classes**: words, which are runs of letters and underscores and have kinds of
their own if they are reserved; numerals, which are runs of digits; the symbols `==` and `!=`; the
symbols of one character; and any other single character that is no gap character. -/
inductive Lexical : Lexeme → Prop
  | word {cs : List Char} (hne : cs ≠ []) (h : ∀ c ∈ cs, isWordChar c = true) :
      Lexical ⟨.ofWord (String.ofList cs), cs⟩
  | numeral {cs : List Char} (hne : cs ≠ []) (h : ∀ c ∈ cs, c.isDigit = true) :
      Lexical ⟨.int, cs⟩
  | equal : Lexical ⟨.eq, ['=', '=']⟩
  | unequal : Lexical ⟨.notEq, ['!', '=']⟩
  | symbol {c : Char} {k : Kind} (h : (c, k) ∈ Kind.symbols) : Lexical ⟨k, [c]⟩
  | stray {c : Char} (hgap : isGap c = false) (hword : isWordChar c = false)
      (hdigit : c.isDigit = false) (hsymbol : ∀ k, (c, k) ∉ Kind.symbols) :
      Lexical ⟨.illegal, [c]⟩

/-- Whether a lexeme goes on into the character `c` that stands right behind it. -/
def Grows (x : Lexeme) (c : Char) : Prop :=
  ((∀ d ∈ x.literal, isWordChar d = true) ∧ isWordChar c = true) ∨
    (x.kind = .int ∧ c.isDigit = true) ∨ ((x.kind = .assign ∨ x.kind = .bang) ∧ c = '=')

/-- Whether a lexeme ends where `rest` begins. -/
def StopsAt (x : Lexeme) (rest : List Char) : Prop := ∀ c ∈ rest.head?, ¬ x.Grows c

@[simp] theorem stopsAt_nil (x : Lexeme) : x.StopsAt [] := by
  intro c hc
  cases hc

@[simp] theorem stopsAt_cons {x : Lexeme} {c : Char} {rest : List Char} :
    x.StopsAt (c :: rest) ↔ ¬ x.Grows c := by
  simp [StopsAt]

/-- No lexeme goes on into a gap character. -/
theorem not_grows_of_isGap (x : Lexeme) {c : Char} (h : isGap c = true) : ¬ x.Grows c := by
  obtain ⟨hw, hd⟩ := not_mem_classes_of_isGap h
  rintro (⟨-, hc⟩ | ⟨-, hc⟩ | ⟨-, rfl⟩)
  · rw [hw] at hc
    cases hc
  · rw [hd] at hc
    cases hc
  · exact absurd h (by decide)

/-- No lexeme goes on into a semicolon. -/
theorem not_grows_semicolon (x : Lexeme) : ¬ x.Grows ';' := by
  rintro (⟨-, hc⟩ | ⟨-, hc⟩ | ⟨-, hc⟩) <;> revert hc <;> decide

/-- A word goes on into letters and underscores. -/
theorem grows_word {cs : List Char} (h : ∀ c ∈ cs, isWordChar c = true) {d : Char} :
    (⟨.ofWord (String.ofList cs), cs⟩ : Lexeme).Grows d ↔ isWordChar d = true := by
  constructor
  · rintro (⟨-, hd⟩ | ⟨hk, -⟩ | ⟨hk, -⟩)
    · exact hd
    · exact absurd hk (Kind.ofWord_ne_of_not_isKeyword _ rfl (by decide))
    · rcases hk with hk | hk
      · exact absurd hk (Kind.ofWord_ne_of_not_isKeyword _ rfl (by decide))
      · exact absurd hk (Kind.ofWord_ne_of_not_isKeyword _ rfl (by decide))
  · intro hd
    exact Or.inl ⟨h, hd⟩

/-- A lexeme that is no word goes on only if it is a numeral, `=` or `!`. -/
theorem grows_of_isWordChar_eq_false {x : Lexeme} {c : Char} (hc : c ∈ x.literal)
    (h : isWordChar c = false) {d : Char} :
    x.Grows d ↔ (x.kind = .int ∧ d.isDigit = true) ∨
      ((x.kind = .assign ∨ x.kind = .bang) ∧ d = '=') := by
  constructor
  · rintro (⟨hall, -⟩ | hd)
    · rw [hall c hc] at h
      cases h
    · exact hd
  · exact Or.inr

/-- A numeral goes on into digits. -/
theorem grows_numeral {cs : List Char} (hne : cs ≠ []) (h : ∀ c ∈ cs, c.isDigit = true)
    {d : Char} : (⟨.int, cs⟩ : Lexeme).Grows d ↔ d.isDigit = true := by
  obtain ⟨c, hc⟩ := List.exists_mem_of_ne_nil cs hne
  rw [grows_of_isWordChar_eq_false hc (isWordChar_eq_false_of_isDigit (h c hc))]
  simp

/-- Of the one-character symbols, `=` and `!` go on into `=`, and the others into nothing. -/
theorem grows_symbol {c : Char} {k : Kind} (h : (c, k) ∈ Kind.symbols) {d : Char} :
    (⟨k, [c]⟩ : Lexeme).Grows d ↔ (c = '=' ∨ c = '!') ∧ d = '=' := by
  have hall : ∀ p ∈ Kind.symbols,
      p.2 ≠ .int ∧ ((p.2 = .assign ∨ p.2 = .bang) ↔ (p.1 = '=' ∨ p.1 = '!')) := by decide
  obtain ⟨hint, hiff⟩ := hall (c, k) h
  rw [grows_of_isWordChar_eq_false (List.mem_singleton_self c)
    (Kind.not_mem_classes_of_mem_symbols h).2.1]
  simp only [hiff, hint, false_and, false_or]

/-- No other lexeme goes on into anything. -/
theorem not_grows {x : Lexeme} {c : Char} (hc : c ∈ x.literal) (h : isWordChar c = false)
    (hk : x.kind ∉ [.int, .assign, .bang]) (d : Char) : ¬ x.Grows d := by
  simp only [List.mem_cons, List.not_mem_nil, or_false, not_or] at hk
  rw [grows_of_isWordChar_eq_false hc h]
  rintro (⟨hint, -⟩ | ⟨hassign | hbang, -⟩)
  · exact hk.1 hint
  · exact hk.2.1 hassign
  · exact hk.2.2 hbang

/-! ### What is read, by its first character -/

@[simp] theorem read_equal (rest : List Char) :
    read '=' ('=' :: rest) = (⟨.eq, ['=', '=']⟩, rest) := rfl

@[simp] theorem read_unequal (rest : List Char) :
    read '!' ('=' :: rest) = (⟨.notEq, ['!', '=']⟩, rest) := rfl

theorem read_of_mem_symbols {c : Char} {k : Kind} {rest : List Char} (hk : (c, k) ∈ Kind.symbols)
    (h : c = '=' ∨ c = '!' → ¬ '=' ∈ rest.head?) : read c rest = (⟨k, [c]⟩, rest) := by
  have hsome := Kind.ofSymbol?_of_mem_symbols hk
  unfold read
  split
  · exact absurd (by simp) (h (Or.inl rfl))
  · exact absurd (by simp) (h (Or.inr rfl))
  · simp only [hsome]

/-- Away from the symbols, the class of the first character decides. -/
theorem read_of_not_mem_symbols {c : Char} (rest : List Char) (h : ∀ k, (c, k) ∉ Kind.symbols) :
    read c rest =
      if isWordChar c then readWord c rest
      else if c.isDigit then readNumeral c rest
      else (⟨.illegal, [c]⟩, rest) := by
  have hnone := Kind.ofSymbol?_eq_none h
  unfold read
  split
  · exact absurd (by decide) (h .assign)
  · exact absurd (by decide) (h .bang)
  · simp only [hnone]

theorem read_of_isWordChar {c : Char} (rest : List Char) (hc : isWordChar c = true) :
    read c rest = readWord c rest := by
  rw [read_of_not_mem_symbols rest (Kind.not_mem_symbols_of_isWordChar hc), if_pos hc]

theorem read_of_isDigit {c : Char} (rest : List Char) (hc : c.isDigit = true) :
    read c rest = readNumeral c rest := by
  have hword : ¬ isWordChar c = true := by simp [isWordChar_eq_false_of_isDigit hc]
  rw [read_of_not_mem_symbols rest (Kind.not_mem_symbols_of_isDigit hc), if_neg hword, if_pos hc]

theorem read_of_stray {c : Char} (rest : List Char) (hword : isWordChar c = false)
    (hdigit : c.isDigit = false) (hsymbol : ∀ k, (c, k) ∉ Kind.symbols) :
    read c rest = (⟨.illegal, [c]⟩, rest) := by
  simp only [read_of_not_mem_symbols rest hsymbol, hword, hdigit, Bool.false_eq_true, ↓reduceIte]

/-! ### What is read belongs to a class and ends where it must -/

/-- The six ways of reading a character with what follows it. -/
theorem read_cases (c : Char) (rest : List Char) :
    (∃ r, c = '=' ∧ rest = '=' :: r) ∨ (∃ r, c = '!' ∧ rest = '=' :: r) ∨
      (∃ k, (c, k) ∈ Kind.symbols ∧ (c = '=' ∨ c = '!' → ¬ '=' ∈ rest.head?)) ∨
      isWordChar c = true ∨ c.isDigit = true ∨
      (isWordChar c = false ∧ c.isDigit = false ∧ ∀ k, (c, k) ∉ Kind.symbols) := by
  by_cases hpair : (c = '=' ∨ c = '!') ∧ '=' ∈ rest.head?
  · obtain ⟨r, rfl⟩ : ∃ r, rest = '=' :: r := List.head?_eq_some_iff.1 hpair.2
    rcases hpair.1 with rfl | rfl
    · exact Or.inl ⟨r, rfl, rfl⟩
    · exact Or.inr (Or.inl ⟨r, rfl, rfl⟩)
  · have hne : c = '=' ∨ c = '!' → ¬ '=' ∈ rest.head? := fun hc hr => hpair ⟨hc, hr⟩
    refine Or.inr (Or.inr ?_)
    by_cases hsym : ∃ k, (c, k) ∈ Kind.symbols
    · obtain ⟨k, hk⟩ := hsym
      exact Or.inl ⟨k, hk, hne⟩
    · refine Or.inr ?_
      cases hword : isWordChar c with
      | true => exact Or.inl rfl
      | false =>
          cases hdigit : c.isDigit with
          | true => exact Or.inr (Or.inl rfl)
          | false => exact Or.inr (Or.inr ⟨rfl, rfl, fun k hk => hsym ⟨k, hk⟩⟩)

/-- What is read belongs to a lexical class. -/
theorem lexical_read {c : Char} (rest : List Char) (hgap : isGap c = false) :
    (read c rest).1.Lexical := by
  rcases read_cases c rest with ⟨r, rfl, rfl⟩ | ⟨r, rfl, rfl⟩ | ⟨k, hk, hne⟩ | hword |
    hdigit | ⟨hword, hdigit, hsymbol⟩
  · exact .equal
  · exact .unequal
  · rw [read_of_mem_symbols hk hne]
    exact .symbol hk
  · rw [read_of_isWordChar rest hword]
    exact .word (by simp) (forall_mem_run hword)
  · rw [read_of_isDigit rest hdigit]
    exact .numeral (by simp) (forall_mem_run hdigit)
  · rw [read_of_stray rest hword hdigit hsymbol]
    exact .stray hgap hword hdigit hsymbol

/-- What is read ends where the reader stops. -/
theorem stopsAt_read {c : Char} (rest : List Char) (hgap : isGap c = false) :
    (read c rest).1.StopsAt (read c rest).2 := by
  intro d hd
  rcases read_cases c rest with ⟨r, rfl, rfl⟩ | ⟨r, rfl, rfl⟩ | ⟨k, hk, hne⟩ | hword |
    hdigit | ⟨hword, hdigit, hsymbol⟩
  · exact not_grows (c := '=') (by simp) (by decide) (by simp) d
  · exact not_grows (c := '=') (by simp) (by decide) (by simp) d
  · rw [read_of_mem_symbols hk hne] at hd ⊢
    rw [grows_symbol hk]
    rintro ⟨hc, rfl⟩
    exact hne hc hd
  · rw [read_of_isWordChar rest hword] at hd ⊢
    have hfalse : isWordChar d = false := eq_false_of_mem_head?_dropWhile hd
    rw [readWord, grows_word (forall_mem_run hword), hfalse]
    exact Bool.false_ne_true
  · rw [read_of_isDigit rest hdigit] at hd ⊢
    have hfalse : d.isDigit = false := eq_false_of_mem_head?_dropWhile hd
    rw [readNumeral, grows_numeral (by simp) (forall_mem_run hdigit), hfalse]
    exact Bool.false_ne_true
  · rw [read_of_stray rest hword hdigit hsymbol]
    exact not_grows (List.mem_singleton_self c) hword (by simp) d

/-! ### A member of a class is read off the text that it stands in front of -/

/-- **A member of a lexical class that ends in front of a text is what is read off the two
together.** -/
theorem read_append {x : Lexeme} {rest : List Char} (hx : x.Lexical) (hstop : x.StopsAt rest) :
    ∃ c cs, x.literal = c :: cs ∧ isGap c = false ∧ read c (cs ++ rest) = (x, rest) := by
  cases hx with
  | @word cs hne h =>
      obtain ⟨c, cs, rfl⟩ := List.exists_cons_of_ne_nil hne
      have hc : isWordChar c = true := h c (List.mem_cons_self ..)
      have hend : ∀ d ∈ rest.head?, isWordChar d = false := by
        intro d hd
        simpa using fun hw => hstop d hd ((grows_word h).2 hw)
      obtain ⟨htake, hdrop⟩ :=
        takeWhile_append_of_head? (fun d hd => h d (List.mem_cons_of_mem c hd)) hend
      refine ⟨c, cs, rfl, isGap_eq_false_of_isWordChar hc, ?_⟩
      rw [read_of_isWordChar _ hc, readWord, htake, hdrop]
  | @numeral cs hne h =>
      obtain ⟨c, cs, rfl⟩ := List.exists_cons_of_ne_nil hne
      have hc : c.isDigit = true := h c (List.mem_cons_self ..)
      have hend : ∀ d ∈ rest.head?, d.isDigit = false := by
        intro d hd
        simpa using fun hn => hstop d hd ((grows_numeral hne h).2 hn)
      obtain ⟨htake, hdrop⟩ :=
        takeWhile_append_of_head? (fun d hd => h d (List.mem_cons_of_mem c hd)) hend
      refine ⟨c, cs, rfl, isGap_eq_false_of_isDigit hc, ?_⟩
      rw [read_of_isDigit _ hc, readNumeral, htake, hdrop]
  | equal => exact ⟨'=', ['='], rfl, rfl, read_equal rest⟩
  | unequal => exact ⟨'!', ['='], rfl, rfl, read_unequal rest⟩
  | @symbol c k h =>
      refine ⟨c, [], rfl, (Kind.not_mem_classes_of_mem_symbols h).1, read_of_mem_symbols h ?_⟩
      intro hc hr
      exact hstop '=' hr ((grows_symbol h).2 ⟨hc, rfl⟩)
  | @stray c hgap hword hdigit hsymbol =>
      exact ⟨c, [], rfl, hgap, read_of_stray rest hword hdigit hsymbol⟩

/-- A lexeme has a character at least. -/
theorem Lexical.literal_ne_nil {x : Lexeme} (hx : x.Lexical) : x.literal ≠ [] := by
  obtain ⟨c, cs, hlit, -⟩ := read_append hx (stopsAt_nil x)
  simp [hlit]

/-- No lexeme holds a gap character. -/
theorem Lexical.isGap_eq_false {x : Lexeme} (hx : x.Lexical) {c : Char} (hc : c ∈ x.literal) :
    isGap c = false := by
  cases hx with
  | word hne h => exact isGap_eq_false_of_isWordChar (h c hc)
  | numeral hne h => exact isGap_eq_false_of_isDigit (h c hc)
  | equal =>
      rw [List.mem_cons, List.mem_singleton, or_self] at hc
      rw [hc]
      rfl
  | unequal =>
      rw [List.mem_cons, List.mem_singleton] at hc
      rcases hc with rfl | rfl
      · rfl
      · rfl
  | symbol h =>
      obtain rfl := List.mem_singleton.1 hc
      exact (Kind.not_mem_classes_of_mem_symbols h).1
  | stray hgap hword hdigit hsymbol =>
      obtain rfl := List.mem_singleton.1 hc
      exact hgap

/-- No lexeme is an end token. -/
theorem Lexical.kind_ne_eof {x : Lexeme} (hx : x.Lexical) : x.kind ≠ .eof := by
  cases hx with
  | word hne h => exact Kind.ofWord_ne_of_not_isKeyword _ rfl (by decide)
  | numeral hne h => simp
  | equal => decide
  | unequal => decide
  | @symbol c k h =>
      have hall : ∀ p ∈ Kind.symbols, p.2 ≠ .eof := by decide
      exact hall (c, k) h
  | stray hgap hword hdigit hsymbol => simp

end Lexeme

end LetInspector
