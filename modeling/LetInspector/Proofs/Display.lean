/-
**Reading what was written.**

A program is written as its statements with nothing between them, and a value may be written as any
text without a semicolon.  Read again, such a text gives the same names in the same order and no
diagnostic: `let`, the name and `=` are followed by a blank and so are cut off as they are, the
value is passed over, and behind its semicolon the reader is ready for the next statement.  The
values are lost, so only what was read in the first place is written the same way again.

Main definitions:

* `LetInspector.Kind.reservedWords` — the words that are no names;
* `LetInspector.LetStatement.Readable` — the statements whose written form can be read again;
* `LetInspector.Program.names` — the names that a program gives values to.

Main results:

* `LetInspector.Outcome.ofSource_display_append` — **one written statement is read as a
  statement**, whatever follows it;
* `LetInspector.Outcome.readable_of_mem_ofSource` — what was read can be read again;
* `LetInspector.Outcome.ofSource_display` — **reading undoes writing**.
-/

import LetInspector.Proofs.Positions
import LetInspector.Proofs.Semicolon

set_option autoImplicit false

namespace LetInspector

/-! ### Words -/

/-- The words that are no names. -/
def Kind.reservedWords : List String := ["fn", "let", "if", "else", "return", "true", "false"]

theorem Kind.ofWord_eq_ident_iff (w : String) :
    Kind.ofWord w = .ident ↔ w ∉ Kind.reservedWords := by
  unfold Kind.ofWord
  split <;> simp_all [Kind.reservedWords]

theorem Kind.eq_let_of_ofWord {w : String} (h : Kind.ofWord w = .letWord) : w = "let" := by
  unfold Kind.ofWord at h
  split at h <;> simp_all

namespace Lexeme

/-- A lexeme with the kind of a name or of a reserved word is a word. -/
theorem Lexical.word_of_kind {x : Lexeme} (hx : x.Lexical)
    (hk : x.kind = .ident ∨ x.kind.isKeyword = true) :
    (∀ c ∈ x.literal, isWordChar c = true) ∧ x.kind = Kind.ofWord (String.ofList x.literal) := by
  cases hx with
  | word hne h => exact ⟨h, rfl⟩
  | numeral hne h => simp [Kind.isKeyword] at hk
  | equal => simp [Kind.isKeyword] at hk
  | unequal => simp [Kind.isKeyword] at hk
  | @symbol c k h =>
      have hall : ∀ p ∈ Kind.symbols, ¬ (p.2 = .ident ∨ p.2.isKeyword = true) := by decide
      exact absurd hk (hall (c, k) h)
  | stray hgap hword hdigit hsymbol => simp [Kind.isKeyword] at hk

/-- The only lexeme with the kind of a semicolon is the semicolon. -/
theorem Lexical.literal_of_semicolon {x : Lexeme} (hx : x.Lexical) (hk : x.kind = .semicolon) :
    x.literal = [';'] := by
  cases hx with
  | word hne h => exact absurd hk (Kind.ofWord_ne_of_not_isKeyword _ rfl (by decide))
  | numeral hne h => cases hk
  | equal => cases hk
  | unequal => cases hk
  | @symbol c k h =>
      have hall : ∀ p ∈ Kind.symbols, p.2 = .semicolon → p.1 = ';' := by decide
      exact congrArg ([·]) (hall (c, k) h hk)
  | stray hgap hword hdigit hsymbol => cases hk

end Lexeme

/-! ### The written form of a statement -/

/-- Whether the written form of a statement can be read again. -/
structure LetStatement.Readable (s : LetStatement) : Prop where
  word_kind : s.token.kind = .letWord
  word : s.token.literal = "let"
  name_ne : s.name.value ≠ ""
  name_chars : ∀ c ∈ s.name.value.toList, isWordChar c = true
  name_free : s.name.value ∉ Kind.reservedWords
  value : ';' ∉ s.valueText.toList

namespace Tiling

open Tile

/-- The tiling of `let`, a name and `=`, each with a blank behind it. -/
def opening (name : String) : Tiling :=
  ⟨[], [⟨⟨.letWord, ['l', 'e', 't']⟩, [' ']⟩, ⟨⟨.ident, name.toList⟩, [' ']⟩,
    ⟨⟨.assign, ['=']⟩, [' ']⟩]⟩

theorem tiles_opening {name : String} (hne : name ≠ "")
    (hchars : ∀ c ∈ name.toList, isWordChar c = true) (hfree : name ∉ Kind.reservedWords) :
    (opening name).Tiles ("let " ++ name ++ " = ").toList := by
  have hletter : ∀ c ∈ ['l', 'e', 't'], isWordChar c = true := List.all_eq_true.1 rfl
  have hlet : Lexeme.Lexical ⟨.letWord, ['l', 'e', 't']⟩ := .word (by simp) hletter
  have hname : Lexeme.Lexical ⟨.ident, name.toList⟩ := by
    have hword := Lexeme.Lexical.word (by simpa using hne) hchars
    rwa [String.ofList_toList, (Kind.ofWord_eq_ident_iff name).2 hfree] at hword
  have hgap : ∀ c ∈ [' '], isGap c = true := List.all_eq_true.1 rfl
  refine ⟨?_, by simp [opening], ?_⟩
  · simp [opening, text]
  · refine .cons hlet hgap (by simp) (.cons hname hgap (by simp) (.cons ?_ hgap (by simp) .nil))
    exact .symbol (by decide)

theorem exists_tokens_opening (name : String) (l : Location) :
    ∃ m n, (opening name).tokens l =
      [⟨.letWord, "let", l⟩, ⟨.ident, name, m⟩, ⟨.assign, "=", n⟩] := by
  refine ⟨((l.after ['l', 'e', 't']).after [' ']),
    ((((l.after ['l', 'e', 't']).after [' ']).after name.toList).after [' ']), ?_⟩
  simp [opening, tokens, tokensFrom, Lexeme.tokenAt]

/-- A text without a semicolon has no token of that kind. -/
theorem Tiles.kind_ne_semicolon {d : Tiling} {cs : List Char} (hd : d.Tiles cs) (hcs : ';' ∉ cs)
    (l : Location) : ∀ t ∈ d.tokens l, t.kind ≠ .semicolon := by
  intro u hu hk
  obtain ⟨t, ht, hlex⟩ := exists_tile_of_mem_tokensFrom hu
  have hkind : t.lexeme.kind = .semicolon := by
    rw [hlex]
    exact hk
  have hlit := (hd.fitting.lexical_of_mem ht).literal_of_semicolon hkind
  have hmem : ';' ∈ textOf d.tiles := mem_textOf ht (by simp [hlit])
  rw [← hd.text_eq, text] at hcs
  exact hcs (List.mem_append_right _ hmem)

end Tiling

namespace LetStatement

open Tiling

/-- **The tokens of a written statement**, and those of what follows it. -/
theorem Readable.tokenize_display_append {s : LetStatement} (h : s.Readable) (rest : String) :
    ∃ m n o value base, tokenize (s.display ++ rest) =
        ⟨.letWord, "let", .start⟩ :: ⟨.ident, s.name.value, m⟩ :: ⟨.assign, "=", n⟩ ::
          (value ++ ⟨.semicolon, ";", o⟩ :: (tokenize rest).map (.shift base)) ∧
      ∀ t ∈ value, t.kind ≠ .eof ∧ t.kind ≠ .semicolon := by
  obtain ⟨d, hd⟩ := exists_tiles s.valueText.toList
  have hopening := tiles_opening h.name_ne h.name_chars h.name_free
  -- the blank behind `=` keeps it apart from the value
  have hvalue : ((opening s.name.value).join d).Tiles
      (("let " ++ s.name.value ++ " = ").toList ++ s.valueText.toList) := by
    refine hopening.join hd ?_
    intro t ht hnil
    obtain rfl : _ = t := by simpa [opening] using ht
    cases hnil
  obtain ⟨htiles, hstop⟩ := hvalue.join_semicolon
  have hdisplay : s.display.toList = ("let " ++ s.name.value ++ " = ").toList ++
      s.valueText.toList ++ [';'] := by
    simp [display, h.word]
  rw [← hdisplay] at htiles
  obtain ⟨m, n, htokens⟩ := exists_tokens_opening s.name.value .start
  have htext := htiles.tokenize_append (b := rest) fun t ht _ => hstop t ht _
  rw [tokens_join, tokens_join, htokens, List.append_assoc, List.append_assoc] at htext
  refine ⟨m, n, _, _, _, htext, ?_⟩
  intro t ht
  exact ⟨hd.fitting.kind_ne_eof _ t ht, hd.kind_ne_semicolon h.value _ t ht⟩

end LetStatement

/-! ### Reading undoes writing -/

namespace Outcome

/-- **One written statement is read as a statement**, whatever follows it. -/
theorem ofSource_display_append {s : LetStatement} (h : s.Readable) (rest : String) :
    ∃ l m base, ofSource (s.display ++ rest) =
      ((ofSource rest).shift base).withStatement
        ⟨⟨.letWord, "let", l⟩, .ofToken ⟨.ident, s.name.value, m⟩, none⟩ := by
  obtain ⟨m, n, o, value, base, htokens, hvalue⟩ := h.tokenize_display_append rest
  have hnone : ¬ ∃ t ∈ value, t.kind = .semicolon := by
    rintro ⟨t, ht, hk⟩
    exact (hvalue t ht).2 hk
  refine ⟨.start, m, base, ?_⟩
  rw [ofSource_eq, htokens, ofTokens_statement rfl rfl rfl,
    afterSemicolon_append_cons (fun t ht => (hvalue t ht).1) hnone rfl, ofTokens_map_shift,
    ← ofSource_eq]

end Outcome

/-- The names that a program gives values to, in order. -/
def Program.names (p : Program) : List String := p.statements.map (·.name.value)

namespace Outcome

/-- Whether a text was read without a diagnostic, and gave these names and no values. -/
structure Names (o : Outcome) (names : List String) : Prop where
  isClean : o.IsClean
  names_eq : o.program.names = names
  value_eq : ∀ s ∈ o.program.statements, s.value = none

theorem Names.relocate {o : Outcome} {names : List String} (h : o.Names names)
    (f : Location → Location) : (o.relocate f).Names names := by
  refine ⟨?_, ?_, ?_⟩
  · have hclean : o.diagnostics = [] := h.isClean
    simp [IsClean, Outcome.relocate, hclean]
  · rw [← h.names_eq]
    simp only [Outcome.relocate, Program.names, List.map_map]
    rfl
  · intro s hs
    obtain ⟨t, ht, rfl⟩ := List.mem_map.1 hs
    simp [LetStatement.relocate, h.value_eq t ht]

theorem Names.withStatement {o : Outcome} {names : List String} (h : o.Names names)
    {s : LetStatement} (hs : s.value = none) :
    (o.withStatement s).Names (s.name.value :: names) := by
  refine ⟨h.isClean, ?_, ?_⟩
  · exact congrArg (s.name.value :: ·) h.names_eq
  · intro t ht
    rcases List.mem_cons.1 ht with rfl | ht
    · exact hs
    · exact h.value_eq t ht

/-- Written statements are read as statements with the same names. -/
theorem names_ofSource_join {ss : List LetStatement} (h : ∀ s ∈ ss, s.Readable) :
    (ofSource (String.join (ss.map LetStatement.display))).Names (ss.map (·.name.value)) := by
  induction ss with
  | nil =>
      have hempty : (⟨[], []⟩ : Tiling).Tiles "".toList := ⟨rfl, by simp, .nil⟩
      have hnil : ofSource "" = empty := by
        rw [ofSource_eq, hempty.tokenize_eq]
        exact ofTokens_eof (t := .endAt _) rfl []
      rw [List.map_nil, String.join_nil, hnil]
      exact ⟨rfl, rfl, by simp [empty]⟩
  | cons s ss ih =>
      obtain ⟨l, m, base, hread⟩ := ofSource_display_append (h s (List.mem_cons_self ..))
        (String.join (ss.map LetStatement.display))
      have htail := ih fun t ht => h t (List.mem_cons_of_mem s ht)
      rw [List.map_cons, String.join_cons, hread]
      exact (htail.relocate base.shift).withStatement rfl

/-! ### What was read can be read again -/

/-- Every statement of a text stands at tokens of the text. -/
theorem exists_standsAt {source : String} {s : LetStatement}
    (hs : s ∈ (ofSource source).program.statements) : ∃ i, s.StandsAt (tokenize source) i := by
  obtain ⟨es, hreading, houtcome⟩ := exists_reading (ended_tokenize source) 0
  rw [List.drop_zero, ← ofSource_eq] at houtcome
  rw [houtcome] at hs
  obtain ⟨p, hp, rfl⟩ := List.mem_map.1 hs
  exact ⟨p.1, hreading.standsAt_of_mem_found hp⟩

theorem readable_of_mem_ofSource {source : String} {s : LetStatement}
    (hs : s ∈ (ofSource source).program.statements) : s.Readable ∧ s.value = none := by
  obtain ⟨i, hstands⟩ := exists_standsAt hs
  have hword := Tiling.lexical_of_mem_tokenize (List.mem_of_getElem? hstands.word)
    (by simp [hstands.word_kind])
  have hname := Tiling.lexical_of_mem_tokenize (List.mem_of_getElem? hstands.name)
    (by simp [hstands.name_kind])
  obtain ⟨-, hletter⟩ := hword.word_of_kind (Or.inr (by
    rw [Token.lexeme, hstands.word_kind]
    rfl))
  obtain ⟨hchars, hfree⟩ := hname.word_of_kind (Or.inl hstands.name_kind)
  have hspelt : s.name.value.toList = s.name.token.lexeme.literal := by
    rw [hstands.spelling, Token.lexeme]
  refine ⟨⟨hstands.word_kind, ?_, ?_, ?_, ?_, ?_⟩, hstands.value⟩
  · simp only [Token.lexeme, hstands.word_kind, String.ofList_toList] at hletter
    exact Kind.eq_let_of_ofWord hletter.symm
  · intro hnil
    rw [hnil] at hspelt
    exact hname.literal_ne_nil hspelt.symm
  · rw [hspelt]
    exact hchars
  · rw [← Kind.ofWord_eq_ident_iff, ← String.ofList_toList (s := s.name.value), hspelt, ← hfree]
    exact hstands.name_kind
  · simp [LetStatement.valueText, hstands.value]

/-- What was read is written by its names alone. -/
theorem display_ofSource (source : String) :
    (ofSource source).program.display =
      String.join ((ofSource source).program.names.map fun name => "let " ++ name ++ " = ;") := by
  rw [Program.display, Program.names, List.map_map]
  refine congrArg String.join (List.map_congr_left fun s hs => ?_)
  obtain ⟨hread, hvalue⟩ := readable_of_mem_ofSource hs
  refine String.toList_inj.1 ?_
  simp [LetStatement.display, LetStatement.valueText, hread.word, hvalue]

/-- **Reading undoes writing.**  A program whose statements begin with `let`, whose names are words
that are not reserved, and whose values are missing or written without a semicolon is read again
without a diagnostic, and gives the same names in the same order and no values.  What was read from
a text is such a program, and it is written the same way when it is read again. -/
theorem ofSource_display :
    (∀ p : Program, (∀ s ∈ p.statements, s.Readable) →
      (ofSource p.display).IsClean ∧
      (ofSource p.display).program.statements.length = p.statements.length ∧
      (ofSource p.display).program.names = p.names ∧
      ∀ s ∈ (ofSource p.display).program.statements, s.value = none) ∧
    ∀ source : String,
      (∀ s ∈ (ofSource source).program.statements, s.Readable) ∧
      (ofSource (ofSource source).program.display).IsClean ∧
      (ofSource (ofSource source).program.display).program.display =
        (ofSource source).program.display := by
  constructor
  · intro p hp
    have hnames := names_ofSource_join hp
    refine ⟨hnames.isClean, ?_, hnames.names_eq, hnames.value_eq⟩
    have hlength := congrArg List.length hnames.names_eq
    rw [Program.names, List.length_map, List.length_map] at hlength
    exact hlength
  · intro source
    have hread : ∀ s ∈ (ofSource source).program.statements, s.Readable := fun s hs =>
      (readable_of_mem_ofSource hs).1
    have hnames := names_ofSource_join hread
    refine ⟨hread, hnames.isClean, ?_⟩
    rw [display_ofSource, show (ofSource (ofSource source).program.display).program.names =
      (ofSource source).program.names from hnames.names_eq, ← display_ofSource]

/-- A value that is written with another `let` on a line of its own is passed over. -/
theorem isClean_display_of_nested_let :
    (ofSource (Program.display ⟨[⟨⟨.letWord, "let", ⟨1, 1⟩⟩, ⟨⟨.ident, "x_", ⟨1, 5⟩⟩, "x_"⟩,
      some ⟨⟨.ident, "y", ⟨1, 10⟩⟩, "\nlet y = 1"⟩⟩]⟩)).IsClean := by
  refine (ofSource_display.1 _ ?_).1
  intro s hs
  obtain rfl := List.mem_singleton.1 hs
  exact ⟨rfl, rfl, by decide, List.all_eq_true.1 (by decide), by decide, by decide⟩

end Outcome

end LetInspector
