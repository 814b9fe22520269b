/-
**A reader stays in its text and moves on.**

A reader is sound if its three ways of saying where it is agree: the place is in the text or at its
end, it looks one place further ahead, and it examines the character at its place.  Every step leads
to a sound reader.  From a sound reader, skipping a run and reading a token pass exactly the
characters that a cursor takes, the slices are in range, and the tokens are those of the cursor.  So
a reader that starts at the start of a text is sound behind any number of tokens, every token but
the end token moves it by the gap in front of the token and by the token, and at the end of the text
it stays where it is.

Main definitions:

* `LetInspector.Reader.Valid` — the sound readers;
* `LetInspector.Reader.cursor` — the cursor at the place of a reader;
* `LetInspector.Reader.Passed` — **from one reader to another**, by the characters between them.

Main results:

* `LetInspector.Reader.valid_advance`, `LetInspector.Reader.Valid.passed_advance` — one step;
* `LetInspector.Reader.Valid.passed_pass`, `LetInspector.Reader.Valid.run?_eq` — a run;
* `LetInspector.Reader.Valid.next?_eq`, `LetInspector.Reader.Valid.readAll?_eq` — **a sound reader
  reads what a cursor reads**;
* `LetInspector.Reader.progress_ofSource` — soundness and progress behind any number of tokens.
-/

import LetInspector.Proofs.Lexical
import LetInspector.Proofs.Reader
import LetInspector.Proofs.RowCount
import LetInspector.Proofs.TokenScan

set_option autoImplicit false

namespace LetInspector

/-- The next token is the end token, and nothing is left behind it, or it has characters. -/
theorem Cursor.next_cases (c : Cursor) :
    (c.next.1.kind = .eof ∧ c.next.2.rest = []) ∨
      (c.next.1.kind ≠ .eof ∧ 1 ≤ c.next.1.literal.length) := by
  obtain ⟨⟨lead, tiles⟩, hd⟩ := Tiling.exists_tiles c.rest
  cases tiles with
  | nil =>
      rw [hd.next_eq_of_nil]
      exact Or.inl ⟨rfl, rfl⟩
  | cons t ts =>
      cases hd.fitting with
      | cons lexical gap munch rest =>
          rw [hd.next_eq]
          refine Or.inr ⟨lexical.kind_ne_eof, ?_⟩
          change 1 ≤ (String.ofList t.lexeme.literal).length
          rw [String.length_ofList]
          exact List.length_pos_of_ne_nil lexical.literal_ne_nil

namespace Reader

variable {r u v : Reader} {c : Char} {cs ds : List Char}

/-! ### Sound readers -/

/-- **The sound readers.** -/
structure Valid (r : Reader) : Prop where
  /-- The place is in the text or at its end. -/
  position_le : r.position ≤ r.text.length
  /-- The reader looks one place further ahead. -/
  ahead_eq : r.ahead = r.position + 1
  /-- The character under examination is the one at the place. -/
  current_eq : r.current = r.text[r.position]?

/-- A step leads to a sound reader from everywhere, the end of the text and the place in front of it
included. -/
theorem valid_advance (r : Reader) : r.advance.Valid := ⟨Nat.min_le_right _ _, rfl, rfl⟩

theorem valid_ofSource (s : String) : (ofSource s).Valid := valid_advance _

/-- What is left of the text, from the character under examination on. -/
def rest (r : Reader) : List Char := r.text.drop r.position

/-- The cursor at the place of the reader. -/
def cursor (r : Reader) : Cursor := ⟨r.rest, r.location⟩

theorem cursor_ofSource (s : String) : (ofSource s).cursor = .ofSource s := by
  simp [cursor, rest, ofSource, advance, Cursor.ofSource]

namespace Valid

theorem current_eq_head? (h : r.Valid) : r.current = r.rest.head? := by
  rw [h.current_eq, rest, List.head?_drop]

theorem current_eq_none_iff (h : r.Valid) : r.current = none ↔ r.rest = [] := by
  rw [h.current_eq_head?, List.head?_eq_none_iff]

theorem rest_eq_nil_iff (h : r.Valid) : r.rest = [] ↔ r.position = r.text.length := by
  rw [rest, List.drop_eq_nil_iff]
  have hle := h.position_le
  omega

theorem current_eq_some (h : r.Valid) (hrest : r.rest = c :: cs) : r.current = some c := by
  rw [h.current_eq_head?, hrest, List.head?_cons]

/-- Looking ahead shows the second character of what is left. -/
theorem upcoming?_eq (h : r.Valid) (hrest : r.rest = c :: cs) : r.upcoming? = cs.head? := by
  rw [upcoming?, h.ahead_eq, ← List.head?_drop, ← List.tail_drop]
  exact congrArg (fun l => l.tail.head?) hrest

end Valid

/-! ### From one reader to another -/

/-- **From one reader to another**: the second is sound, and `cs` stands between the two. -/
structure Passed (r : Reader) (cs : List Char) (u : Reader) : Prop where
  /-- The second reader is sound. -/
  valid : u.Valid
  /-- The text is the same. -/
  text_eq : u.text = r.text
  /-- The place moves by the number of characters. -/
  position_eq : u.position = r.position + cs.length
  /-- The characters are the first of what was left. -/
  rest_eq : r.rest = cs ++ u.rest
  /-- The line and the column follow the characters. -/
  location_eq : u.location = r.location.after cs

theorem Valid.passed_nil (h : r.Valid) : r.Passed [] r := ⟨h, rfl, rfl, rfl, rfl⟩

theorem Passed.append (h : r.Passed cs u) (h' : u.Passed ds v) : r.Passed (cs ++ ds) v where
  valid := h'.valid
  text_eq := h'.text_eq.trans h.text_eq
  position_eq := by rw [h'.position_eq, h.position_eq, List.length_append, Nat.add_assoc]
  rest_eq := by rw [h.rest_eq, h'.rest_eq, List.append_assoc]
  location_eq := by rw [h'.location_eq, h.location_eq, Location.after_append]

namespace Valid

/-- In front of a character, a step is not held back at the end of the text. -/
theorem position_advance (h : r.Valid) (hrest : r.rest = c :: cs) :
    r.advance.position = r.position + 1 := by
  have hlength := congrArg List.length hrest
  rw [rest, List.length_drop, List.length_cons] at hlength
  change min r.ahead r.text.length = r.position + 1
  rw [h.ahead_eq]
  omega

theorem rest_advance (h : r.Valid) (hrest : r.rest = c :: cs) : r.advance.rest = cs := by
  rw [rest, h.position_advance hrest, ← List.tail_drop]
  exact congrArg List.tail hrest

/-- A step passes the character under examination. -/
theorem passed_advance (h : r.Valid) (hrest : r.rest = c :: cs) : r.Passed [c] r.advance where
  valid := valid_advance r
  text_eq := rfl
  position_eq := h.position_advance hrest
  rest_eq := by rw [h.rest_advance hrest, hrest, List.singleton_append]
  location_eq := by
    change r.current.elim r.location r.location.step = r.location.step c
    rw [h.current_eq_some hrest, Option.elim_some]

/-- **Skipping a run passes the longest run** of characters that satisfy `p`. -/
theorem passed_pass (h : r.Valid) (p : Char → Bool) :
    r.Passed (r.rest.takeWhile p) (r.pass p) := by
  fun_induction pass p r with
  | case1 r hany ih =>
      rw [h.current_eq_head?] at hany
      cases hrest : r.rest with
      | nil => simp [hrest] at hany
      | cons c cs =>
          have hp : p c = true := by simpa [hrest] using hany
          have hstep := h.passed_advance hrest
          have hrun := hstep.append (ih hstep.valid)
          rwa [h.rest_advance hrest, List.singleton_append,
            ← List.takeWhile_cons_of_pos hp] at hrun
  | case2 r hany =>
      rw [h.current_eq_head?] at hany
      cases hrest : r.rest with
      | nil => exact h.passed_nil
      | cons c cs =>
          rw [List.takeWhile_cons_of_neg (by simpa [hrest] using hany)]
          exact h.passed_nil

theorem rest_pass (h : r.Valid) (p : Char → Bool) : (r.pass p).rest = r.rest.dropWhile p := by
  have hpassed := (h.passed_pass p).rest_eq
  have hsplit := List.takeWhile_append_dropWhile (p := p) (l := r.rest)
  exact List.append_cancel_left (hpassed.symm.trans hsplit.symm)

/-- **The slice of a run is in range**, and it is the run. -/
theorem run?_eq (h : r.Valid) (p : Char → Bool) :
    r.run? p = some (String.ofList (r.rest.takeWhile p), r.pass p) := by
  have hpassed := h.passed_pass p
  have hstop : (r.pass p).position ≤ r.text.length := by
    rw [← hpassed.text_eq]
    exact hpassed.valid.position_le
  have hstart : r.position ≤ (r.pass p).position := by
    rw [hpassed.position_eq]
    exact Nat.le_add_right ..
  have hslice : (r.text.drop r.position).take ((r.pass p).position - r.position) =
      r.rest.takeWhile p := by
    rw [hpassed.position_eq, Nat.add_sub_cancel_left]
    change r.rest.take (r.rest.takeWhile p).length = r.rest.takeWhile p
    conv => lhs; arg 2; rw [hpassed.rest_eq]
    exact List.take_left
  rw [run?, slice?_of_le r.text hstart hstop, hslice, Option.map_some]

/-- A run that the character under examination belongs to starts with it. -/
theorem passed_pass_of_cons (h : r.Valid) (hrest : r.rest = c :: cs) {p : Char → Bool}
    (hp : p c = true) :
    r.Passed (c :: cs.takeWhile p) (r.pass p) ∧
      r.run? p = some (String.ofList (c :: cs.takeWhile p), r.pass p) := by
  have hpassed := h.passed_pass p
  have hrun := h.run?_eq p
  rw [hrest, List.takeWhile_cons_of_pos hp] at hpassed hrun
  exact ⟨hpassed, hrun⟩

end Valid

/-! ### Tokens -/

/-- Away from the symbols, the class of the character decides. -/
theorem scan?_of_not_mem_symbols (r : Reader) (h : ∀ k, (c, k) ∉ Kind.symbols) :
    r.scan? c =
      if isWordChar c then
        (r.run? isWordChar).map fun found => (⟨.ofWord found.1, found.1, r.location⟩, found.2)
      else if c.isDigit then
        (r.run? Char.isDigit).map fun found => (⟨.int, found.1, r.location⟩, found.2)
      else some (⟨.illegal, c.toString, r.location⟩, r.advance) := by
  have hequal : ¬ (c = '=' ∧ r.upcoming? = some '=') := by
    rintro ⟨rfl, -⟩
    exact h .assign (by decide)
  have hunequal : ¬ (c = '!' ∧ r.upcoming? = some '=') := by
    rintro ⟨rfl, -⟩
    exact h .bang (by decide)
  rw [scan?, if_neg hequal, if_neg hunequal, Kind.ofSymbol?_eq_none h]

namespace Valid

theorem cursor_pass_isGap (h : r.Valid) : (r.pass isGap).cursor = r.cursor.skipGap := by
  rw [cursor, h.rest_pass, (h.passed_pass isGap).location_eq]
  rfl

/-- **The token that starts with the character under examination** is the lexeme that stands there,
and the reader passes its characters. -/
theorem scan?_eq (h : r.Valid) (hrest : r.rest = c :: cs) :
    ∃ u, r.scan? c = some (⟨(Lexeme.read c cs).1.kind, String.ofList (Lexeme.read c cs).1.literal,
        r.location⟩, u) ∧ r.Passed (Lexeme.read c cs).1.literal u := by
  have hahead := h.upcoming?_eq hrest
  have hstep := h.passed_advance hrest
  have htail := h.rest_advance hrest
  rcases Lexeme.read_cases c cs with ⟨rest, rfl, rfl⟩ | ⟨rest, rfl, rfl⟩ | ⟨k, hk, hne⟩ | hword |
    hdigit | ⟨hword, hdigit, hsymbol⟩
  · -- the second step passes the character that was seen ahead
    refine ⟨r.advance.advance, ?_, hstep.append (hstep.valid.passed_advance htail)⟩
    rw [scan?, if_pos ⟨rfl, hahead⟩]
    rfl
  · refine ⟨r.advance.advance, ?_, hstep.append (hstep.valid.passed_advance htail)⟩
    rw [scan?, if_neg (by simp), if_pos ⟨rfl, hahead⟩]
    rfl
  · have hequal : ¬ (c = '=' ∧ r.upcoming? = some '=') :=
      fun hc => hne (Or.inl hc.1) (hahead ▸ hc.2)
    have hunequal : ¬ (c = '!' ∧ r.upcoming? = some '=') :=
      fun hc => hne (Or.inr hc.1) (hahead ▸ hc.2)
    rw [Lexeme.read_of_mem_symbols hk hne]
    refine ⟨r.advance, ?_, hstep⟩
    rw [scan?, if_neg hequal, if_neg hunequal, Kind.ofSymbol?_of_mem_symbols hk]
    rfl
  · obtain ⟨hpassed, hrun⟩ := h.passed_pass_of_cons hrest hword
    rw [Lexeme.read_of_isWordChar cs hword]
    refine ⟨r.pass isWordChar, ?_, hpassed⟩
    rw [scan?_of_not_mem_symbols r (Kind.not_mem_symbols_of_isWordChar hword), if_pos hword, hrun]
    rfl
  · obtain ⟨hpassed, hrun⟩ := h.passed_pass_of_cons hrest hdigit
    have hword : ¬ isWordChar c = true := by simp [isWordChar_eq_false_of_isDigit hdigit]
    rw [Lexeme.read_of_isDigit cs hdigit]
    refine ⟨r.pass Char.isDigit, ?_, hpassed⟩
    rw [scan?_of_not_mem_symbols r (Kind.not_mem_symbols_of_isDigit hdigit), if_neg hword,
      if_pos hdigit, hrun]
    rfl
  · rw [Lexeme.read_of_stray cs hword hdigit hsymbol]
    refine ⟨r.advance, ?_, hstep⟩
    rw [scan?_of_not_mem_symbols r hsymbol, hword, hdigit]
    rfl

/-- **A sound reader reads the token of its cursor**, and passes the gap in front of it and the
token. -/
theorem next?_eq (h : r.Valid) :
    ∃ u, r.next? = some (r.cursor.next.1, u) ∧ u.cursor = r.cursor.next.2 ∧
      r.Passed (r.rest.takeWhile isGap ++ r.cursor.next.1.literal.toList) u := by
  have hgap := h.passed_pass isGap
  have hcursor := h.cursor_pass_isGap
  rw [Cursor.next, ← hcursor]
  cases hrest : (r.pass isGap).rest with
  | nil =>
      have hcurrent := hgap.valid.current_eq_none_iff.2 hrest
      rw [Cursor.take_of_rest_eq_nil (c := (r.pass isGap).cursor) hrest, next?, hcurrent]
      refine ⟨r.pass isGap, rfl, rfl, ?_⟩
      change r.Passed (r.rest.takeWhile isGap ++ []) (r.pass isGap)
      rwa [List.append_nil]
  | cons c cs =>
      have hcurrent := hgap.valid.current_eq_some hrest
      obtain ⟨u, hscan, hpassed⟩ := hgap.valid.scan?_eq hrest
      rw [Cursor.take_of_rest_eq_cons (c := (r.pass isGap).cursor) hrest, next?, hcurrent]
      refine ⟨u, hscan, ?_, ?_⟩
      · have hsplit := hpassed.rest_eq.symm.trans
          (hrest.trans (Lexeme.literal_append_read c cs).symm)
        rw [cursor, List.append_cancel_left hsplit, hpassed.location_eq]
        rfl
      · rw [String.toList_ofList]
        exact hgap.append hpassed

/-- **A sound reader reads the tokens of its cursor.** -/
theorem readAll?_eq (h : r.Valid) : ∃ u, r.readAll? = some (r.cursor.readAll.1, u) := by
  fun_induction readAll? r with
  | case1 r hnone =>
      obtain ⟨u, hnext, -⟩ := h.next?_eq
      rw [hnone] at hnext
      cases hnext
  | case2 r found hfound heof =>
      obtain ⟨u, hnext, -⟩ := h.next?_eq
      rw [hfound, Option.some.injEq] at hnext
      subst hnext
      exact ⟨u, by rw [Cursor.readAll_of_eof heof]⟩
  | case3 r found hfound hne ih =>
      obtain ⟨u, hnext, hcursor, hpassed⟩ := h.next?_eq
      rw [hfound, Option.some.injEq] at hnext
      subst hnext
      obtain ⟨v, hothers⟩ := ih hpassed.valid
      refine ⟨v, ?_⟩
      rw [hothers, hcursor, Cursor.readAll_of_ne_eof hne, Option.map_some]

/-- At the end of the text, reading gives the end token and leaves the reader as it is. -/
theorem next?_of_rest_eq_nil (h : r.Valid) (hrest : r.rest = []) :
    r.next? = some (.endAt r.location, r) := by
  have hcurrent := h.current_eq_none_iff.2 hrest
  have hpass : r.pass isGap = r := pass_of_not_any (by simp [hcurrent])
  rw [next?, hpass, hcurrent]

/-- The end token leads to the end of the text, where it is read again. -/
theorem next?_of_eof (h : r.Valid) {t : Token} (hnext : r.next? = some (t, u))
    (heof : t.kind = .eof) : u.Valid ∧ u.rest = [] ∧ u.next? = some (t, u) := by
  obtain ⟨u', hnext', hcursor, hpassed⟩ := h.next?_eq
  obtain ⟨rfl, rfl⟩ : r.cursor.next.1 = t ∧ u' = u := by simpa [hnext] using hnext'.symm
  have hrest : u'.rest = [] := by
    rcases r.cursor.next_cases with ⟨-, hnil⟩ | ⟨hne, -⟩
    · exact (congrArg Cursor.rest hcursor).trans hnil
    · exact absurd heof hne
  obtain ⟨v, hagain, -⟩ := hpassed.valid.next?_eq
  have hstays := hpassed.valid.next?_of_rest_eq_nil hrest
  rw [hcursor, Cursor.next_next_of_eof heof] at hagain
  rw [hstays, Option.some.injEq, Prod.mk.injEq] at hagain
  exact ⟨hpassed.valid, hrest, hagain.1 ▸ hstays⟩

end Valid

/-! ### From the start of a text -/

/-- **The reader behind `k` tokens** is sound, and it stands where a cursor stands behind them. -/
theorem exists_after?_ofSource (s : String) (k : Nat) :
    ∃ r, (ofSource s).after? k = some r ∧ r.text = s.toList ∧ r.Valid ∧
      r.cursor = (fun d : Cursor => d.next.2)^[k] (.ofSource s) := by
  induction k with
  | zero => exact ⟨ofSource s, rfl, rfl, valid_ofSource s, cursor_ofSource s⟩
  | succ k ih =>
      obtain ⟨r, hr, htext, hvalid, hcursor⟩ := ih
      obtain ⟨u, hnext, hu, hpassed⟩ := hvalid.next?_eq
      refine ⟨u, ?_, hpassed.text_eq.trans htext, hpassed.valid, ?_⟩
      · rw [after?, hr, Option.bind_some, hnext, Option.map_some]
      · rw [hu, hcursor, Function.iterate_succ_apply']

/-- **Soundness and progress.**  Behind any number of tokens of a text, the reader is sound, and the
next token is read without fail.  It is the token that a stream reads there.  A token that is not
the end token has a character at least, and the reader moves by the gap in front of the token and by
the token.  The end token leads to the end of the text, and there nothing changes any more.  So all
tokens of the text are read, and they are at most one more than its characters. -/
theorem progress_ofSource (s : String) :
    (∀ k, ∃ r t u, (ofSource s).after? k = some r ∧ r.next? = some (t, u) ∧
      r.cursor = ((fun v : TokenStream => v.read.2)^[k] (.ofSource s)).cursor ∧
      t = r.cursor.next.1 ∧ r.text = s.toList ∧
      r.position ≤ s.length ∧ r.ahead = r.position + 1 ∧
      r.current = s.toList[r.position]? ∧ (r.current = none ↔ r.position = s.length) ∧
      (t.kind ≠ .eof → 1 ≤ t.literal.length ∧
        u.position = r.position + ((s.toList.drop r.position).takeWhile isGap).length +
          t.literal.length) ∧
      (t.kind = .eof → u.position = s.length ∧ u.next? = some (t, u)) ∧
      (r.position = s.length → t.kind = .eof ∧ u = r)) ∧
    ∃ e, (ofSource s).readAll? = some (tokenize s, e) ∧ (tokenize s).length ≤ s.length + 1 := by
  constructor
  · intro k
    obtain ⟨r, hr, htext, hvalid, hcursor⟩ := exists_after?_ofSource s k
    obtain ⟨u, hnext, hu, hpassed⟩ := hvalid.next?_eq
    have hlength : s.length = r.text.length := by rw [htext, String.length_toList]
    have hend := hvalid.rest_eq_nil_iff
    refine ⟨r, r.cursor.next.1, u, hr, hnext, ?_, rfl, htext, ?_, hvalid.ahead_eq, ?_, ?_, ?_, ?_,
      ?_⟩
    · rw [TokenStream.cursor_iterate_read, hcursor]
      rfl
    · rw [hlength]
      exact hvalid.position_le
    · rw [← htext]
      exact hvalid.current_eq
    · rw [hvalid.current_eq_none_iff, hend, hlength]
    · intro hne
      rcases r.cursor.next_cases with ⟨heof, -⟩ | ⟨-, hpos⟩
      · exact absurd heof hne
      · refine ⟨hpos, ?_⟩
        rw [hpassed.position_eq, List.length_append, String.length_toList, rest, htext,
          Nat.add_assoc]
    · intro heof
      obtain ⟨huvalid, hurest, hagain⟩ := hvalid.next?_of_eof hnext heof
      refine ⟨?_, hagain⟩
      rw [huvalid.rest_eq_nil_iff.1 hurest, hpassed.text_eq, hlength]
    · intro hposition
      have hstays := hvalid.next?_of_rest_eq_nil (hend.2 (hposition.trans hlength))
      rw [hstays, Option.some.injEq, Prod.mk.injEq] at hnext
      exact ⟨hnext.1 ▸ rfl, hnext.2.symm⟩
  · obtain ⟨e, hread⟩ := (valid_ofSource s).readAll?_eq
    rw [cursor_ofSource] at hread
    exact ⟨e, hread, length_tokenize_le s⟩

end Reader

end LetInspector
