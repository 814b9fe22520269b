/-
**A semicolon separates programs.**

Whatever stands in front of a semicolon, the reader is ready for a new statement behind it: a `let`
that was begun has met the semicolon as the token in its way, and a value has ended there.  So the
outcome of two texts with a semicolon between them is the outcome of the first, semicolon included,
followed by the outcome of the second, moved to where the first one ends.

Main definitions:

* `LetInspector.Outcome.append` — the outcomes of two texts together.

Main results:

* `LetInspector.Outcome.ofTokens_append_semicolon` — **no statement reaches over a semicolon**;
* `LetInspector.Outcome.ofSource_append_semicolon` — the same for texts.
-/

import LetInspector.Proofs.Joining
import LetInspector.Proofs.Relocation

set_option autoImplicit false

namespace LetInspector

/-! ### Behind a semicolon -/

theorem mem_of_mem_afterSemicolon {t : Token} {tokens : List Token}
    (h : t ∈ afterSemicolon tokens) : t ∈ tokens := by
  induction tokens with
  | nil => exact h
  | cons u rest ih =>
      rw [afterSemicolon] at h
      split at h
      · exact List.mem_cons_of_mem u h
      · split at h
        · cases h
        · exact List.mem_cons_of_mem u (ih h)

/-- A value that ends within some tokens ends there whatever follows them. -/
theorem afterSemicolon_append {ts : List Token} (hts : ∀ t ∈ ts, t.kind ≠ .eof)
    (hend : ∃ t ∈ ts, t.kind = .semicolon) (vs : List Token) :
    afterSemicolon (ts ++ vs) = afterSemicolon ts ++ vs := by
  induction ts with
  | nil => simp at hend
  | cons t rest ih =>
      have heof : t.kind ≠ .eof := hts t (List.mem_cons_self ..)
      rw [List.cons_append, afterSemicolon, afterSemicolon]
      by_cases ht : t.kind = .semicolon
      · simp only [ht, ↓reduceIte]
      · obtain ⟨u, hu, husemi⟩ := hend
        have hmem : u ∈ rest := (List.mem_cons.1 hu).resolve_left (by rintro rfl; exact ht husemi)
        simp only [ht, heof, ↓reduceIte]
        exact ih (fun v hv => hts v (List.mem_cons_of_mem t hv)) ⟨u, hmem, husemi⟩

/-- A value that does not end within some tokens ends at the semicolon behind them. -/
theorem afterSemicolon_append_cons {ts : List Token} (hts : ∀ t ∈ ts, t.kind ≠ .eof)
    (hend : ¬ ∃ t ∈ ts, t.kind = .semicolon) {u : Token} (hu : u.kind = .semicolon)
    (vs : List Token) : afterSemicolon (ts ++ u :: vs) = vs := by
  induction ts with
  | nil => rw [List.nil_append, afterSemicolon, if_pos hu]
  | cons t rest ih =>
      have heof : t.kind ≠ .eof := hts t (List.mem_cons_self ..)
      have ht : t.kind ≠ .semicolon := fun ht => hend ⟨t, List.mem_cons_self .., ht⟩
      have hrest : ¬ ∃ v ∈ rest, v.kind = .semicolon := by
        rintro ⟨v, hv, hsemi⟩
        exact hend ⟨v, List.mem_cons_of_mem t hv, hsemi⟩
      rw [List.cons_append, afterSemicolon, if_neg ht, if_neg heof]
      exact ih (fun v hv => hts v (List.mem_cons_of_mem t hv)) hrest

namespace Outcome

/-- Two outcomes, one behind the other. -/
def append (o p : Outcome) : Outcome :=
  ⟨⟨o.program.statements ++ p.program.statements⟩, o.diagnostics ++ p.diagnostics⟩

@[simp] theorem empty_append (o : Outcome) : empty.append o = o := rfl

@[simp] theorem withStatement_append (s : LetStatement) (o p : Outcome) :
    (o.withStatement s).append p = (o.append p).withStatement s := rfl

@[simp] theorem withDiagnostic_append (d : Diagnostic) (o p : Outcome) :
    (o.withDiagnostic d).append p = (o.append p).withDiagnostic d := rfl

/-- **No statement reaches over a semicolon**: what stands behind it is read as if nothing stood in
front. -/
theorem ofTokens_append_semicolon {u e : Token} (hu : u.kind = .semicolon) (he : e.kind = .eof)
    {ts : List Token} (hts : ∀ t ∈ ts, t.kind ≠ .eof) (vs : List Token) :
    ofTokens (ts ++ u :: vs) = (ofTokens (ts ++ [u, e])).append (ofTokens vs) := by
  have hsemicolon : ∀ ws, ofTokens (u :: ws) = ofTokens ws := fun ws =>
    ofTokens_other (by simp [hu]) (by simp [hu]) ws
  have hident : u.kind ≠ .ident := by simp [hu]
  have hassign : u.kind ≠ .assign := by simp [hu]
  induction ts using ofTokens.induct with
  | case1 => simp only [List.nil_append, hsemicolon, ofTokens_eof he, empty_append]
  | case2 t rest heof => exact absurd heof (hts t (List.mem_cons_self ..))
  | case3 t heof hlet =>
      simp only [List.cons_append, List.nil_append, ofTokens_nameless hlet hident, hsemicolon,
        ofTokens_eof he, withDiagnostic_append, empty_append]
  | case4 t heof hlet x hx =>
      simp only [List.cons_append, List.nil_append, ofTokens_unassigned hlet hx hassign, hsemicolon,
        ofTokens_eof he, withDiagnostic_append, empty_append]
  | case5 t heof hlet x hx y rest hy ih =>
      have hrest : ∀ t ∈ rest, t.kind ≠ .eof := fun t ht => hts t (by simp [ht])
      simp only [List.cons_append, ofTokens_statement hlet hx hy, withStatement_append]
      by_cases hend : ∃ t ∈ rest, t.kind = .semicolon
      · rw [afterSemicolon_append hrest hend, afterSemicolon_append hrest hend,
          ih fun t ht => hrest t (mem_of_mem_afterSemicolon ht)]
      · rw [afterSemicolon_append_cons hrest hend hu, afterSemicolon_append_cons hrest hend hu,
          ofTokens_eof he, empty_append]
  | case6 t heof hlet x hx y rest hy ih =>
      have htail : ∀ t ∈ y :: rest, t.kind ≠ .eof := fun t ht => hts t (by simp_all)
      have hih := ih htail
      simp only [List.cons_append] at hih ⊢
      rw [ofTokens_unassigned hlet hx hy, ofTokens_unassigned hlet hx hy, hih,
        withDiagnostic_append]
  | case7 t heof hlet x rest hx ih =>
      have htail : ∀ t ∈ x :: rest, t.kind ≠ .eof := fun t ht => hts t (by simp_all)
      have hih := ih htail
      simp only [List.cons_append] at hih ⊢
      rw [ofTokens_nameless hlet hx, ofTokens_nameless hlet hx, hih, withDiagnostic_append]
  | case8 t rest heof hlet ih =>
      have htail : ∀ t ∈ rest, t.kind ≠ .eof := fun t ht => hts t (List.mem_cons_of_mem _ ht)
      rw [List.cons_append, List.cons_append, ofTokens_other heof hlet, ofTokens_other heof hlet,
        ih htail]

end Outcome

/-! ### Texts with a semicolon between them -/

/-- The tiling of a semicolon. -/
def Tiling.semicolon : Tiling := ⟨[], [⟨⟨.semicolon, [';']⟩, []⟩]⟩

theorem Lexeme.stopsAt_semicolon (cs : List Char) :
    (⟨.semicolon, [';']⟩ : Lexeme).StopsAt cs := by
  intro c hc hgrows
  rw [grows_symbol (by decide)] at hgrows
  exact absurd hgrows.1 (by decide)

theorem Tiling.tiles_semicolon : Tiling.semicolon.Tiles [';'] where
  text_eq := rfl
  lead := by simp [semicolon]
  fitting := .cons (.symbol (by decide)) (by simp) (fun _ => Lexeme.stopsAt_nil _) .nil

/-- A text with a semicolon behind it ends with a tile that holds the semicolon, and that tile ends
where the semicolon does, whatever follows. -/
theorem Tiling.Tiles.join_semicolon {d : Tiling} {cs : List Char} (hd : d.Tiles cs) :
    (d.join semicolon).Tiles (cs ++ [';']) ∧
      ∀ t ∈ (d.join semicolon).tiles.getLast?, ∀ ds, t.lexeme.StopsAt ds := by
  constructor
  · refine hd.join tiles_semicolon ?_
    intro t _ _
    exact Lexeme.stopsAt_cons.2 t.lexeme.not_grows_semicolon
  · intro t ht ds
    rw [Tiling.join, getLast?_joinRow (by simp [semicolon])] at ht
    obtain rfl : _ = t := by simpa [semicolon] using ht
    exact Lexeme.stopsAt_semicolon ds

theorem Tiling.exists_tiles_append_semicolon (a : String) :
    ∃ d : Tiling, d.Tiles (a ++ ";").toList ∧
      (∃ ts l, d.tokens .start = ts ++ [⟨.semicolon, ";", l⟩]) ∧
      ∀ t ∈ d.tiles.getLast?, ∀ cs, t.lexeme.StopsAt cs := by
  obtain ⟨d, hd⟩ := exists_tiles a.toList
  obtain ⟨htiles, hstop⟩ := hd.join_semicolon
  refine ⟨d.join semicolon, ?_, ⟨d.tokens .start, Location.start.after d.text, ?_⟩, hstop⟩
  · rw [String.toList_append]
    exact htiles
  · rw [tokens_join]
    rfl

/-- **A semicolon separates programs.**  The statements and the diagnostics of two texts with a
semicolon between them are those of the first, semicolon included, and then those of the second,
moved to the place of the end token of the first. -/
theorem Outcome.ofSource_append_semicolon (a b : String) :
    ∃ e, (tokenize (a ++ ";")).getLast? = some e ∧ e.kind = .eof ∧
      (ofSource (a ++ ";" ++ b)).program.statements =
        (ofSource (a ++ ";")).program.statements ++
          (ofSource b).program.statements.map (.shift e.location) ∧
      (ofSource (a ++ ";" ++ b)).diagnostics =
        (ofSource (a ++ ";")).diagnostics ++ (ofSource b).diagnostics.map (.shift e.location) := by
  obtain ⟨d, hd, ⟨ts, l, htokens⟩, hstop⟩ := Tiling.exists_tiles_append_semicolon a
  let e : Token := .endAt (Location.start.after (a ++ ";").toList)
  have hfirst : tokenize (a ++ ";") = ts ++ [⟨.semicolon, ";", l⟩, e] := by
    rw [hd.tokenize_eq, htokens, List.append_assoc]
    rfl
  have hboth : tokenize (a ++ ";" ++ b) =
      ts ++ ⟨.semicolon, ";", l⟩ :: (tokenize b).map (.shift e.location) := by
    rw [hd.tokenize_append fun t ht _ => hstop t ht _, htokens, List.append_assoc]
    rfl
  have hne : ∀ t ∈ ts, t.kind ≠ .eof := fun t ht =>
    hd.fitting.kind_ne_eof _ t (by
      change t ∈ d.tokens .start
      rw [htokens]
      exact List.mem_append_left _ ht)
  have houtcome : ofSource (a ++ ";" ++ b) =
      (ofSource (a ++ ";")).append ((ofSource b).shift e.location) := by
    rw [ofSource_eq, ofSource_eq, ofSource_eq, hboth, hfirst,
      ofTokens_append_semicolon rfl (e := e) rfl hne, ofTokens_map_shift]
  refine ⟨e, by simp [hfirst], rfl, ?_, ?_⟩
  · rw [houtcome]
    rfl
  · rw [houtcome]
    rfl

end LetInspector
