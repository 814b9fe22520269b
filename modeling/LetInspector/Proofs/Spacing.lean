/-
**How a text is laid out.**

A text can be set again from the literals of its tokens, with other gaps around them.  As long as
something stands between any two of them, the new text has the same tokens, at other places.  This
holds also where two literals stood side by side in the old text: each literal alone belongs to its
lexical class, and no lexeme goes on into a gap.  Since nothing is decided by a place, the two texts
then hold the same program, up to places.

Main definitions:

* `LetInspector.literals` — the literals of a text;
* `LetInspector.Spacing`, `LetInspector.Spacing.layOut` — gaps for a number of texts, and the texts
  with these gaps.

Main results:

* `LetInspector.Tile.fitting_zip` — lexemes with gaps between them are a fitting row of tiles;
* `LetInspector.Spacing.map_lexeme_tokenize_layOut` — the tokens of a text that was laid out;
* `LetInspector.Spacing.layOut_reads_same` — **the layout does not matter**.
-/

import LetInspector.Proofs.Display
import LetInspector.Proofs.Lines

set_option autoImplicit false

namespace LetInspector

/-- The literals of the tokens of a text, the end token left out. -/
def literals (s : String) : List String :=
  ((tokenize s).filter fun t => t.kind ≠ .eof).map Token.literal

/-! ### Gaps around texts -/

/-- Gaps for `n` texts: one in front of them and one behind each of them.  Only the gap in front of
all and the gap behind all may be empty. -/
structure Spacing (n : Nat) where
  /-- The gap in front. -/
  lead : String
  /-- The gaps behind the texts, in order. -/
  gaps : List String
  /-- There is a gap for each of the texts. -/
  length_gaps : gaps.length = n
  /-- The gap in front holds nothing but gap characters. -/
  isGap_lead : ∀ c ∈ lead.toList, isGap c = true
  /-- The other gaps hold nothing but gap characters. -/
  isGap_gaps : ∀ gap ∈ gaps, ∀ c ∈ gap.toList, isGap c = true
  /-- No two of the texts stand side by side. -/
  apart : ∀ gap ∈ gaps.dropLast, gap ≠ ""

/-- A blank behind each text. -/
instance {n : Nat} : Inhabited (Spacing n) where
  default := {
    lead := ""
    gaps := List.replicate n " "
    length_gaps := List.length_replicate
    isGap_lead := by simp
    isGap_gaps := by
      intro gap hgap
      obtain rfl := List.eq_of_mem_replicate hgap
      exact List.all_eq_true.1 rfl
    apart := by
      intro gap hgap
      obtain rfl := List.eq_of_mem_replicate (List.dropLast_subset _ hgap)
      decide
  }

/-- Texts with the gaps of a spacing around them. -/
def Spacing.layOut {n : Nat} (g : Spacing n) (texts : List String) : String :=
  g.lead ++ String.join ((texts.zip g.gaps).map fun p => p.1 ++ p.2)

/-! ### The tiling of a text that was laid out -/

/-- **Lexemes with gaps between them are a fitting row of tiles.** -/
theorem Tile.fitting_zip {xs : List Lexeme} {gaps : List (List Char)}
    (hlexical : ∀ x ∈ xs, x.Lexical) (hlength : gaps.length = xs.length)
    (hgap : ∀ gap ∈ gaps, ∀ c ∈ gap, isGap c = true) (hapart : ∀ gap ∈ gaps.dropLast, gap ≠ []) :
    Fitting ((xs.zip gaps).map fun p => ⟨p.1, p.2⟩) := by
  induction xs generalizing gaps with
  | nil => exact .nil
  | cons x xs ih =>
      cases gaps with
      | nil => exact .nil
      | cons gap gaps =>
          have hrest : gaps.length = xs.length := by simpa using hlength
          rw [List.zip_cons_cons, List.map_cons]
          refine .cons (hlexical x (List.mem_cons_self ..)) (hgap gap (List.mem_cons_self ..)) ?_
            (ih (fun y hy => hlexical y (List.mem_cons_of_mem x hy)) hrest
              (fun h hh => hgap h (List.mem_cons_of_mem gap hh)) ?_)
          · -- an empty gap can only be the last one, and nothing stands behind it
            intro hnil
            cases gaps with
            | nil =>
                rw [List.zip_nil_right]
                exact x.stopsAt_nil
            | cons next gaps =>
                exact absurd hnil (hapart gap (by simp))
          · intro h hh
            cases gaps with
            | nil => cases hh
            | cons next gaps => exact hapart h (List.mem_cons_of_mem gap hh)

theorem Tiling.Tiles.literals_eq {d : Tiling} {s : String} (hd : d.Tiles s.toList) :
    literals s = d.lexemes.map fun x => String.ofList x.literal := by
  have hliteral : Token.literal = (fun x : Lexeme => String.ofList x.literal) ∘ Token.lexeme := by
    funext t
    simp [Token.lexeme]
  rw [literals, filter_tokenize, hd.tokensAt_eq, hliteral, ← List.map_map, tokens,
    Tile.map_lexeme_tokensFrom, lexemes]

namespace Outcome

/-- At other places, an outcome has the same names. -/
theorem names_relocate (f : Location → Location) (o : Outcome) :
    (o.relocate f).program.names = o.program.names := by
  rw [relocate, Program.names, List.map_map]
  rfl

/-- At other places, diagnostics want and find the same kinds. -/
theorem map_kinds_relocate (f : Location → Location) (o : Outcome) :
    (o.relocate f).diagnostics.map (fun d => (d.expected, d.found)) =
      o.diagnostics.map (fun d => (d.expected, d.found)) := by
  rw [relocate, List.map_map]
  rfl

end Outcome

namespace Spacing

/-- The tiling of lexemes that were laid out. -/
def tiling {n : Nat} (g : Spacing n) (xs : List Lexeme) : Tiling :=
  ⟨g.lead.toList, (xs.zip (g.gaps.map String.toList)).map fun p => ⟨p.1, p.2⟩⟩

theorem lexemes_tiling {xs : List Lexeme} (g : Spacing xs.length) : (g.tiling xs).lexemes = xs := by
  have hlength : xs.length ≤ (g.gaps.map String.toList).length := by
    rw [List.length_map, g.length_gaps]
  rw [tiling, Tiling.lexemes, List.map_map]
  exact List.map_fst_zip hlength

/-- Lexemes that were laid out are tiled by themselves. -/
theorem tiles_tiling {xs : List Lexeme} (hlexical : ∀ x ∈ xs, x.Lexical) (g : Spacing xs.length) :
    (g.tiling xs).Tiles (g.layOut (xs.map fun x => String.ofList x.literal)).toList where
  text_eq := by
    rw [tiling, Tiling.text, layOut, String.toList_append, String.toList_join, Tile.textOf,
      List.zip_map_right, List.zip_map_left, List.map_map, List.map_map, List.flatMap_map,
      List.flatMap_map]
    simp [Tile.text]
  lead := g.isGap_lead
  fitting := by
    refine Tile.fitting_zip hlexical ?_ ?_ ?_
    · rw [List.length_map, g.length_gaps]
    · intro gap hgap
      obtain ⟨h, hmem, rfl⟩ := List.mem_map.1 hgap
      exact g.isGap_gaps h hmem
    · intro gap hgap
      rw [← List.map_dropLast] at hgap
      obtain ⟨h, hmem, rfl⟩ := List.mem_map.1 hgap
      simpa using g.apart h hmem

/-! ### The layout does not matter -/

/-- A text that was laid out again has the tokens that it had. -/
theorem map_lexeme_tokenize_layOut (s : String) (g : Spacing (literals s).length) :
    (tokenize (g.layOut (literals s))).map Token.lexeme = (tokenize s).map Token.lexeme := by
  obtain ⟨d, hd⟩ := Tiling.exists_tiles s.toList
  have hlexical : ∀ x ∈ d.lexemes, x.Lexical := fun x hx => hd.lexical_of_mem_lexemes hx
  revert g
  rw [hd.literals_eq, List.length_map]
  intro g
  rw [(tiles_tiling hlexical g).map_lexeme_tokenize, lexemes_tiling, hd.map_lexeme_tokenize]

/-- **The layout does not matter.**  A text that is set again from its literals, with any gaps
around them and something between any two, has tokens of the same kinds and characters, and is read
as statements with the same names and diagnostics with the same kinds. -/
theorem layOut_reads_same (s : String) (g : Spacing (literals s).length) :
    (tokenize (g.layOut (literals s))).map Token.lexeme = (tokenize s).map Token.lexeme ∧
      (Outcome.ofSource (g.layOut (literals s))).program.names =
        (Outcome.ofSource s).program.names ∧
      (Outcome.ofSource (g.layOut (literals s))).diagnostics.map (fun d => (d.expected, d.found)) =
        (Outcome.ofSource s).diagnostics.map (fun d => (d.expected, d.found)) := by
  have hlexemes := g.map_lexeme_tokenize_layOut s
  have houtcome := Outcome.relocate_ofTokens_of_map_lexeme hlexemes .start
  rw [← Outcome.ofSource_eq, ← Outcome.ofSource_eq] at houtcome
  refine ⟨hlexemes, ?_, ?_⟩
  · have hnames := congrArg (fun o => o.program.names) houtcome
    simpa only [Outcome.names_relocate] using hnames
  · have hkinds := congrArg (fun o => o.diagnostics.map fun d => (d.expected, d.found)) houtcome
    simpa only [Outcome.map_kinds_relocate] using hkinds

end Spacing

end LetInspector
