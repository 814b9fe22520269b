/-
**Tilings of joined texts.**

When one text stands behind another, the gap at the end of the first and the gap at the front of the
second become one, and the tiles stay as they are, unless the last lexeme of the first text goes on
into the second.  So the tokens of the two texts together are those of the first followed by those
of the second, moved to where the first one ends.

Main definitions:

* `LetInspector.Tiling.join` — two tilings, one behind the other.

Main results:

* `LetInspector.Tiling.tokens_join` — the tokens of joined tilings;
* `LetInspector.Tiling.Tiles.join` — **joined tilings are fitting**, if the last lexeme of the first
  ends where the second text begins;
* `LetInspector.Tiling.Tiles.tokenize_append` — the tokens of joined texts.
-/

import LetInspector.Proofs.Place

set_option autoImplicit false

namespace LetInspector

/-- A lexeme that ends in front of a text ends in front of any longer one. -/
theorem Lexeme.StopsAt.append {x : Lexeme} {cs ds : List Char} (hc : x.StopsAt cs)
    (hd : cs = [] → x.StopsAt ds) : x.StopsAt (cs ++ ds) := by
  cases cs with
  | nil => exact hd rfl
  | cons c cs => exact hc

namespace Tiling

open Tile

/-- A gap and a row of tiles, with another tiling behind them. -/
def joinRow (e : Tiling) : List Char → List Tile → Tiling
  | lead, [] => ⟨lead ++ e.lead, e.tiles⟩
  | lead, t :: ts => ⟨lead, ⟨t.lexeme, (joinRow e t.gap ts).lead⟩ :: (joinRow e t.gap ts).tiles⟩

/-- Two tilings, one behind the other. -/
def join (d e : Tiling) : Tiling := joinRow e d.lead d.tiles

theorem text_joinRow (e : Tiling) (lead : List Char) (ts : List Tile) :
    (joinRow e lead ts).text = lead ++ (textOf ts ++ e.text) := by
  induction ts generalizing lead with
  | nil => simp [joinRow, text]
  | cons t ts ih =>
      have htail := ih t.gap
      rw [text] at htail
      simp only [joinRow, text, textOf_cons, htail, List.append_assoc]

/-- A joined row begins with the gap that it began with; more can only follow behind the last
tile. -/
theorem exists_lead_joinRow (e : Tiling) (lead : List Char) (ts : List Tile) :
    ∃ more, (joinRow e lead ts).lead = lead ++ more := by
  cases ts with
  | nil => exact ⟨e.lead, rfl⟩
  | cons t ts => exact ⟨[], (List.append_nil lead).symm⟩

/-- The tokens of joined tilings are those of the first and, from where it ends, those of the
second. -/
theorem tokens_joinRow (e : Tiling) (lead : List Char) (ts : List Tile) (l : Location) :
    (joinRow e lead ts).tokens l =
      tokensFrom (l.after lead) ts ++ e.tokens (l.after (lead ++ textOf ts)) := by
  induction ts generalizing lead l with
  | nil => simp [joinRow, tokens, tokensFrom, Location.after_append]
  | cons t ts ih =>
      have htail := ih t.gap ((l.after lead).after t.lexeme.literal)
      rw [tokens] at htail
      simp only [joinRow, tokens, tokensFrom, textOf_cons, htail, List.cons_append,
        Location.after_append]

theorem tokens_join (d e : Tiling) (l : Location) :
    (d.join e).tokens l = d.tokens l ++ e.tokens (l.after d.text) :=
  tokens_joinRow e d.lead d.tiles l

/-- **Joined tilings are fitting**, if the last lexeme of the first text, unless a gap stands behind
it, ends where the second text begins. -/
theorem Tiles.join {d e : Tiling} {cs ds : List Char} (hd : d.Tiles cs) (he : e.Tiles ds)
    (hstop : ∀ t ∈ d.tiles.getLast?, t.gap = [] → t.lexeme.StopsAt ds) :
    (d.join e).Tiles (cs ++ ds) := by
  obtain ⟨lead, tiles⟩ := d
  simp only [Tiling.join] at hstop ⊢
  induction tiles generalizing lead cs with
  | nil =>
      refine ⟨?_, ?_, he.fitting⟩
      · rw [text_joinRow, ← hd.text_eq, he.text_eq]
        simp [text]
      · intro c hc
        rcases List.mem_append.1 hc with hc | hc
        · exact hd.lead c hc
        · exact he.lead c hc
  | cons t ts ih =>
      have hlast : ∀ u ∈ ts.getLast?, u.gap = [] → u.lexeme.StopsAt ds := by
        intro u hu
        exact hstop u (by rw [List.getLast?_cons, Option.mem_def.1 hu]; rfl)
      have htail := ih t.gap hd.tail hlast
      refine ⟨?_, hd.lead, ?_⟩
      · rw [text_joinRow, ← hd.text_eq, he.text_eq]
        simp [text]
      · cases hd.fitting with
        | cons lexical gap munch rest =>
            refine .cons lexical htail.lead ?_ htail.fitting
            intro hnil
            -- without a gap behind `t`, the rest of both texts follows right behind it
            obtain ⟨more, hmore⟩ := exists_lead_joinRow e t.gap ts
            have hgap : t.gap = [] :=
              (List.append_eq_nil_iff.1 (hmore.symm.trans hnil)).1
            have htext := htail.text_eq
            rw [text, show (joinRow e t.gap ts).lead = [] from hnil, hgap] at htext
            simp only [List.nil_append] at htext
            rw [hgap, htext]
            refine (munch hgap).append fun hts => ?_
            obtain rfl := rest.eq_nil_of_textOf hts
            exact hstop t rfl hgap

/-- The last tile of joined tilings is that of the second, if it has one. -/
theorem getLast?_joinRow {e : Tiling} (he : e.tiles ≠ []) (lead : List Char) (ts : List Tile) :
    (joinRow e lead ts).tiles.getLast? = e.tiles.getLast? := by
  induction ts generalizing lead with
  | nil => rfl
  | cons t ts ih =>
      have hne : e.tiles.getLast? ≠ none := by simpa using he
      obtain ⟨u, hu⟩ := Option.ne_none_iff_exists'.1 hne
      rw [joinRow, List.getLast?_cons, ih, hu]
      rfl

/-! ### The tokens of joined texts -/

/-- The tokens of a text that is moved behind another place. -/
theorem Tiles.map_shift_tokenize {e : Tiling} {b : String} (he : e.Tiles b.toList)
    (base : Location) :
    (tokenize b).map (.shift base) = e.tokens base ++ [.endAt (base.after b.toList)] := by
  rw [he.tokenize_eq, List.map_append, tokens, tokens, tokensFrom_after base e.lead,
    base.after_eq_shift b.toList]
  rfl

/-- **The tokens of joined texts**: those of the first without its end token, and then those of the
second, moved to where the first one ends. -/
theorem Tiles.tokenize_append {d : Tiling} {a b : String} (hd : d.Tiles a.toList)
    (hstop : ∀ t ∈ d.tiles.getLast?, t.gap = [] → t.lexeme.StopsAt b.toList) :
    tokenize (a ++ b) =
      d.tokens .start ++ (tokenize b).map (.shift (Location.start.after a.toList)) := by
  obtain ⟨e, he⟩ := exists_tiles b.toList
  have hjoin : (d.join e).Tiles (a ++ b).toList := by
    rw [String.toList_append]
    exact hd.join he hstop
  rw [hjoin.tokenize_eq, tokens_join, hd.text_eq, he.map_shift_tokenize, String.toList_append,
    Location.after_append, List.append_assoc]

end Tiling

end LetInspector
