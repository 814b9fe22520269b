/-
**Maximal munch.**

A tiling cuts a text into lexemes with gaps around them.  It is fitting when every lexeme belongs
to a lexical class, every gap consists of gap characters, and no lexeme with nothing behind it goes
on into the next one.  This module proves that every text has exactly one fitting tiling and that
reading a text gives the lexemes of that tiling, so that reading loses nothing and never stops
short.

Main definitions:

* `LetInspector.Tile`, `LetInspector.Tiling` — a lexeme with the gap behind it, and a text in
  tiles;
* `LetInspector.Tiling.Tiles` — a fitting tiling of a text;
* `LetInspector.Tiling.tokens` — the tokens of a tiling, from a given place on.

Main results:

* `LetInspector.Tiling.exists_tiles`, `LetInspector.Tiling.Tiles.unique` — there is exactly one;
* `LetInspector.Tiling.Tiles.readAll_eq` — **reading follows the tiling**;
* `LetInspector.Tiling.tokenize_maximal_munch` — the two together, for the tokens of a text.
-/

import LetInspector.Proofs.Lexical
import LetInspector.Token.Cursor

set_option autoImplicit false

namespace LetInspector

/-- The kind and the characters of a token, without its place. -/
def Token.lexeme (t : Token) : Lexeme := ⟨t.kind, t.literal.toList⟩

/-- The token that a lexeme makes at the place `l`. -/
def Lexeme.tokenAt (x : Lexeme) (l : Location) : Token := ⟨x.kind, String.ofList x.literal, l⟩

@[simp] theorem Lexeme.lexeme_tokenAt (x : Lexeme) (l : Location) : (x.tokenAt l).lexeme = x := by
  simp [Lexeme.tokenAt, Token.lexeme]

/-! ### Tiles -/

/-- A lexeme and the gap behind it. -/
structure Tile where
  lexeme : Lexeme
  gap : List Char

namespace Tile

/-- The characters of a tile. -/
def text (t : Tile) : List Char := t.lexeme.literal ++ t.gap

/-- The characters of a row of tiles. -/
def textOf (ts : List Tile) : List Char := ts.flatMap text

@[simp] theorem textOf_nil : textOf [] = [] := rfl

@[simp] theorem textOf_cons (t : Tile) (ts : List Tile) :
    textOf (t :: ts) = t.lexeme.literal ++ (t.gap ++ textOf ts) := by
  simp [textOf, text]

@[simp] theorem textOf_append (ts us : List Tile) : textOf (ts ++ us) = textOf ts ++ textOf us :=
  List.flatMap_append

/-- Whether every tile in a row holds a lexeme and a gap, and no lexeme without a gap goes on into
what follows it. -/
inductive Fitting : List Tile → Prop
  | nil : Fitting []
  | cons {t : Tile} {ts : List Tile} (lexical : t.lexeme.Lexical)
      (gap : ∀ c ∈ t.gap, isGap c = true) (munch : t.gap = [] → t.lexeme.StopsAt (textOf ts))
      (rest : Fitting ts) : Fitting (t :: ts)

/-- The tokens of a row of tiles whose first lexeme stands at the place `l`. -/
def tokensFrom (l : Location) : List Tile → List Token
  | [] => []
  | t :: ts => t.lexeme.tokenAt l :: tokensFrom ((l.after t.lexeme.literal).after t.gap) ts

/-- In a fitting row, a lexeme ends where the gap behind it begins. -/
theorem stopsAt_of_munch {t : Tile} {rest : List Char} (gap : ∀ c ∈ t.gap, isGap c = true)
    (munch : t.gap = [] → t.lexeme.StopsAt rest) : t.lexeme.StopsAt (t.gap ++ rest) := by
  cases hg : t.gap with
  | nil => exact munch hg
  | cons c cs =>
      have hc : isGap c = true := gap c (by simp [hg])
      exact Lexeme.stopsAt_cons.2 (t.lexeme.not_grows_of_isGap hc)

/-- A fitting row is read off its text, one tile at a time. -/
theorem Fitting.read_eq {t : Tile} {ts : List Tile} (h : Fitting (t :: ts)) :
    ∃ c cs, textOf (t :: ts) = c :: cs ∧ isGap c = false ∧
      Lexeme.read c cs = (t.lexeme, t.gap ++ textOf ts) := by
  cases h with
  | cons lexical gap munch rest =>
      obtain ⟨c, cs, hlit, hc, hread⟩ :=
        Lexeme.read_append lexical (stopsAt_of_munch gap munch)
      exact ⟨c, cs ++ (t.gap ++ textOf ts), by simp [hlit], hc, hread⟩

theorem Fitting.eq_nil_of_textOf {ts : List Tile} (h : Fitting ts) (htext : textOf ts = []) :
    ts = [] := by
  cases ts with
  | nil => rfl
  | cons t ts =>
      obtain ⟨c, cs, hc, -⟩ := h.read_eq
      rw [hc] at htext
      cases htext

/-- The text of a fitting row does not begin with a gap character. -/
theorem Fitting.isGap_head? {ts : List Tile} (h : Fitting ts) :
    ∀ c ∈ (textOf ts).head?, isGap c = false := by
  intro c hc
  cases ts with
  | nil => simp at hc
  | cons t ts =>
      obtain ⟨d, ds, htext, hd, -⟩ := h.read_eq
      rw [htext] at hc
      obtain rfl : d = c := by simpa using hc
      exact hd

/-- A gap in front of a fitting row is what skipping a gap skips. -/
theorem Fitting.skip_eq {gap : List Char} {ts : List Tile} (h : Fitting ts)
    (hgap : ∀ c ∈ gap, isGap c = true) :
    (gap ++ textOf ts).takeWhile isGap = gap ∧
      (gap ++ textOf ts).dropWhile isGap = textOf ts :=
  takeWhile_append_of_head? hgap h.isGap_head?

/-- Two fitting rows of tiles of one text are the same. -/
theorem Fitting.unique {ts us : List Tile} (ht : Fitting ts) (hu : Fitting us)
    (htext : textOf ts = textOf us) : ts = us := by
  induction ts generalizing us with
  | nil => exact (hu.eq_nil_of_textOf htext.symm).symm
  | cons t ts ih =>
      obtain ⟨c, cs, hc, -, hread⟩ := ht.read_eq
      cases us with
      | nil => exact ht.eq_nil_of_textOf htext
      | cons u us =>
          obtain ⟨d, ds, hd, -, hread'⟩ := hu.read_eq
          -- both first lexemes are read off the same characters
          rw [hc, hd, List.cons.injEq] at htext
          obtain ⟨rfl, rfl⟩ := htext
          rw [hread, Prod.mk.injEq] at hread'
          obtain ⟨hlex, hrest⟩ := hread'
          cases ht with
          | cons _ hgap _ ht =>
              cases hu with
              | cons _ hgap' _ hu =>
                  obtain ⟨htake, hdrop⟩ := ht.skip_eq hgap
                  obtain ⟨htake', hdrop'⟩ := hu.skip_eq hgap'
                  rw [hrest] at htake hdrop
                  have hg : t.gap = u.gap := htake.symm.trans htake'
                  obtain rfl := ih ht hu (hdrop.symm.trans hdrop')
                  cases t
                  cases u
                  subst hlex hg
                  rfl

theorem map_lexeme_tokensFrom (l : Location) (ts : List Tile) :
    (tokensFrom l ts).map Token.lexeme = ts.map Tile.lexeme := by
  induction ts generalizing l with
  | nil => rfl
  | cons t ts ih =>
      rw [tokensFrom, List.map_cons, List.map_cons, ih, Lexeme.lexeme_tokenAt]

theorem Fitting.kind_ne_eof {ts : List Tile} (h : Fitting ts) (l : Location) :
    ∀ t ∈ tokensFrom l ts, t.kind ≠ .eof := by
  induction h generalizing l with
  | nil => simp [tokensFrom]
  | cons lexical gap munch rest ih =>
      intro u hu
      rcases List.mem_cons.1 hu with rfl | hu
      · exact lexical.kind_ne_eof
      · exact ih _ u hu

theorem Fitting.lexical_of_mem {ts : List Tile} (h : Fitting ts) {t : Tile} (ht : t ∈ ts) :
    t.lexeme.Lexical := by
  induction h with
  | nil => cases ht
  | cons lexical gap munch rest ih =>
      rcases List.mem_cons.1 ht with rfl | ht
      · exact lexical
      · exact ih ht

theorem exists_tile_of_mem_tokensFrom {l : Location} {ts : List Tile} {u : Token}
    (h : u ∈ tokensFrom l ts) : ∃ t ∈ ts, t.lexeme = u.lexeme := by
  have hmem : u.lexeme ∈ (tokensFrom l ts).map Token.lexeme := List.mem_map_of_mem h
  rw [map_lexeme_tokensFrom] at hmem
  exact List.mem_map.1 hmem

theorem mem_textOf {ts : List Tile} {t : Tile} (ht : t ∈ ts) {c : Char}
    (hc : c ∈ t.lexeme.literal) : c ∈ textOf ts := by
  refine List.mem_flatMap.2 ⟨t, ht, ?_⟩
  exact List.mem_append_left _ hc

end Tile

/-! ### Tilings -/

/-- A gap in front and a row of tiles. -/
structure Tiling where
  lead : List Char
  tiles : List Tile

namespace Tiling

open Tile

/-- The text that a tiling cuts up. -/
def text (d : Tiling) : List Char := d.lead ++ textOf d.tiles

/-- The lexemes of a tiling, in order. -/
def lexemes (d : Tiling) : List Lexeme := d.tiles.map Tile.lexeme

/-- The tokens of a tiling of a text that starts at the place `l`. -/
def tokens (d : Tiling) (l : Location) : List Token := tokensFrom (l.after d.lead) d.tiles

/-- **A fitting tiling of a text**: nothing is lost and nothing added, only gap characters stand in
front of the first lexeme, and the tiles are fitting. -/
structure Tiles (d : Tiling) (cs : List Char) : Prop where
  text_eq : d.text = cs
  lead : ∀ c ∈ d.lead, isGap c = true
  fitting : Fitting d.tiles

/-! ### There is exactly one -/

theorem exists_tiles (cs : List Char) : ∃ d : Tiling, d.Tiles cs := by
  -- induction on the length of the text, of which the first lexeme takes at least one character
  induction hn : cs.length using Nat.strongRecOn generalizing cs with
  | _ n ih =>
      have hsplit : cs.takeWhile isGap ++ cs.dropWhile isGap = cs := List.takeWhile_append_dropWhile
      have hlead : ∀ c ∈ cs.takeWhile isGap, isGap c = true := fun c hc =>
        List.mem_takeWhile_imp hc
      cases hr : cs.dropWhile isGap with
      | nil =>
          rw [hr] at hsplit
          exact ⟨⟨cs.takeWhile isGap, []⟩, hsplit, hlead, .nil⟩
      | cons c rest =>
          rw [hr] at hsplit
          have hhead : c ∈ (cs.dropWhile isGap).head? := by simp [hr]
          have hc : isGap c = false := eq_false_of_mem_head?_dropWhile hhead
          have hlen : (Lexeme.read c rest).2.length < n := by
            have hle := Lexeme.read_rest_length_le c rest
            have hcs := congrArg List.length hsplit
            simp only [List.length_append, List.length_cons] at hcs
            omega
          obtain ⟨d, htext, hgap, hfit⟩ := ih _ hlen (Lexeme.read c rest).2 rfl
          refine ⟨⟨cs.takeWhile isGap, ⟨(Lexeme.read c rest).1, d.lead⟩ :: d.tiles⟩, ?_, hlead, ?_⟩
          · have happ : (Lexeme.read c rest).1.literal ++ d.text = c :: rest := by
              rw [htext]
              exact Lexeme.literal_append_read c rest
            calc (⟨cs.takeWhile isGap, ⟨(Lexeme.read c rest).1, d.lead⟩ :: d.tiles⟩ : Tiling).text
                = cs.takeWhile isGap ++ ((Lexeme.read c rest).1.literal ++ d.text) := by simp [text]
              _ = cs := by rw [happ, hsplit]
          · refine .cons (Lexeme.lexical_read rest hc) hgap ?_ hfit
            intro hnil
            have hstop := Lexeme.stopsAt_read rest hc
            rw [← htext, text, show d.lead = [] from hnil] at hstop
            exact hstop

theorem Tiles.skip_eq {d : Tiling} {cs : List Char} (h : d.Tiles cs) :
    cs.takeWhile isGap = d.lead ∧ cs.dropWhile isGap = textOf d.tiles := by
  rw [← h.text_eq]
  exact h.fitting.skip_eq h.lead

/-- The text behind the first lexeme is tiled by the gap there and the other tiles. -/
theorem Tiles.tail {lead cs : List Char} {t : Tile} {ts : List Tile}
    (h : (⟨lead, t :: ts⟩ : Tiling).Tiles cs) :
    (⟨t.gap, ts⟩ : Tiling).Tiles (t.gap ++ textOf ts) := by
  cases h.fitting with
  | cons lexical gap munch rest => exact ⟨rfl, gap, rest⟩

/-- **A text has only one fitting tiling.** -/
theorem Tiles.unique {d e : Tiling} {cs : List Char} (hd : d.Tiles cs) (he : e.Tiles cs) :
    d = e := by
  obtain ⟨hlead, htext⟩ := hd.skip_eq
  obtain ⟨hlead', htext'⟩ := he.skip_eq
  have htiles : d.tiles = e.tiles :=
    hd.fitting.unique he.fitting (htext.symm.trans htext')
  cases d
  cases e
  simp only [Tiling.mk.injEq]
  exact ⟨hlead.symm.trans hlead', htiles⟩

/-! ### Reading follows the tiling -/

/-- The next token is that of the first tile, and the cursor then stands in front of the gap of that
tile. -/
theorem Tiles.next_eq {lead : List Char} {t : Tile} {ts : List Tile} {c : Cursor}
    (h : (⟨lead, t :: ts⟩ : Tiling).Tiles c.rest) :
    c.next = (t.lexeme.tokenAt (c.location.after lead),
      ⟨t.gap ++ textOf ts, (c.location.after lead).after t.lexeme.literal⟩) := by
  obtain ⟨hlead, htext⟩ := h.skip_eq
  obtain ⟨x, xs, hx, -, hread⟩ := h.fitting.read_eq
  have hskip : c.skipGap = ⟨x :: xs, c.location.after lead⟩ := by
    rw [Cursor.skipGap, hlead, htext, hx]
  rw [Cursor.next, hskip, Cursor.take_of_rest_eq_cons rfl, hread]
  rfl

/-- A cursor with nothing but a gap in front of it is at the end of the text. -/
theorem Tiles.next_eq_of_nil {lead : List Char} {c : Cursor}
    (h : (⟨lead, []⟩ : Tiling).Tiles c.rest) :
    c.next = (.endAt (c.location.after lead), ⟨[], c.location.after lead⟩) := by
  obtain ⟨hlead, htext⟩ := h.skip_eq
  have hskip : c.skipGap = ⟨[], c.location.after lead⟩ := by
    rw [Cursor.skipGap, hlead, htext]
    rfl
  rw [Cursor.next, hskip, Cursor.take_of_rest_eq_nil rfl]

/-- **Reading follows the tiling**: reading all of a text gives the tokens of its fitting tiling and
an end token, and leaves nothing. -/
theorem Tiles.readAll_eq {d : Tiling} {c : Cursor} (h : d.Tiles c.rest) :
    c.readAll = (d.tokens c.location ++ [.endAt (c.location.after c.rest)],
      ⟨[], c.location.after c.rest⟩) := by
  obtain ⟨lead, tiles⟩ := d
  induction tiles generalizing lead c with
  | nil =>
      have hrest : c.rest = lead := by rw [← h.text_eq, text, textOf_nil, List.append_nil]
      rw [Cursor.readAll_eq, h.next_eq_of_nil, hrest]
      rfl
  | cons t ts ih =>
      have hne : (t.lexeme.tokenAt (c.location.after lead)).kind ≠ .eof := by
        cases h.fitting with
        | cons lexical gap munch rest => exact lexical.kind_ne_eof
      have hrest : c.rest = lead ++ (t.lexeme.literal ++ (t.gap ++ textOf ts)) := by
        rw [← h.text_eq, text, textOf_cons]
      have htail := ih t.gap h.tail
        (c := ⟨t.gap ++ textOf ts, (c.location.after lead).after t.lexeme.literal⟩)
      rw [Cursor.readAll_eq, h.next_eq, if_neg hne, htail, hrest]
      simp only [Location.after_append]
      rfl

/-- The tokens of a text are those of its fitting tiling, and an end token where the text ends. -/
theorem Tiles.tokenize_eq {d : Tiling} {s : String} (h : d.Tiles s.toList) :
    tokenize s = d.tokens .start ++ [.endAt (Location.start.after s.toList)] := by
  have hread := Tiles.readAll_eq (c := Cursor.ofSource s) h
  rw [tokenize, hread]
  rfl

/-- Without their places, the tokens of a text are the lexemes of its fitting tiling, and an end
token. -/
theorem Tiles.map_lexeme_tokenize {d : Tiling} {s : String} (h : d.Tiles s.toList) :
    (tokenize s).map Token.lexeme = d.lexemes ++ [⟨.eof, []⟩] := by
  rw [h.tokenize_eq, List.map_append, tokens, map_lexeme_tokensFrom]
  rfl

/-- The lexemes of a fitting tiling belong to lexical classes. -/
theorem Tiles.lexical_of_mem_lexemes {d : Tiling} {cs : List Char} (h : d.Tiles cs) {x : Lexeme}
    (hx : x ∈ d.lexemes) : x.Lexical := by
  obtain ⟨t, ht, rfl⟩ := List.mem_map.1 hx
  exact h.fitting.lexical_of_mem ht

/-- The tokens of a fitting tiling hold its lexemes. -/
theorem Tiles.lexical_of_mem_tokens {d : Tiling} {cs : List Char} (h : d.Tiles cs) {l : Location}
    {t : Token} (ht : t ∈ d.tokens l) : t.lexeme.Lexical := by
  obtain ⟨u, hu, hlex⟩ := exists_tile_of_mem_tokensFrom ht
  exact hlex ▸ h.fitting.lexical_of_mem hu

/-- Every token but the end token holds a lexeme. -/
theorem lexical_of_mem_tokenize {s : String} {t : Token} (ht : t ∈ tokenize s)
    (heof : t.kind ≠ .eof) : t.lexeme.Lexical := by
  obtain ⟨d, hd⟩ := exists_tiles s.toList
  rw [hd.tokenize_eq] at ht
  rcases List.mem_append.1 ht with ht | ht
  · exact hd.lexical_of_mem_tokens ht
  · obtain rfl := List.mem_singleton.1 ht
    exact absurd rfl heof

/-- No token of a text holds a gap character. -/
theorem isGap_eq_false_of_mem_tokenize {s : String} {t : Token} (ht : t ∈ tokenize s) {c : Char}
    (hc : c ∈ t.literal.toList) : isGap c = false := by
  obtain ⟨d, hd⟩ := exists_tiles s.toList
  have hmem : t.lexeme ∈ d.lexemes ++ [⟨.eof, []⟩] :=
    hd.map_lexeme_tokenize ▸ List.mem_map_of_mem ht
  rcases List.mem_append.1 hmem with hmem | hmem
  · exact (hd.lexical_of_mem_lexemes hmem).isGap_eq_false hc
  · have hnil : t.literal.toList = [] := congrArg Lexeme.literal (List.mem_singleton.1 hmem)
    rw [hnil] at hc
    cases hc

/-- **Maximal munch.**  A text has exactly one fitting tiling, and its tokens are the lexemes of
that tiling, followed by one end token. -/
theorem tokenize_maximal_munch (s : String) :
    ∃ d : Tiling, d.Tiles s.toList ∧
      (∃ ts e, tokenize s = ts ++ [e] ∧ ts.map Token.lexeme = d.lexemes ∧
        (∀ t ∈ ts, t.kind ≠ .eof) ∧ e.kind = .eof ∧ e.literal = "") ∧
      ∀ d' : Tiling, d'.Tiles s.toList → d' = d := by
  obtain ⟨d, hd⟩ := exists_tiles s.toList
  refine ⟨d, hd, ?_, fun d' hd' => hd'.unique hd⟩
  exact ⟨d.tokens .start, .endAt (Location.start.after s.toList), hd.tokenize_eq,
    map_lexeme_tokensFrom _ _, hd.fitting.kind_ne_eof _, rfl, rfl⟩

end Tiling

end LetInspector
