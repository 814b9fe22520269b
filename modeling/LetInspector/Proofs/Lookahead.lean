/-
**What more text cannot change.**

Where a lexeme ends is seen from the character behind it, and from nothing further on.  So a token
of a text is settled as soon as the text goes on by one character behind it: whatever else follows,
the token keeps its kind, its characters and its place.

The proof reads two texts that begin alike.  As long as the next lexeme ends inside the common part,
with a character of that part behind it, both texts have it, and the rest of the common part is
shorter.  Once it does not, no later token ends inside the common part either, in neither of them.

Main definitions:

* `LetInspector.Location.distance` — how many characters a text has between two places;
* `LetInspector.Token.startIn`, `LetInspector.Token.stopIn` — how many characters of a text stand
  in front of the start and the end of a token;
* `LetInspector.settled` — the tokens that end in front of a character of a text;
* `LetInspector.Opening` — the first lexeme of a text, with a character behind it.

Main results:

* `LetInspector.exists_front_of_mem_tokenize` — a token stands behind as many characters as
  `LetInspector.Token.startIn` says;
* `LetInspector.Opening.settledAt_eq`, `LetInspector.settledAt_eq_nil` — the settled tokens of a
  text, one by one;
* `LetInspector.settled_append` — **more text cannot change what is settled**.
-/

import LetInspector.Proofs.Lines

set_option autoImplicit false

namespace LetInspector

/-! ### Distances -/

namespace Location

/-- How many characters of a text that begins at the place `m` stand in front of the place `l`; all
of them if `l` is not in the text. -/
def distance (m l : Location) : List Char → Nat
  | [] => 0
  | c :: cs => if m = l then 0 else distance (m.step c) l cs + 1

@[simp] theorem distance_self (m : Location) (cs : List Char) : m.distance m cs = 0 := by
  cases cs with
  | nil => rfl
  | cons c cs => rw [distance, if_pos rfl]

/-- The distance to a place behind some characters is counted from behind them. -/
theorem distance_append (m : Location) (front more cs : List Char) :
    m.distance ((m.after front).after more) (front ++ cs) =
      front.length + (m.after front).distance ((m.after front).after more) cs := by
  induction front generalizing m with
  | nil => rw [List.length_nil, Nat.zero_add]; rfl
  | cons c front ih =>
      have hne : m ≠ (m.after (c :: front)).after more := by
        rw [← after_append]
        exact fun h => List.cons_ne_nil _ _ ((eq_after_iff m).1 h)
      rw [List.cons_append, distance, if_neg hne, after_cons, ih, List.length_cons,
        Nat.add_right_comm]

theorem distance_after (m : Location) (front cs : List Char) :
    m.distance (m.after front) (front ++ cs) = front.length := by
  have happ := m.distance_append front [] cs
  rwa [after_nil, distance_self, Nat.add_zero] at happ

end Location

/-- How many characters of the text `s` stand in front of the token `t`. -/
def Token.startIn (s : String) (t : Token) : Nat := Location.start.distance t.location s.toList

/-- How many characters of the text `s` stand in front of the end of the token `t`. -/
def Token.stopIn (s : String) (t : Token) : Nat := t.startIn s + t.literal.length

/-- The tokens of the text `s` that end in front of the character number `n`, counted from one. -/
def settled (s : String) (n : Nat) : List Token := (tokenize s).filter fun t => t.stopIn s < n

open Tile Tiling

/-- A token stands behind the characters that lead to its place. -/
theorem Tile.exists_front_of_mem_tokensFrom {l : Location} {ts : List Tile} {u : Token}
    (h : u ∈ tokensFrom l ts) :
    ∃ front rest, textOf ts = front ++ (u.literal.toList ++ rest) ∧
      u.location = l.after front := by
  induction ts generalizing l with
  | nil => cases h
  | cons t ts ih =>
      rcases List.mem_cons.1 h with rfl | h
      · exact ⟨[], t.gap ++ textOf ts, by simp [Lexeme.tokenAt], rfl⟩
      · obtain ⟨front, rest, htext, hplace⟩ := ih h
        refine ⟨t.lexeme.literal ++ (t.gap ++ front), rest, ?_, ?_⟩
        · simp [htext]
        · rw [hplace, Location.after_append, Location.after_append]

/-! ### The first lexeme of a text -/

/-- The first lexeme of the text `cs`, which stands behind the gap `lead` and has the text `rest`
behind it.  At least one character follows, so it is certain that the lexeme ends there. -/
structure Opening (lead : List Char) (x : Lexeme) (rest cs : List Char) : Prop where
  text_eq : cs = lead ++ (x.literal ++ rest)
  lead : ∀ c ∈ lead, isGap c = true
  lexical : x.Lexical
  stopsAt : x.StopsAt rest
  rest_ne_nil : rest ≠ []

/-- The tokens of the text `cs ++ ds`, which stands at the place `l`, that end in front of the last
character of `cs`. -/
def settledAt (l : Location) (cs ds : List Char) : List Token :=
  (tokensAt l (cs ++ ds)).filter fun t =>
    l.distance t.location (cs ++ ds) + t.literal.length < cs.length

section

variable {lead rest cs : List Char} {x : Lexeme}

/-- The first lexeme of a text is that of any longer text. -/
theorem Opening.tokensAt_append (h : Opening lead x rest cs) (l : Location) (ds : List Char) :
    tokensAt l (cs ++ ds) =
      x.tokenAt (l.after lead) :: tokensAt (l.after (lead ++ x.literal)) (rest ++ ds) := by
  obtain ⟨d, hd⟩ := exists_tiles (rest ++ ds)
  have hstop : x.StopsAt (rest ++ ds) :=
    h.stopsAt.append fun hnil => absurd hnil h.rest_ne_nil
  have htiles : (⟨lead, ⟨x, d.lead⟩ :: d.tiles⟩ : Tiling).Tiles (cs ++ ds) := by
    refine ⟨?_, h.lead, .cons h.lexical hd.lead ?_ hd.fitting⟩
    · rw [h.text_eq, Tiling.text, textOf_cons, List.append_assoc, List.append_assoc,
        ← hd.text_eq, Tiling.text]
    · intro hnil
      rw [← hd.text_eq, Tiling.text, show d.lead = [] from hnil, List.nil_append] at hstop
      exact hstop
  rw [htiles.tokensAt_eq, hd.tokensAt_eq, tokens, tokens, tokensFrom, Location.after_append]

/-- **The settled tokens of a text begin with its first lexeme**, if a character follows it. -/
theorem Opening.settledAt_eq (h : Opening lead x rest cs) (l : Location) (ds : List Char) :
    settledAt l cs ds =
      x.tokenAt (l.after lead) :: settledAt (l.after (lead ++ x.literal)) rest ds := by
  have hrest := List.length_pos_iff.2 h.rest_ne_nil
  have hlength : cs.length = lead.length + (x.literal.length + rest.length) := by
    rw [h.text_eq, List.length_append, List.length_append]
  have htext : cs ++ ds = (lead ++ x.literal) ++ (rest ++ ds) := by
    rw [h.text_eq]
    simp
  rw [settledAt, h.tokensAt_append, List.filter_cons_of_pos, settledAt]
  · congr 1
    refine List.filter_congr fun t ht => ?_
    obtain ⟨d, hd⟩ := exists_tiles (rest ++ ds)
    rw [hd.tokensAt_eq] at ht
    obtain ⟨front, -, -, hplace⟩ := exists_front_of_mem_tokensFrom ht
    rw [← Location.after_append] at hplace
    rw [htext, hplace, Location.distance_append, List.length_append, decide_eq_decide]
    omega
  · have hplace := l.distance_after lead (x.literal ++ (rest ++ ds))
    rw [← List.append_assoc, ← htext] at hplace
    simp only [Lexeme.tokenAt, hplace, String.length_ofList, decide_eq_true_eq]
    omega

/-- A first tile that ends in front of the last character of a text is the opening of the text. -/
theorem Tiling.Tiles.exists_opening {ds : List Char} {t : Tile} {ts : List Tile}
    (hd : (⟨lead, t :: ts⟩ : Tiling).Tiles (cs ++ ds))
    (hlt : lead.length + t.lexeme.literal.length < cs.length) :
    ∃ rest, Opening lead t.lexeme rest cs := by
  have htext : (lead ++ t.lexeme.literal) ++ (t.gap ++ textOf ts) = cs ++ ds := by
    rw [← hd.text_eq, Tiling.text, textOf_cons, List.append_assoc]
  obtain ⟨rest, rfl⟩ : lead ++ t.lexeme.literal <+: cs := by
    refine List.prefix_of_prefix_length_le ⟨_, htext⟩ ⟨ds, rfl⟩ ?_
    rw [List.length_append]
    omega
  rw [List.append_assoc (lead ++ _), List.append_cancel_left_eq] at htext
  have hne : rest ≠ [] := by
    rintro rfl
    simp at hlt
  refine ⟨rest, List.append_assoc .., hd.lead, ?_, ?_, hne⟩
  · exact hd.fitting.lexical_of_mem (List.mem_cons_self ..)
  · cases hd.fitting with
    | cons lexical gap munch fitting =>
        have hstop := stopsAt_of_munch gap munch
        obtain ⟨c, rest, rfl⟩ := List.exists_cons_of_ne_nil hne
        rw [htext, List.cons_append, Lexeme.stopsAt_cons] at hstop
        exact Lexeme.stopsAt_cons.2 hstop

/-- If no lexeme is certain to end inside a text, then none of its tokens are settled. -/
theorem settledAt_eq_nil (h : ¬ ∃ lead x rest, Opening lead x rest cs) (l : Location)
    (ds : List Char) : settledAt l cs ds = [] := by
  refine List.filter_eq_nil_iff.2 ?_
  intro u hu hlt
  obtain ⟨⟨lead, tiles⟩, hd⟩ := exists_tiles (cs ++ ds)
  rw [hd.tokensAt_eq, tokens] at hu
  rw [← hd.text_eq, Tiling.text, decide_eq_true_eq] at hlt
  cases tiles with
  | nil => cases hu
  | cons t ts =>
      -- no token ends in front of the end of the first one
      have hfirst : lead.length + t.lexeme.literal.length < cs.length := by
        rcases List.mem_cons.1 hu with rfl | hu
        · rw [Lexeme.tokenAt, Location.distance_after, String.length_ofList] at hlt
          exact hlt
        · obtain ⟨front, rest, htext, hplace⟩ := exists_front_of_mem_tokensFrom hu
          have hfront : u.location = l.after (lead ++ (t.lexeme.literal ++ (t.gap ++ front))) := by
            simp only [hplace, Location.after_append]
          have hsplit : lead ++ textOf (t :: ts) =
              (lead ++ (t.lexeme.literal ++ (t.gap ++ front))) ++ (u.literal.toList ++ rest) := by
            simp [htext]
          rw [hfront, hsplit, Location.distance_after] at hlt
          simp only [List.length_append] at hlt
          omega
      obtain ⟨rest, hopening⟩ := hd.exists_opening hfirst
      exact h ⟨lead, t.lexeme, rest, hopening⟩

end

/-- **What is settled does not depend on what follows.** -/
theorem settledAt_eq_settledAt (l : Location) (cs ds es : List Char) :
    settledAt l cs ds = settledAt l cs es := by
  -- induction on the length of the common part, of which each settled token takes some
  induction hn : cs.length using Nat.strongRecOn generalizing l cs with
  | _ n ih =>
      by_cases h : ∃ lead x rest, Opening lead x rest cs
      · obtain ⟨lead, x, rest, hopening⟩ := h
        have hlength : rest.length < n := by
          have hpos := List.length_pos_iff.2 hopening.lexical.literal_ne_nil
          rw [← hn, hopening.text_eq, List.length_append, List.length_append]
          omega
        rw [hopening.settledAt_eq, hopening.settledAt_eq, ih _ hlength _ rest rfl]
      · rw [settledAt_eq_nil h, settledAt_eq_nil h]

/-! ### The tokens of texts that begin alike -/

/-- **A token stands where it starts**: as many characters in front of it as its start says, and
then its literal. -/
theorem exists_front_of_mem_tokenize {s : String} {t : Token} (ht : t ∈ tokenize s) :
    ∃ front rest, s.toList = front ++ (t.literal.toList ++ rest) ∧
      t.location = Location.start.after front ∧ t.startIn s = front.length := by
  obtain ⟨d, hd⟩ := exists_tiles s.toList
  obtain ⟨front, rest, htext, hplace⟩ : ∃ front rest,
      s.toList = front ++ (t.literal.toList ++ rest) ∧
        t.location = Location.start.after front := by
    rw [hd.tokenize_eq] at ht
    rcases List.mem_append.1 ht with ht | ht
    · obtain ⟨front, rest, htext, hplace⟩ := exists_front_of_mem_tokensFrom ht
      refine ⟨d.lead ++ front, rest, ?_, ?_⟩
      · rw [← hd.text_eq, Tiling.text, htext, List.append_assoc]
      · rw [hplace, Location.after_append]
    · obtain rfl := List.mem_singleton.1 ht
      exact ⟨s.toList, [], by simp [Token.endAt], rfl⟩
  refine ⟨front, rest, htext, hplace, ?_⟩
  rw [Token.startIn, hplace, htext, Location.distance_after]

/-- The settled tokens of a text are found among all but the end token. -/
theorem settled_eq_settledAt (a b : String) :
    settled (a ++ b) a.length = settledAt .start a.toList b.toList := by
  obtain ⟨d, hd⟩ := exists_tiles (a ++ b).toList
  have hend :
      ¬ (Token.endAt (Location.start.after (a ++ b).toList)).stopIn (a ++ b) < a.length := by
    have hdistance := Location.start.distance_after (a ++ b).toList []
    rw [List.append_nil, String.length_toList, String.length_append] at hdistance
    rw [Token.stopIn, Token.startIn, Token.endAt, hdistance]
    omega
  rw [settled, hd.tokenize_eq, List.filter_append, List.filter_cons_of_neg (by simpa using hend),
    List.filter_nil, List.append_nil, ← hd.tokensAt_eq, String.toList_append]
  simp only [settledAt, Token.stopIn, Token.startIn, String.toList_append, String.length_toList]

/-- **More text cannot change what is settled.**  Whatever follows a text, the tokens that end in
front of its last character are the same, with the same kinds, characters and places. -/
theorem settled_append (a b c : String) :
    settled (a ++ b) a.length = settled (a ++ c) a.length := by
  rw [settled_eq_settledAt, settled_eq_settledAt, settledAt_eq_settledAt]

end LetInspector
