/-
**Drawing again, and scrolling.**

A frame changes the offsets of the three panes and nothing else.  To this the panes are alike: a
pane has so many rows, shows so many of them, and follows one of them or none, and its offset is
settled for these three.  A frame changes none of the three.  So the next frame of the same size
settles each offset for what it has been settled for before, which changes nothing, and it draws the
same.

It matters that a text is shorter than the range of offsets, which counts more characters than any
memory holds.  In a longer one a followed row could be as far down as sums of offsets reach, and
there the first move brings the window to one place and, from that place, to another.

A key that scrolls moves the offset of the pane with the focus by one and stops the windows from
following; it does not look at how many rows there are.  The next frame then brings the offset back
to the last rows if it went beyond them.  Since nothing is followed any more, the frame does nothing
else.  The frame before has left every offset within its rows, so up is always up by one row, down
is down by one row until the last row is shown, and the other panes stay where they are.

The loop on the terminal gives every key a frame behind it, and it draws frames also while no key is
pressed.  Since those change nothing, it is a run of keys with a frame behind each, which ends
behind the first key that leaves.

Main definitions:

* `LetInspector.Inspector.rowCount`, `LetInspector.Inspector.shownRows`,
  `LetInspector.Inspector.followedRow?` — the rows of a pane, how many of them are shown, and the
  one that is followed;
* `LetInspector.turn`, `LetInspector.turns` — a key and the frame behind it, and keys in turn;
* `LetInspector.untilLeaving` — the keys that the loop looks at;
* `LetInspector.Inspector.Within` — no window reaches beyond the rows of its pane;
* `LetInspector.Inspector.scrollOffset` — one step of a scrolled offset.

Main results:

* `LetInspector.Inspector.get_scrolls_render` — what a frame does to the offset of a pane;
* `LetInspector.Inspector.rowCount_le_lastOffset` — no pane has rows behind the range of offsets;
* `LetInspector.Inspector.render_render` — **drawing a frame again changes nothing**;
* `LetInspector.Inspector.frame_stands` — the same after any run, for any number of frames;
* `LetInspector.Inspector.within_turns` — **no window ever reaches beyond its rows** in a run of
  turns;
* `LetInspector.Inspector.get_scrolls_turn` — one turn with a key that scrolls;
* `LetInspector.Inspector.fst_loop_eq_performAll` — **the loop goes through turns**;
* `LetInspector.Inspector.scroll_moves_one_row` — **what up and down do** at any point of a run.
-/

import LetInspector.Proofs.Following
import LetInspector.Proofs.Nearest
import LetInspector.Proofs.RowCount

set_option autoImplicit false

namespace LetInspector

theorem Scrolls.ext_get {a b : Scrolls} (h : ∀ p, a.get p = b.get p) : a = b := by
  cases a
  cases b
  rw [Scrolls.mk.injEq]
  exact ⟨h .source, h .tokens, h .program⟩

/-- The area of a pane. -/
def Layout.area (l : Layout) : Pane → Area
  | .source => l.source
  | .tokens => l.tokens
  | .program => l.program

namespace Inspector

/-! ### The panes alike -/

/-- The number of rows of a pane. -/
def rowCount (s : Inspector) : Pane → Nat
  | .source => (linesOfText s.source).length
  | .tokens => s.tokens.length
  | .program => s.outcome.report.length

/-- The number of rows that a pane shows on a screen for which so many columns and rows are
asked. -/
def shownRows (width height : Nat) (p : Pane) : Nat :=
  visibleRows ((layout width height).area p).height

/-- The row that a pane follows. -/
def followedRow? (s : Inspector) : Pane → Option Nat
  | .source => s.sourceText.followedRow?
  | .tokens => s.tokenTable.followedRow?
  | .program => none

theorem one_le_shownRows (width height : Nat) (p : Pane) : 1 ≤ shownRows width height p :=
  one_le_visibleRows _

/-- **What a frame does to the offset of a pane.** -/
theorem get_scrolls_render (s : Inspector) (width height : Nat) (p : Pane) :
    (s.render width height).1.scrolls.get p =
      settle (s.scrolls.get p) (s.rowCount p) (shownRows width height p) (s.followedRow? p) := by
  cases p <;> rfl

/-- A frame changes the offsets at most. -/
theorem render_eq (s : Inspector) (width height : Nat) :
    (s.render width height).1 = { s with scrolls := (s.render width height).1.scrolls } := rfl

theorem rowCount_render (s : Inspector) (width height : Nat) (p : Pane) :
    (s.render width height).1.rowCount p = s.rowCount p := by
  cases p <;> rfl

theorem followedRow?_render (s : Inspector) (width height : Nat) (p : Pane) :
    (s.render width height).1.followedRow? p = s.followedRow? p := by
  cases p <;> rfl

/-- **No pane has rows behind the range of offsets.** -/
theorem rowCount_le_lastOffset {source : String} (hsource : source.length < lastOffset)
    {keys : List Key} {s : Inspector} (h : Consistent source keys s) (p : Pane) :
    s.rowCount p ≤ lastOffset := by
  obtain ⟨hlines, htokens, hreport⟩ := rows_le_lastOffset hsource
  cases p with
  | source =>
      rw [rowCount, h.source_eq]
      exact hlines
  | tokens =>
      rw [rowCount, h.tokens_eq]
      exact htokens
  | program =>
      rw [rowCount, h.outcome_eq]
      exact hreport

/-! ### The same frame again -/

section Again

variable {s : Inspector} (hrows : ∀ p, s.rowCount p ≤ lastOffset) (width height : Nat)

include hrows

theorem scrolls_render_render :
    ((s.render width height).1.render width height).1.scrolls =
      (s.render width height).1.scrolls := by
  refine Scrolls.ext_get ?_
  intro p
  have hrange : ∀ row ∈ s.followedRow? p, row < s.rowCount p → row < lastOffset := by
    intro row _ hrow
    exact Nat.lt_of_lt_of_le hrow (hrows p)
  rw [get_scrolls_render, rowCount_render, followedRow?_render, get_scrolls_render]
  exact settle_settle (one_le_shownRows width height p) _ hrange

/-- **Drawing a frame again changes nothing**, and the same is drawn. -/
theorem render_render :
    (s.render width height).1.render width height = s.render width height := by
  have hstate : ((s.render width height).1.render width height).1 = (s.render width height).1 := by
    rw [render_eq (s.render width height).1, scrolls_render_render hrows]
  -- what is drawn depends on the state after the frame
  have hdraw : ∀ t : Inspector, (t.render width height).2 =
      (t.render width height).1.draw (gridSize width height).1 (gridSize width height).2 :=
    fun _ => rfl
  refine Prod.ext hstate ?_
  rw [hdraw, hdraw s, hstate]

end Again

/-- **A frame that is drawn again stays.**  After any run, a frame changes the offsets at most.
Drawn again for the same size it changes nothing, and the screen is the same; so it is after any
number of frames of that size. -/
theorem frame_stands {source : String} (hsource : source.length < lastOffset)
    (actions : List Action) (width height : Nat) :
    let s := (ofSource source).performAll actions
    let after := (s.render width height).1
    after = { s with scrolls := after.scrolls } ∧
    after.render width height = (after, (s.render width height).2) ∧
    ∀ n, (s.performAll (List.replicate n (.render width height))).render width height =
      s.render width height := by
  intro s after
  have h : Consistent source (keysOf actions) s := consistent_performAll source actions
  have hagain := render_render (rowCount_le_lastOffset hsource h) width height
  refine ⟨s.render_eq width height, hagain, ?_⟩
  intro n
  induction n with
  | zero => rfl
  | succ n ih =>
      rw [List.replicate_succ', performAll_concat, perform, ih]
      exact hagain

/-- The end token is followed, one line behind the last, when the screen becomes too small for a
second row. -/
theorem frame_stands_behind_last_line :
    "a\n\nb\n".length < lastOffset ∧
      let s := (ofSource "a\n\nb\n").performAll [.render 40 9, .press .last]
      let after := (s.render 40 3).1
      (s.scrolls = {} ∧ after.scrolls = { source := 2, tokens := 2 }) ∧
      after = { s with scrolls := after.scrolls } ∧
      after.render 40 3 = (after, (s.render 40 3).2) ∧
      ∀ n, (s.performAll (List.replicate n (.render 40 3))).render 40 3 = s.render 40 3 := by
  have hsource : "a\n\nb\n".length < lastOffset := by decide
  exact ⟨hsource, by decide +kernel, frame_stands hsource [.render 40 9, .press .last] 40 3⟩

end Inspector

/-! ### Keys with a frame behind each -/

/-- A key, and the frame that shows what it did. -/
def turn (width height : Nat) (k : Key) : List Action := [.press k, .render width height]

/-- Keys in turn, with a frame behind each. -/
def turns (width height : Nat) (keys : List Key) : List Action := keys.flatMap (turn width height)

theorem turns_cons (width height : Nat) (k : Key) (keys : List Key) :
    turns width height (k :: keys) = turn width height k ++ turns width height keys :=
  List.flatMap_cons

/-- The keys up to the first that leaves the inspector, which is the last that it looks at. -/
def untilLeaving : List Key → List Key
  | [] => []
  | k :: keys => if k ∈ Key.leaving then [k] else k :: untilLeaving keys

namespace Inspector

theorem performAll_append (s : Inspector) (actions others : List Action) :
    s.performAll (actions ++ others) = (s.performAll actions).performAll others :=
  List.foldl_append

theorem performAll_turn (s : Inspector) (width height : Nat) (k : Key) :
    s.performAll (turn width height k) = ((s.press k).render width height).1 := rfl

/-! ### No window reaches beyond its rows -/

/-- The offset at which a pane shows its last rows. -/
def lastRows (s : Inspector) (width height : Nat) (p : Pane) : Nat :=
  s.rowCount p - shownRows width height p

/-- No window reaches beyond the rows of its pane. -/
def Within (s : Inspector) (width height : Nat) : Prop :=
  ∀ p, s.scrolls.get p ≤ s.lastRows width height p

theorem within_render (s : Inspector) (width height : Nat) :
    (s.render width height).1.Within width height := by
  intro p
  rw [get_scrolls_render, lastRows, rowCount_render]
  exact settle_le _ _ _ _

/-- **In a run of keys with a frame behind each, no window ever reaches beyond its rows.** -/
theorem within_turns {s : Inspector} {width height : Nat} (h : s.Within width height)
    (keys : List Key) : (s.performAll (turns width height keys)).Within width height := by
  induction keys generalizing s with
  | nil => exact h
  | cons k keys ih =>
      rw [turns_cons, performAll_append, performAll_turn]
      exact ih ((s.press k).within_render width height)

/-! ### One turn with a key that scrolls -/

section Turn

variable (s : Inspector) (f : Nat → Nat) (width height : Nat) (p : Pane)

theorem rowCount_scroll : (s.scroll f).rowCount p = s.rowCount p := by
  cases p <;> rfl

theorem followedRow?_scroll : (s.scroll f).followedRow? p = none := by
  cases p <;> rfl

theorem get_scrolls_scroll :
    (s.scroll f).scrolls.get p = if p = s.focus then f (s.scrolls.get p) else s.scrolls.get p := by
  split_ifs with hp
  · rw [hp]
    exact Scrolls.get_modify_self s.scrolls s.focus f
  · exact Scrolls.get_modify_of_ne hp s.scrolls f

/-- A frame after a scroll brings the offset back to the last rows, and does nothing else. -/
theorem get_scrolls_render_scroll :
    ((s.scroll f).render width height).1.scrolls.get p =
      min (if p = s.focus then f (s.scrolls.get p) else s.scrolls.get p)
        (s.lastRows width height p) := by
  rw [get_scrolls_render, followedRow?_scroll, settle_none, get_scrolls_scroll, rowCount_scroll,
    lastRows]

end Turn

/-- Where a key that scrolls moves an offset that may go up to `last`. -/
def scrollOffset (last offset : Nat) : Key → Nat
  | .up => offset - 1
  | .down => min (offset + 1) last
  | _ => offset

section Step

variable {s : Inspector} {width height : Nat} (h : s.Within width height)
  (hrows : ∀ p, s.rowCount p ≤ lastOffset)

include h hrows

/-- **One turn with a key that scrolls** moves the pane with the focus by one row, unless there is
none left, and leaves the others. -/
theorem get_scrolls_turn {k : Key} (hk : k ∈ Key.scrolling) (p : Pane) :
    (s.performAll (turn width height k)).scrolls.get p =
      if p = s.focus then scrollOffset (s.lastRows width height p) (s.scrolls.get p) k
      else s.scrolls.get p := by
  have hwithin := h p
  have hlast : s.lastRows width height p ≤ lastOffset :=
    Nat.le_trans (Nat.sub_le _ _) (hrows p)
  rw [performAll_turn]
  simp only [Key.scrolling, List.mem_cons, List.not_mem_nil, or_false] at hk
  obtain rfl | rfl := hk
  · rw [press, get_scrolls_render_scroll, scrollOffset]
    split_ifs <;> omega
  · -- the sum stops only where no rows are
    rw [press, get_scrolls_render_scroll, scrollOffset, offsetAdd]
    split_ifs <;> omega

end Step

/-! ### The loop as a run of turns -/

/-- A key ends the loop if and only if it is one of those that leave. -/
theorem leaving_press (s : Inspector) (k : Key) :
    (s.press k).leaving = true ↔ s.leaving = true ∨ k ∈ Key.leaving := by
  rcases s.press_cases k with ⟨-, -, hstays, i, hpress⟩ | ⟨-, -, hstays, f, hpress⟩ |
    ⟨-, -, hleaves, hpress⟩ | ⟨-, -, hstays, p, hpress⟩
  all_goals rw [hpress]
  · exact (or_iff_left hstays).symm
  · exact (or_iff_left hstays).symm
  · exact iff_of_true rfl (Or.inr hleaves)
  · exact (or_iff_left hstays).symm

/-- An inspector that is to stay draws a frame, takes the key that is pressed, and goes on. -/
theorem fst_loop_cons {s : Inspector} (hstays : s.leaving = false) (r : Round)
    (rounds : List Round) :
    (s.loop (r :: rounds)).1 =
      ((r.key?.elim (s.render r.width r.height).1 (s.render r.width r.height).1.press).loop
        rounds).1 :=
  (congrArg Prod.fst (if_neg (ne_true_of_eq_false hstays))).trans rfl

section Loop

variable {s : Inspector} {width height : Nat} {rounds : List Round}
  (hsize : ∀ r ∈ rounds, r.width = width ∧ r.height = height)

include hsize

/-- An inspector that is to be left draws one more frame, and no key is looked at behind it. -/
theorem fst_loop_of_leaving (hleaves : s.leaving = true) :
    (s.loop (rounds ++ [⟨width, height, none⟩])).1 = (s.render width height).1 := by
  cases rounds with
  | nil => exact congrArg Prod.fst (if_pos hleaves)
  | cons r rounds =>
      obtain ⟨hwidth, hheight⟩ := hsize r (List.mem_cons_self ..)
      rw [← hwidth, ← hheight]
      exact congrArg Prod.fst (if_pos hleaves)

/-- **The loop goes through turns**: on a screen that keeps its size, the state after its rounds and
one more frame is the one behind a frame and the turns with the keys that were pressed, up to the
first that leaves.  Rounds without a key change nothing. -/
theorem fst_loop_eq_performAll {source : String} (hsource : source.length < lastOffset)
    {seen : List Key} (h : Consistent source seen s) (hstays : s.leaving = false) :
    (s.loop (rounds ++ [⟨width, height, none⟩])).1 =
      s.performAll (.render width height ::
        turns width height (untilLeaving (rounds.filterMap Round.key?))) := by
  induction rounds generalizing s seen with
  | nil => exact fst_loop_cons hstays _ []
  | cons r rounds ih =>
      obtain ⟨⟨hwidth, hheight⟩, hothers⟩ := List.forall_mem_cons.1 hsize
      have hdrawn : Consistent source seen (s.render width height).1 := h.render width height
      rw [List.cons_append, fst_loop_cons hstays, hwidth, hheight]
      cases hkey : r.key? with
      | none =>
          -- the next frame finds what this one has left
          have hagain := render_render (rowCount_le_lastOffset hsource h) width height
          rw [List.filterMap_cons_none hkey, Option.elim_none, ih hothers hdrawn hstays]
          exact congrArg (fun t : Inspector × Screen => t.1.performAll _) hagain
      | some k =>
          have hpressed := hdrawn.press k
          rw [List.filterMap_cons_some hkey, Option.elim_some, untilLeaving]
          by_cases hk : k ∈ Key.leaving
          · have hleaves : ((s.render width height).1.press k).leaving = true :=
              (leaving_press _ k).2 (Or.inr hk)
            rw [if_pos hk]
            exact fst_loop_of_leaving hothers hleaves
          · have hstays' : ((s.render width height).1.press k).leaving = false := by
              rw [Bool.eq_false_iff, ne_eq, leaving_press]
              exact not_or.2 ⟨ne_true_of_eq_false hstays, hk⟩
            rw [if_neg hk, turns_cons, ih hothers hpressed hstays']
            rfl

end Loop

/-! ### Up and down at any point of a run -/

/-- **What up and down do.**  After any run that ended with a frame, and any keys with a frame of
the same size behind each, up moves the pane with the focus up by one row unless it shows its first
row, and down moves it down by one row unless it shows its last.  The other panes stay, whether or
not the windows followed the selected token before.  The loop comes to that point if its rounds hold
these keys, whatever else they hold. -/
theorem scroll_moves_one_row {source : String} (hsource : source.length < lastOffset)
    (actions : List Action) (width height : Nat) (keys : List Key) :
    let start := (ofSource source).performAll actions
    let s := (ofSource source).performAll
      (actions ++ .render width height :: turns width height keys)
    (∀ p,
      (s.performAll (turn width height .up)).scrolls.get p =
        (if p = s.focus then s.scrolls.get p - 1 else s.scrolls.get p) ∧
      (s.performAll (turn width height .down)).scrolls.get p =
        if p = s.focus then
          min (s.scrolls.get p + 1) (s.rowCount p - shownRows width height p)
        else s.scrolls.get p) ∧
    (start.leaving = false → ∀ rounds : List Round,
      (∀ r ∈ rounds, r.width = width ∧ r.height = height) →
      untilLeaving (rounds.filterMap Round.key?) = keys →
      (start.loop (rounds ++ [⟨width, height, none⟩])).1 = s) := by
  intro start s
  have hrun : s = start.performAll (.render width height :: turns width height keys) :=
    performAll_append _ _ _
  refine ⟨?_, ?_⟩
  · intro p
    have hwithin : s.Within width height := by
      rw [hrun]
      exact within_turns (start.within_render width height) keys
    have hrows : ∀ q, s.rowCount q ≤ lastOffset :=
      rowCount_le_lastOffset hsource (consistent_performAll source _)
    exact ⟨get_scrolls_turn hwithin hrows (by decide) p,
      get_scrolls_turn hwithin hrows (by decide) p⟩
  · rintro hstays rounds hsize rfl
    rw [hrun]
    exact fst_loop_eq_performAll hsize hsource (consistent_performAll source actions) hstays

/-- A pane with room for one of six tokens follows the last of them.  Up goes to the one before, and
down stays.  The loop comes there also when it waits for a while, and when a key is let go. -/
theorem scroll_moves_one_row_from_last_token :
    "let x = 1;".length < lastOffset ∧
      let s := (ofSource "let x = 1;").performAll (.render 40 6 :: turns 40 6 [.tab, .last])
      (s.focus = .tokens ∧ s.followed = true ∧ s.scrolls.get .tokens = 5 ∧
        (s.performAll (turn 40 6 .up)).scrolls.get .tokens = 4 ∧
        (s.performAll (turn 40 6 .down)).scrolls.get .tokens = 5) ∧
      ((ofSource "let x = 1;").loop
        [⟨40, 6, some (.key .tab true)⟩, ⟨40, 6, none⟩, ⟨40, 6, some (.key .tab false)⟩,
          ⟨40, 6, some (.key .last true)⟩, ⟨40, 6, none⟩]).1 = s := by
  have hsource : "let x = 1;".length < lastOffset := by decide
  refine ⟨hsource, ?_⟩
  intro s
  have hmoves := scroll_moves_one_row hsource [] 40 6 [.tab, .last]
  have hoffset : s.scrolls.get .tokens = 5 := by decide +kernel
  have hlast : s.rowCount .tokens - shownRows 40 6 .tokens = 5 := by decide +kernel
  refine ⟨⟨rfl, rfl, hoffset, ?_, ?_⟩, ?_⟩
  · exact (hmoves.1 .tokens).1.trans ((if_pos rfl).trans (congrArg (· - 1) hoffset))
  · exact (hmoves.1 .tokens).2.trans
      ((if_pos rfl).trans (congrArg₂ (fun o l => min (o + 1) l) hoffset hlast))
  · exact hmoves.2 rfl [⟨40, 6, some (.key .tab true)⟩, ⟨40, 6, none⟩,
      ⟨40, 6, some (.key .tab false)⟩, ⟨40, 6, some (.key .last true)⟩] (by decide) (by decide)

end Inspector

end LetInspector
