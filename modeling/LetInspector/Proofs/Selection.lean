/-
**What keys leave behind.**

Several parts of the state of an inspector move together: the selected token, the message about it,
and whether the windows follow it.  This module says what they are after any run, by the keys of the
run alone; frames change none of them.

A key does one of four things: it selects a token, it scrolls, it ends the run, or it moves the
focus at most.  So the state after one more key is known from the kind of the key, and the rest is
an induction over the run.

Main definitions:

* `LetInspector.Key.selecting`, `LetInspector.Key.scrolling`, `LetInspector.Key.leaving` — the keys
  of each kind;
* `LetInspector.lastMove` — the last key that selected or scrolled;
* `LetInspector.Inspector.Told` — what the message is about;
* `LetInspector.Inspector.Consistent` — what holds after some keys.

Main results:

* `LetInspector.Inspector.press_cases` — what one key can do;
* `LetInspector.Inspector.Consistent.perform` — **one action keeps the state consistent**;
* `LetInspector.Inspector.consistent_performAll` — and so does a run;
* `LetInspector.Inspector.state_after_run` — **the state after a run**, spelled out.
-/

import LetInspector.Inspector.Frame
import LetInspector.Proofs.TokenScan
import Mathlib.Data.List.Induction

set_option autoImplicit false

namespace LetInspector

/-! ### Kinds of keys -/

namespace Key

/-- The keys that select a token. -/
def selecting : List Key := [.left, .right, .home, .last]

/-- The keys that scroll. -/
def scrolling : List Key := [.up, .down]

/-- The keys that end a run. -/
def leaving : List Key := [.char 'q', .char 'Q', .escape]

end Key

/-- The last key that selected or scrolled. -/
def lastMove (keys : List Key) : Option Key :=
  (keys.filter fun k => k ∈ Key.selecting ∨ k ∈ Key.scrolling).getLast?

theorem lastMove_concat_of_mem {k : Key} (h : k ∈ Key.selecting ∨ k ∈ Key.scrolling)
    (keys : List Key) : lastMove (keys ++ [k]) = some k := by
  have hlast : [k].filter (fun k => k ∈ Key.selecting ∨ k ∈ Key.scrolling) = [k] :=
    List.filter_eq_self.2 (by simpa using h)
  rw [lastMove, List.filter_append, hlast, List.getLast?_concat]

theorem lastMove_concat_of_not_mem {k : Key} (h : ¬ (k ∈ Key.selecting ∨ k ∈ Key.scrolling))
    (keys : List Key) : lastMove (keys ++ [k]) = lastMove keys := by
  have hlast : [k].filter (fun k => k ∈ Key.selecting ∨ k ∈ Key.scrolling) = [] :=
    List.filter_eq_nil_iff.2 (by simpa using h)
  rw [lastMove, List.filter_append, hlast, List.append_nil, lastMove]

namespace Inspector

/-! ### One key -/

/-- **What one key can do**: it selects, it scrolls, it ends the run, or it moves the focus at
most. -/
theorem press_cases (s : Inspector) (k : Key) :
    (k ∈ Key.selecting ∧ k ∉ Key.scrolling ∧ k ∉ Key.leaving ∧ ∃ i, s.press k = s.select i) ∨
    (k ∉ Key.selecting ∧ k ∈ Key.scrolling ∧ k ∉ Key.leaving ∧ ∃ f, s.press k = s.scroll f) ∨
    (k ∉ Key.selecting ∧ k ∉ Key.scrolling ∧ k ∈ Key.leaving ∧
      s.press k = { s with leaving := true }) ∨
    (k ∉ Key.selecting ∧ k ∉ Key.scrolling ∧ k ∉ Key.leaving ∧
      ∃ p, s.press k = { s with focus := p }) := by
  cases k with
  | left | right | home | last =>
      exact Or.inl ⟨by decide, by decide, by decide, _, rfl⟩
  | up | down => exact Or.inr (Or.inl ⟨by decide, by decide, by decide, _, rfl⟩)
  | escape => exact Or.inr (Or.inr (Or.inl ⟨by decide, by decide, by decide, rfl⟩))
  | tab | backTab => exact Or.inr (Or.inr (Or.inr ⟨by decide, by decide, by decide, _, rfl⟩))
  | other => exact Or.inr (Or.inr (Or.inr ⟨by decide, by decide, by decide, s.focus, rfl⟩))
  | char c =>
      by_cases h : c = 'q' ∨ c = 'Q'
      · have hleaves : Key.char c ∈ Key.leaving := by simpa [Key.leaving] using h
        exact Or.inr (Or.inr (Or.inl ⟨by simp [Key.selecting], by simp [Key.scrolling], hleaves,
          if_pos h⟩))
      · have hstays : Key.char c ∉ Key.leaving := by simpa [Key.leaving] using h
        exact Or.inr (Or.inr (Or.inr ⟨by simp [Key.selecting], by simp [Key.scrolling], hstays,
          s.focus, if_neg h⟩))

/-! ### What holds after some keys -/

/-- The message is the opening one until a key selects, and from then on it is about the selected
token. -/
def Told (source : String) (keys : List Key) (s : Inspector) : Prop :=
  ((∀ k ∈ keys, k ∉ Key.selecting) ∧ s.selected = 0 ∧
      s.message = openingMessage (.ofSource source)) ∨
    (∃ k ∈ keys, k ∈ Key.selecting) ∧
      ∃ t, s.tokens[s.selected]? = some t ∧ s.message = tokenMessage t

/-- **What holds of the state after some keys** of an inspector that was opened on a text. -/
structure Consistent (source : String) (keys : List Key) (s : Inspector) : Prop where
  source_eq : s.source = source
  tokens_eq : s.tokens = tokenize source
  outcome_eq : s.outcome = .ofSource source
  topKinds_eq : s.topKinds = (Histogram.ofTokens (tokenize source)).top topKindCount
  /-- A token is selected. -/
  selected_lt : s.selected < s.tokens.length
  told : Told source keys s
  /-- Scrolling stops the windows, and selecting makes them follow again. -/
  followed_iff : s.followed = false ↔ ∃ k, lastMove keys = some k ∧ k ∈ Key.scrolling
  leaving_iff : s.leaving = true ↔ ∃ k ∈ keys, k ∈ Key.leaving

theorem consistent_ofSource (source : String) : Consistent source [] (ofSource source) where
  source_eq := rfl
  tokens_eq := rfl
  outcome_eq := rfl
  topKinds_eq := rfl
  selected_lt := by
    obtain ⟨e, htokens, -⟩ := exists_tokenize_eq_concat source
    change 0 < (tokenize source).length
    rw [htokens, List.length_append]
    exact Nat.lt_add_left _ Nat.zero_lt_one
  told := Or.inl ⟨by simp, rfl, rfl⟩
  followed_iff := by simp [lastMove, ofSource]
  leaving_iff := by simp [ofSource]

namespace Consistent

variable {source : String} {keys : List Key} {s : Inspector}

theorem exists_mem_concat {keys : List Key} {k : Key} {p : Key → Prop} :
    (∃ x ∈ keys ++ [k], p x) ↔ (∃ x ∈ keys, p x) ∨ p k := by
  simp [or_and_right, exists_or]

/-- A key that does not select leaves what was told as it is. -/
theorem told_concat (h : Consistent source keys s) {k : Key} (hk : k ∉ Key.selecting) :
    Told source (keys ++ [k]) s := by
  rw [Told, exists_mem_concat]
  rcases h.told with ⟨hnone, hstart⟩ | ⟨hsome, htold⟩
  · refine Or.inl ⟨?_, hstart⟩
    intro x hx
    rcases List.mem_append.1 hx with hx | hx
    · exact hnone x hx
    · rwa [List.mem_singleton.1 hx]
  · exact Or.inr ⟨Or.inl hsome, htold⟩

theorem followed_concat (h : Consistent source keys s) {k : Key} (hk : k ∉ Key.selecting)
    (hk' : k ∉ Key.scrolling) :
    s.followed = false ↔ ∃ x, lastMove (keys ++ [k]) = some x ∧ x ∈ Key.scrolling := by
  rw [lastMove_concat_of_not_mem (not_or.2 ⟨hk, hk'⟩)]
  exact h.followed_iff

theorem leaving_concat (h : Consistent source keys s) {k : Key} (hk : k ∉ Key.leaving) :
    s.leaving = true ↔ ∃ x ∈ keys ++ [k], x ∈ Key.leaving := by
  rw [exists_mem_concat, h.leaving_iff, or_iff_left hk]

/-- **One key keeps the state consistent.** -/
theorem press (h : Consistent source keys s) (k : Key) :
    Consistent source (keys ++ [k]) (s.press k) := by
  rcases s.press_cases k with ⟨hselects, hscrolls, hleaves, i, hpress⟩ |
    ⟨hselects, hscrolls, hleaves, f, hpress⟩ | ⟨hselects, hscrolls, hleaves, hpress⟩ |
    ⟨hselects, hscrolls, hleaves, p, hpress⟩
  all_goals rw [hpress]
  · have hlt : min i (s.tokens.length - 1) < s.tokens.length := by
      have hpos := h.selected_lt
      omega
    have htoken : s.tokens[min i (s.tokens.length - 1)]? =
        some s.tokens[min i (s.tokens.length - 1)] := List.getElem?_eq_getElem hlt
    refine ⟨h.source_eq, h.tokens_eq, h.outcome_eq, h.topKinds_eq, hlt, ?_, ?_,
      h.leaving_concat hleaves⟩
    · refine Or.inr ⟨exists_mem_concat.2 (Or.inr hselects), _, htoken, ?_⟩
      simp [select, htoken]
    · rw [lastMove_concat_of_mem (Or.inl hselects)]
      simpa [select] using hscrolls
  · refine ⟨h.source_eq, h.tokens_eq, h.outcome_eq, h.topKinds_eq, h.selected_lt,
      h.told_concat hselects, ?_, h.leaving_concat hleaves⟩
    rw [lastMove_concat_of_mem (Or.inr hscrolls)]
    simpa [scroll] using hscrolls
  · refine ⟨h.source_eq, h.tokens_eq, h.outcome_eq, h.topKinds_eq, h.selected_lt,
      h.told_concat hselects, h.followed_concat hselects hscrolls, ?_⟩
    rw [exists_mem_concat]
    exact iff_of_true rfl (Or.inr hleaves)
  · exact ⟨h.source_eq, h.tokens_eq, h.outcome_eq, h.topKinds_eq, h.selected_lt,
      h.told_concat hselects, h.followed_concat hselects hscrolls, h.leaving_concat hleaves⟩

/-- A frame changes nothing but the offsets. -/
theorem render (h : Consistent source keys s) (width height : Nat) :
    Consistent source keys (s.render width height).1 :=
  ⟨h.source_eq, h.tokens_eq, h.outcome_eq, h.topKinds_eq, h.selected_lt, h.told, h.followed_iff,
    h.leaving_iff⟩

/-- **One action keeps the state consistent.** -/
theorem perform (h : Consistent source keys s) (a : Action) :
    Consistent source (keys ++ keysOf [a]) (s.perform a) := by
  cases a with
  | press k => exact h.press k
  | render width height =>
      have hkeys : keys ++ keysOf [.render width height] = keys := List.append_nil keys
      rw [hkeys]
      exact h.render width height

end Consistent

/-- **A run keeps the state consistent.** -/
theorem consistent_performAll (source : String) (actions : List Action) :
    Consistent source (keysOf actions) ((ofSource source).performAll actions) := by
  induction actions using List.reverseRecOn with
  | nil => exact consistent_ofSource source
  | append_singleton actions a ih =>
      rw [performAll_concat, keysOf, List.filterMap_append]
      exact ih.perform a

/-- **The state after a run.**  It is about the text that the inspector was opened on.  A token is
selected, and the status bar counts it among the tokens.  The message is the opening one until a key
selects, and from then on it tells the kind, the literal and the place of the selected token.  The
windows stand still if and only if the last key that selected or scrolled has scrolled, and the run
ends if and only if a key has ended it. -/
theorem state_after_run (source : String) (actions : List Action) :
    let s := (ofSource source).performAll actions
    let keys := keysOf actions
    (s.source = source ∧ s.tokens = tokenize source ∧ s.outcome = .ofSource source ∧
      s.topKinds = (Histogram.ofTokens (tokenize source)).top topKindCount) ∧
    (s.selected < s.tokens.length ∧ s.selectedToken?.isSome) ∧
    (1 ≤ s.selected + 1 ∧ s.selected + 1 ≤ s.tokens.length ∧
      ∃ style rest, s.statusBar.summary =
        ⟨s!" Token {s.selected + 1}/{s.tokens.length} ", style⟩ :: rest) ∧
    (((∀ k ∈ keys, k ∉ Key.selecting) ∧ s.selected = 0 ∧
        s.message = openingMessage (.ofSource source)) ∨
      (∃ k ∈ keys, k ∈ Key.selecting) ∧ ∃ t, s.tokens[s.selected]? = some t ∧
        s.message = t.kind.name ++ " " ++ quote t.literal ++ " at " ++ t.location.describe) ∧
    (s.followed = false ↔ ∃ k, lastMove keys = some k ∧ k ∈ Key.scrolling) ∧
    (s.leaving = true ↔ ∃ k ∈ keys, k ∈ Key.leaving) := by
  intro s keys
  have h : Consistent source keys s := consistent_performAll source actions
  have htoken : s.selectedToken?.isSome := by
    rw [selectedToken?, List.getElem?_eq_getElem h.selected_lt]
    rfl
  have hcount : 1 ≤ s.selected + 1 ∧ s.selected + 1 ≤ s.tokens.length :=
    ⟨Nat.le_add_left 1 s.selected, h.selected_lt⟩
  exact ⟨⟨h.source_eq, h.tokens_eq, h.outcome_eq, h.topKinds_eq⟩, ⟨h.selected_lt, htoken⟩,
    ⟨hcount.1, hcount.2, _, _, rfl⟩, h.told, h.followed_iff, h.leaving_iff⟩

end Inspector

end LetInspector
