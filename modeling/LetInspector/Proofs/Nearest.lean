/-
**Settling moves a window as little as possible.**

Before a pane is drawn its offset is moved twice, and each time by arithmetic that could leave the
range of offsets.  This module says what the two moves come to.  Both move a number into a range, as
little as possible: the first into the offsets that show the followed row, the second into those
that do not reach beyond the last row.  The two do not undo each other: if the followed row is a row
of the pane, it is still shown after the second move, and if it is behind them, the window shows the
last rows.  In the first case the one range begins within the other, and so the two moves together
are one move into the offsets that are in both.  From this it follows that settling twice is
settling once, and that no number on the way leaves the range of offsets.

Differences of this library stop at zero and its sums have no bound.  To say that settling never
relies on this, it is followed with operations that give nothing where they do not apply.

Main definitions:

* `LetInspector.permitted` — the offsets that a pane may be drawn with;
* `LetInspector.IsNearest` — the element of a set that is nearest to a number;
* `LetInspector.sum?`, `LetInspector.difference?` — sums up to a limit, and differences that are not
  negative;
* `LetInspector.settle?` — settling, step by step, with operations that may fail.

Main results:

* `LetInspector.settle_le_row`, `LetInspector.lt_settle_add` — **a followed row of the pane is
  shown**;
* `LetInspector.settle_of_le` — a row behind the last brings the window to its end;
* `LetInspector.settle_none`, `LetInspector.settle_some` — the two moves as one;
* `LetInspector.settle?_eq` — **no step of settling fails**;
* `LetInspector.isNearest_settle` — **settling gives the nearest permitted offset**;
* `LetInspector.settle_settle` — settling twice is settling once;
* `LetInspector.settle_moves_least` — all of this together.
-/

import LetInspector.View.Pane
import Mathlib.Data.Nat.Dist
import Mathlib.Data.Set.Basic
import Mathlib.Tactic.SplitIfs

set_option autoImplicit false

namespace LetInspector

/-! ### The followed row is shown -/

theorem one_le_visibleRows (height : Nat) : 1 ≤ visibleRows height := Nat.le_max_left _ _

section Shown

variable {visible : Nat} (hvisible : 1 ≤ visible) (offset row : Nat)

include hvisible

theorem reveal_le : reveal offset visible row ≤ row := by
  unfold reveal
  split_ifs <;> omega

theorem lt_reveal_add : row < reveal offset visible row + visible := by
  unfold reveal offsetAdd
  split_ifs <;> omega

variable {total : Nat}

theorem settle_le_row : settle offset total visible (some row) ≤ row := by
  have hle := reveal_le hvisible offset row
  simp only [settle, confine]
  split_ifs <;> omega

theorem lt_settle_add (hrow : row < total) :
    row < settle offset total visible (some row) + visible := by
  have hlt := lt_reveal_add hvisible offset row
  simp only [settle, confine]
  split_ifs <;> omega

/-- A followed row behind the last brings the window to the last rows. -/
theorem settle_of_le (hrow : total ≤ row) :
    settle offset total visible (some row) = total - visible := by
  have hlt := lt_reveal_add hvisible offset row
  simp only [settle, confine]
  split_ifs <;> omega

end Shown

/-! ### The nearest element of a set -/

/-- **The element of a set that is nearest to a number**: every other element is farther away. -/
def IsNearest (s : Set Nat) (n m : Nat) : Prop :=
  m ∈ s ∧ ∀ o ∈ s, o ≠ m → Nat.dist n m < Nat.dist n o

/-- A number that is in a set is nearest to itself. -/
theorem IsNearest.eq_of_mem {s : Set Nat} {n m : Nat} (h : IsNearest s n m) (hn : n ∈ s) :
    m = n := by
  by_contra hne
  have hlt := h.2 n hn fun heq => hne heq.symm
  rw [Nat.dist_self] at hlt
  exact Nat.not_lt_zero _ hlt

/-! ### The offsets that a pane may be drawn with -/

/-- **The offsets that a pane of `total` rows may be drawn with**: no window reaches beyond the last
row, and a followed row of the pane is shown. -/
def permitted (total visible : Nat) (followed : Option Nat) : Set Nat :=
  {o | o ≤ total - visible ∧ ∀ row ∈ followed, row < total → o ≤ row ∧ row < o + visible}

section Settle

variable {visible : Nat} (hvisible : 1 ≤ visible) (offset total : Nat) (followed : Option Nat)

include hvisible

theorem settle_mem_permitted :
    settle offset total visible followed ∈ permitted total visible followed := by
  refine ⟨settle_le offset total visible followed, ?_⟩
  rintro row rfl hrow
  exact ⟨settle_le_row hvisible offset row, lt_settle_add hvisible offset row hrow⟩

theorem nonempty_permitted : (permitted total visible followed).Nonempty :=
  ⟨_, settle_mem_permitted hvisible 0 total followed⟩

end Settle

/-! ### The two moves as one -/

section Moves

variable (offset total : Nat) {visible : Nat}

theorem confine_eq_min (visible : Nat) :
    confine offset total visible = min offset (total - visible) := by
  unfold confine
  split_ifs <;> omega

theorem settle_none (visible : Nat) :
    settle offset total visible none = min offset (total - visible) :=
  confine_eq_min offset total visible

variable (hvisible : 1 ≤ visible) {row : Nat} (hrow : row < lastOffset)

include hrow

/-- The sum that is compared with the row does not stop at the end of the range of offsets. -/
theorem offsetAdd_le_iff : offsetAdd offset visible ≤ row ↔ offset + visible ≤ row := by
  unfold offsetAdd
  omega

include hvisible

theorem reveal_eq_max :
    reveal offset visible row = max (row + 1 - visible) (min offset row) := by
  simp only [reveal, offsetAdd_le_iff offset hrow]
  split_ifs <;> omega

theorem settle_some :
    settle offset total visible (some row) =
      min (max (row + 1 - visible) (min offset row)) (total - visible) := by
  rw [settle, confine_eq_min, reveal_eq_max offset hvisible hrow]

end Moves

/-! ### No step fails -/

/-- The sum of two numbers, unless it exceeds the limit. -/
def sum? (limit a b : Nat) : Option Nat := if a + b ≤ limit then some (a + b) else none

/-- The difference of two numbers, unless it is negative. -/
def difference? (a b : Nat) : Option Nat := if b ≤ a then some (a - b) else none

theorem sum?_of_le {limit a b : Nat} (h : a + b ≤ limit) : sum? limit a b = some (a + b) := if_pos h

theorem difference?_of_le {a b : Nat} (h : b ≤ a) : difference? a b = some (a - b) := if_pos h

/-- The first move, unless a number on the way is out of range. -/
def reveal? (offset visible row : Nat) : Option Nat :=
  if row < offset then some row
  else if offsetAdd offset visible ≤ row then
    (sum? lastOffset row 1).bind fun next => difference? next visible
  else some offset

/-- The second move, unless a number on the way is out of range. -/
def confine? (offset total visible : Nat) : Option Nat :=
  if visible < total then (difference? total visible).map (min offset) else some 0

/-- **The offset that a pane is drawn with, unless a number on the way is out of range.** -/
def settle? (offset total visible : Nat) (followed : Option Nat) : Option Nat :=
  match followed with
  | none => confine? offset total visible
  | some row => (reveal? offset visible row).bind fun offset => confine? offset total visible

theorem reveal?_eq (offset visible : Nat) {row : Nat} (hrow : row < lastOffset) :
    reveal? offset visible row = some (reveal offset visible row) := by
  unfold reveal? reveal
  split_ifs with hbefore hbehind
  · rfl
  · have hle := (offsetAdd_le_iff offset hrow).1 hbehind
    rw [sum?_of_le hrow, Option.bind_some, difference?_of_le (by omega)]
  · rfl

theorem confine?_eq (offset total visible : Nat) :
    confine? offset total visible = some (confine offset total visible) := by
  unfold confine? confine
  split_ifs with hlt
  · rw [difference?_of_le (Nat.le_of_lt hlt), Option.map_some]
  · rfl

/-- **No step of settling fails.** -/
theorem settle?_eq (offset total visible : Nat) {followed : Option Nat}
    (hfollowed : ∀ row ∈ followed, row < lastOffset) :
    settle? offset total visible followed = some (settle offset total visible followed) := by
  cases followed with
  | none => exact confine?_eq offset total visible
  | some row =>
      rw [settle?, reveal?_eq offset visible (hfollowed row rfl), Option.bind_some, confine?_eq,
        settle]

/-! ### The nearest permitted offset -/

section Nearest

variable {visible : Nat} (hvisible : 1 ≤ visible) (offset : Nat) {total : Nat}
  {followed : Option Nat}

include hvisible

/-- **Settling gives the nearest permitted offset**, unless a row behind the last is followed. -/
theorem isNearest_settle (hrange : ∀ row ∈ followed, row < lastOffset)
    (hrow : ∀ row ∈ followed, row < total) :
    IsNearest (permitted total visible followed) offset
      (settle offset total visible followed) := by
  refine ⟨settle_mem_permitted hvisible offset total followed, ?_⟩
  rintro o ⟨hlast, hshows⟩ hne
  cases followed with
  | none =>
      rw [settle_none] at hne ⊢
      unfold Nat.dist
      omega
  | some row =>
      have hlt := hrow row rfl
      have hwindow := hshows row rfl hlt
      rw [settle_some offset total hvisible (hrange row rfl)] at hne ⊢
      unfold Nat.dist
      omega

/-- Settling twice is settling once. -/
theorem settle_settle (hrange : ∀ row ∈ followed, row < total → row < lastOffset) :
    settle (settle offset total visible followed) total visible followed =
      settle offset total visible followed := by
  by_cases hrow : ∀ row ∈ followed, row < total
  · have hrange' : ∀ row ∈ followed, row < lastOffset := by
      intro row hmem
      exact hrange row hmem (hrow row hmem)
    have hmem := settle_mem_permitted hvisible offset total followed
    exact (isNearest_settle hvisible _ hrange' hrow).eq_of_mem hmem
  · -- a row behind the last brings every window to the last rows
    push Not at hrow
    obtain ⟨row, rfl, hle⟩ := hrow
    rw [settle_of_le hvisible _ row hle, settle_of_le hvisible _ row hle]

end Nearest

/-- **Settling moves a window as little as possible.**  No step of it leaves the range of offsets.
There is a permitted offset, and settling gives the one that is nearest to the old offset; if a row
behind the last is followed, it gives the offset of the last rows.  Settling once more changes
nothing. -/
theorem settle_moves_least (offset total : Nat) {visible : Nat} (hvisible : 1 ≤ visible)
    {followed : Option Nat} (hrange : ∀ row ∈ followed, row < lastOffset) :
    settle? offset total visible followed = some (settle offset total visible followed) ∧
    (permitted total visible followed).Nonempty ∧
    ((∀ row ∈ followed, row < total) →
      IsNearest (permitted total visible followed) offset
        (settle offset total visible followed)) ∧
    (∀ row ∈ followed, total ≤ row →
      settle offset total visible followed = total - visible) ∧
    settle (settle offset total visible followed) total visible followed =
      settle offset total visible followed := by
  refine ⟨settle?_eq offset total visible hrange, nonempty_permitted hvisible total followed,
    isNearest_settle hvisible offset hrange, ?_, ?_⟩
  · rintro row rfl hle
    exact settle_of_le hvisible offset row hle
  · exact settle_settle hvisible offset fun row hmem _ => hrange row hmem

/-- The last row that can be followed is shown from both ends of the range of offsets. -/
theorem settle_moves_least_at_range_end :
    (1 ≤ 10 ∧ ∀ row ∈ some (lastOffset - 1), row < lastOffset) ∧
      settle? 5 lastOffset 10 (some (lastOffset - 1)) = some (lastOffset - 10) ∧
      settle? lastOffset lastOffset 10 (some (lastOffset - 1)) = some (lastOffset - 10) := by
  have hvisible : 1 ≤ 10 := by decide
  have hrange : ∀ row ∈ some (lastOffset - 1), row < lastOffset := by
    rintro row ⟨⟩
    decide
  have hfar := settle_moves_least 5 lastOffset hvisible hrange
  have hend := settle_moves_least lastOffset lastOffset hvisible hrange
  exact ⟨⟨hvisible, hrange⟩, hfar.1, hend.1⟩

end LetInspector
