/-
**The ranking of the kinds.**

Tokens are counted one by one into a histogram, whose entries follow the order of the kinds; then
the entries are sorted by their counts alone.  That equally frequent kinds stand in the order of the
kinds is said nowhere: it holds because the sort is stable and its input follows that order.  This
module says without counting or sorting what the ranking of a list of tokens is, and that there is
only one.

A stable sort keeps the entries with a given count as they are (`filter_ranking`).  So two entries
with the same count stand in the ranking as they stand in the histogram, and the other entries are
told apart by their counts.

Main definitions:

* `LetInspector.kindCount` — the number of tokens of a kind;
* `LetInspector.Ranked` — **the ranking of the kinds of tokens**.

Main results:

* `LetInspector.Histogram.entries_ofTokens` — what counting comes to;
* `LetInspector.Histogram.filter_ranking`, `LetInspector.Histogram.pairwise_ranking` — the sort is
  stable, and so the ranking is in order;
* `LetInspector.Ranked.unique` — there is only one ranking;
* `LetInspector.Histogram.top_ofTokens` — **the most frequent kinds are the first of the ranking**.
-/

import LetInspector.Token.Basic
import Mathlib.Algebra.GroupWithZero.Nat
import Mathlib.Data.List.Induction
import Mathlib.Data.List.Nodup

set_option autoImplicit false

namespace LetInspector

/-! ### The ranking, without counting or sorting -/

/-- The number of tokens of a kind. -/
def kindCount (tokens : List Token) (k : Kind) : Nat := tokens.countP fun t => t.kind = k

/-- Whether a kind with its count comes before another one: it is more frequent, or as frequent and
first in the order of the kinds. -/
def Precedes (a b : Kind × Nat) : Prop := b.2 < a.2 ∨ a.2 = b.2 ∧ a.1.rank < b.1.rank

/-- **The ranking of the kinds of tokens**: each kind that occurs, the end token left out, with the
number of its tokens, in order. -/
structure Ranked (tokens : List Token) (l : List (Kind × Nat)) : Prop where
  mem_iff : ∀ k n, (k, n) ∈ l ↔ k ≠ .eof ∧ 0 < n ∧ n = kindCount tokens k
  order : l.Pairwise Precedes

theorem not_precedes_self (a : Kind × Nat) : ¬ Precedes a a := by
  unfold Precedes
  omega

theorem Precedes.not_precedes {a b : Kind × Nat} (h : Precedes a b) : ¬ Precedes b a := by
  unfold Precedes at h ⊢
  omega

theorem Ranked.nodup {tokens : List Token} {l : List (Kind × Nat)} (h : Ranked tokens l) :
    l.Nodup := by
  refine h.order.imp ?_
  rintro a _ hab rfl
  exact not_precedes_self a hab

/-- **There is only one ranking.** -/
theorem Ranked.unique {tokens : List Token} {l m : List (Kind × Nat)} (hl : Ranked tokens l)
    (hm : Ranked tokens m) : l = m := by
  have hperm : l.Perm m := by
    rw [List.perm_ext_iff_of_nodup hl.nodup hm.nodup]
    rintro ⟨k, n⟩
    rw [hl.mem_iff, hm.mem_iff]
  refine hperm.eq_of_pairwise ?_ hl.order hm.order
  intro a b _ _ hab hba
  exact absurd hba hab.not_precedes

namespace Histogram

/-! ### Counting -/

/-- The kinds of a list that occur, with their counts. -/
def entriesBy (count : Kind → Nat) (kinds : List Kind) : List (Kind × Nat) :=
  (kinds.filter fun k => 0 < count k).map fun k => (k, count k)

theorem mem_entriesBy {count : Kind → Nat} {kinds : List Kind} {k : Kind} {n : Nat} :
    (k, n) ∈ entriesBy count kinds ↔ k ∈ kinds ∧ 0 < n ∧ n = count k := by
  simp only [entriesBy, List.mem_map, List.mem_filter, decide_eq_true_eq, Prod.mk.injEq]
  constructor
  · rintro ⟨j, ⟨hmem, hpos⟩, rfl, rfl⟩
    exact ⟨hmem, hpos, rfl⟩
  · rintro ⟨hmem, hpos, rfl⟩
    exact ⟨k, ⟨hmem, hpos⟩, rfl, rfl⟩

section Count

variable {count count' : Kind → Nat} {k : Kind}

theorem entriesBy_cons_of_pos {kinds : List Kind} (h : 0 < count k) :
    entriesBy count (k :: kinds) = (k, count k) :: entriesBy count kinds := by
  rw [entriesBy, List.filter_cons_of_pos (by simpa using h), List.map_cons, entriesBy]

theorem entriesBy_cons_of_eq_zero {kinds : List Kind} (h : count k = 0) :
    entriesBy count (k :: kinds) = entriesBy count kinds := by
  rw [entriesBy, List.filter_cons_of_neg (by simp [h]), entriesBy]

theorem entriesBy_congr {kinds : List Kind} (h : ∀ j ∈ kinds, count j = count' j) :
    entriesBy count kinds = entriesBy count' kinds := by
  have hfilter : (kinds.filter fun j => 0 < count j) = kinds.filter fun j => 0 < count' j := by
    refine List.filter_congr ?_
    intro j hj
    rw [h j hj]
  rw [entriesBy, entriesBy, hfilter]
  refine List.map_congr_left ?_
  intro j hj
  rw [h j (List.mem_of_mem_filter hj)]

/-- A kind that comes before all kinds of a list is put in front of their entries. -/
theorem countIn_entriesBy_of_forall_lt {kinds : List Kind} (h : ∀ j ∈ kinds, k.rank < j.rank) :
    countIn k (entriesBy count kinds) = (k, 1) :: entriesBy count kinds := by
  cases hentries : entriesBy count kinds with
  | nil => rfl
  | cons e rest =>
      obtain ⟨j, n⟩ := e
      have hmem : (j, n) ∈ entriesBy count kinds := hentries ▸ List.mem_cons_self ..
      have hlt := h j (mem_entriesBy.1 hmem).1
      have hne : k ≠ j := by
        rintro rfl
        exact Nat.lt_irrefl _ hlt
      rw [countIn, if_neg hne, if_pos hlt]

/-- **One more occurrence of a kind** changes the count of that kind and of no other, and the
entries still follow the order of the kinds. -/
theorem countIn_entriesBy (hsame : count' k = count k + 1) (hother : ∀ j ≠ k, count' j = count j)
    {kinds : List Kind} (hrank : kinds.Pairwise fun i j => i.rank < j.rank) (hmem : k ∈ kinds) :
    countIn k (entriesBy count kinds) = entriesBy count' kinds := by
  -- induction on the kinds: the entry of `k` stands behind those of the kinds before it
  induction kinds with
  | nil => cases hmem
  | cons j kinds ih =>
      obtain ⟨hfirst, hrest⟩ := List.pairwise_cons.1 hrank
      by_cases hkj : k = j
      · subst hkj
        have hbehind : entriesBy count kinds = entriesBy count' kinds := by
          refine entriesBy_congr ?_
          intro i hi
          refine (hother i ?_).symm
          rintro rfl
          exact Nat.lt_irrefl _ (hfirst i hi)
        have hpos' : 0 < count' k := by omega
        rw [entriesBy_cons_of_pos hpos', hsame, ← hbehind]
        rcases Nat.eq_zero_or_pos (count k) with hzero | hpos
        · rw [entriesBy_cons_of_eq_zero hzero, countIn_entriesBy_of_forall_lt hfirst, hzero]
        · rw [entriesBy_cons_of_pos hpos, countIn, if_pos rfl]
      · have hmem' : k ∈ kinds := (List.mem_cons.1 hmem).resolve_left hkj
        have hcount : count' j = count j := hother j (Ne.symm hkj)
        rcases Nat.eq_zero_or_pos (count j) with hzero | hpos
        · rw [entriesBy_cons_of_eq_zero hzero, entriesBy_cons_of_eq_zero (hcount.trans hzero),
            ih hrest hmem']
        · have hlt := hfirst k hmem'
          rw [entriesBy_cons_of_pos hpos, entriesBy_cons_of_pos (hcount ▸ hpos), countIn,
            if_neg hkj, if_neg (by omega), ih hrest hmem', hcount]

end Count

theorem ofTokens_concat (tokens : List Token) (t : Token) :
    ofTokens (tokens ++ [t]) = (ofTokens tokens).insert t.kind := by
  rw [ofTokens, List.foldl_append, List.foldl_cons, List.foldl_nil, ofTokens]

/-- The kinds stand in their order, each once. -/
theorem pairwise_rank_all : Kind.all.Pairwise fun i j => i.rank < j.rank := by decide

/-- **What counting comes to**: the kinds that occur, in their order, with the numbers of their
tokens. -/
theorem entries_ofTokens (tokens : List Token) :
    (ofTokens tokens).entries = entriesBy (kindCount tokens) Kind.all := by
  induction tokens using List.reverseRecOn with
  | nil => rfl
  | append_singleton tokens t ih =>
      have hsame : kindCount (tokens ++ [t]) t.kind = kindCount tokens t.kind + 1 := by
        simp [kindCount]
      have hother : ∀ j ≠ t.kind, kindCount (tokens ++ [t]) j = kindCount tokens j := by
        intro j hj
        simp [kindCount, Ne.symm hj]
      rw [ofTokens_concat, insert, ih]
      exact countIn_entriesBy hsame hother pairwise_rank_all (Kind.mem_all t.kind)

theorem pairwise_entries_ofTokens (tokens : List Token) :
    (ofTokens tokens).entries.Pairwise fun a b => a.1.rank < b.1.rank := by
  rw [entries_ofTokens, entriesBy, List.pairwise_map]
  exact pairwise_rank_all.filter _

/-- The order of the tokens does not matter. -/
theorem ofTokens_perm {tokens others : List Token} (h : tokens.Perm others) :
    ofTokens tokens = ofTokens others := by
  have hcount : kindCount tokens = kindCount others := by
    funext k
    exact h.countP_eq _
  have hentries : (ofTokens tokens).entries = (ofTokens others).entries := by
    rw [entries_ofTokens, entries_ofTokens, hcount]
  exact congrArg Histogram.mk hentries

/-- One more occurrence makes the sum of the counts one larger. -/
theorem sum_countIn (k : Kind) (entries : List (Kind × Nat)) :
    ((countIn k entries).map Prod.snd).sum = (entries.map Prod.snd).sum + 1 := by
  induction entries with
  | nil => rfl
  | cons e rest ih =>
      obtain ⟨j, n⟩ := e
      rw [countIn]
      split
      · simp only [List.map_cons, List.sum_cons]
        omega
      · split
        · simp only [List.map_cons, List.sum_cons]
          omega
        · simp only [List.map_cons, List.sum_cons, ih]
          omega

/-- **Every token is counted once.** -/
theorem sum_entries_ofTokens (tokens : List Token) :
    ((ofTokens tokens).entries.map Prod.snd).sum = tokens.length := by
  induction tokens using List.reverseRecOn with
  | nil => rfl
  | append_singleton tokens t ih =>
      rw [ofTokens_concat, insert, sum_countIn, ih, List.length_append, List.length_singleton]

/-! ### Sorting -/

section Order

variable (h : Histogram)

/-- The entries but that of the end token. -/
def listed : List (Kind × Nat) := h.entries.filter fun e => e.1 ≠ .eof

/-- Entries are sorted by their counts alone. -/
theorem ranking_eq : h.ranking = h.listed.mergeSort fun a b => b.2 ≤ a.2 := rfl

theorem frequency_trans (a b c : Kind × Nat) (hab : decide (b.2 ≤ a.2) = true)
    (hbc : decide (c.2 ≤ b.2) = true) : decide (c.2 ≤ a.2) = true := by
  rw [decide_eq_true_eq] at hab hbc ⊢
  omega

theorem frequency_total (a b : Kind × Nat) :
    (decide (b.2 ≤ a.2) || decide (a.2 ≤ b.2)) = true := by
  rw [Bool.or_eq_true, decide_eq_true_eq, decide_eq_true_eq]
  omega

theorem ranking_perm : h.ranking.Perm h.listed := List.mergeSort_perm _ _

/-- **The sort is stable**: the entries with a given count are kept as they are. -/
theorem filter_ranking (n : Nat) :
    h.ranking.filter (fun e => e.2 = n) = h.listed.filter (fun e => e.2 = n) := by
  have hsorted : (h.listed.filter fun e => e.2 = n).Pairwise
      fun a b => decide (b.2 ≤ a.2) = true := by
    refine List.pairwise_of_forall_mem_list ?_
    intro a ha b hb
    rw [List.mem_filter, decide_eq_true_eq] at ha hb
    rw [decide_eq_true_eq]
    omega
  have hsub : (h.listed.filter fun e => e.2 = n).Sublist h.ranking :=
    List.sublist_mergeSort frequency_trans frequency_total hsorted List.filter_sublist
  have hfilter := hsub.filter fun e => e.2 = n
  simp only [List.filter_filter, Bool.and_self] at hfilter
  exact (hfilter.eq_of_length (h.ranking_perm.filter _).length_eq.symm).symm

/-- The ranking is in order, if the entries follow the order of the kinds. -/
theorem pairwise_ranking (hrank : h.entries.Pairwise fun a b => a.1.rank < b.1.rank) :
    h.ranking.Pairwise Precedes := by
  rw [List.pairwise_iff_forall_sublist]
  intro a b hab
  have hle : b.2 ≤ a.2 := by
    have hsorted := List.pairwise_mergeSort frequency_trans frequency_total h.listed
    rw [← ranking_eq, List.pairwise_iff_forall_sublist] at hsorted
    exact of_decide_eq_true (hsorted hab)
  rcases Nat.lt_or_eq_of_le hle with hlt | heq
  · exact Or.inl hlt
  · -- equally frequent kinds stand in the ranking as they stand among the entries
    have hequal : [a, b].Sublist (h.listed.filter fun e => e.2 = a.2) := by
      rw [← filter_ranking]
      have hfilter := hab.filter fun e => e.2 = a.2
      rwa [List.filter_cons_of_pos (by simp), List.filter_cons_of_pos (by simpa using heq),
        List.filter_nil] at hfilter
    have hentries : [a, b].Sublist h.entries :=
      hequal.trans (List.filter_sublist.trans List.filter_sublist)
    exact Or.inr ⟨heq.symm, List.pairwise_iff_forall_sublist.1 hrank hentries⟩

end Order

/-! ### The ranking of a list of tokens -/

theorem ranked_ranking (tokens : List Token) : Ranked tokens (ofTokens tokens).ranking := by
  refine ⟨?_, pairwise_ranking _ (pairwise_entries_ofTokens tokens)⟩
  intro k n
  rw [(ranking_perm _).mem_iff, listed, List.mem_filter, entries_ofTokens, mem_entriesBy,
    decide_eq_true_eq]
  have hall := Kind.mem_all k
  tauto

/-- **The most frequent kinds are the first of the ranking.**  There is one ranking of the kinds of
a list of tokens, and the `n` most frequent kinds are the first `n` of it, or all of them.  So they
do not depend on the order of the tokens; fewer of them are the first of more; and the counts of all
kinds make up the number of tokens. -/
theorem top_ofTokens (tokens : List Token) :
    (∃ ranked, Ranked tokens ranked ∧ (∀ l, Ranked tokens l → l = ranked) ∧
      ∀ n, (ofTokens tokens).top n = ranked.take n) ∧
    (∀ others, tokens.Perm others → ∀ n, (ofTokens others).top n = (ofTokens tokens).top n) ∧
    (∀ m n, m ≤ n → (ofTokens tokens).top m <+: (ofTokens tokens).top n) ∧
    ((ofTokens tokens).entries.map Prod.snd).sum = tokens.length := by
  have hranked := ranked_ranking tokens
  refine ⟨⟨_, hranked, fun l hl => hl.unique hranked, fun n => rfl⟩, ?_, ?_,
    sum_entries_ofTokens tokens⟩
  · intro others hperm n
    rw [ofTokens_perm hperm]
  · intro m n hmn
    exact List.take_prefix_take_left hmn

end Histogram

end LetInspector
