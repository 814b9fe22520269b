/-
**One stream, however it is pulled.**

`LetInspector.TokenStream` hands out tokens in four ways, one by one or many at a time, and two of
these ways stop at a mark of their own.  This module proves that all four read one endless sequence:
the tokens of the text, and then its end token for ever.  A pull takes tokens off the front of the
sequence that the cursor stands at and leaves the cursor at the rest, so pulls of any kinds can
follow each other in any order, and nothing is lost or read twice between them.

Main definitions:

* `LetInspector.Cursor.stream` — the endless sequence of tokens at a cursor;
* `LetInspector.TokenStream.MetEnd` — some `next`, on its own or as part of a `collect`, has handed
  out an end token.

Main results:

* `LetInspector.TokenStream.stream_pull` — **one pull takes tokens off the front of the sequence**;
* `LetInspector.TokenStream.stream_pullAll` — and so do pulls in turn;
* `LetInspector.TokenStream.ended_pullAll` — what the mark stands for;
* `LetInspector.TokenStream.pullAll_follows_stream` — the three together, for the tokens of a text.
-/

import LetInspector.Proofs.TokenScan
import Mathlib.Data.Stream.Init

set_option autoImplicit false

namespace LetInspector

open Stream'

/-! ### The endless sequence at a cursor -/

namespace Cursor

/-- **The tokens from a cursor on**, and the end token for ever behind them. -/
def stream (c : Cursor) : Stream' Token := corec (fun d => d.next.1) (fun d => d.next.2) c

theorem stream_eq_cons (c : Cursor) : c.stream = cons c.next.1 c.next.2.stream := by
  rw [stream, corec_eq]
  rfl

theorem stream_of_eof {c : Cursor} (h : c.next.1.kind = .eof) : c.stream = const c.next.1 := by
  refine Stream'.ext fun n => ?_
  induction n generalizing c with
  | zero => rfl
  | succ n ih =>
      have hnext := next_next_of_eof h
      rw [stream_eq_cons, get_succ_cons, ih (by rw [hnext]; exact h), hnext]
      rfl

/-- Reading all takes the tokens up to the first end token off the sequence. -/
theorem stream_eq_readAll_append (c : Cursor) : c.stream = c.readAll.1 ++ₛ c.readAll.2.stream := by
  induction hn : c.rest.length using Nat.strongRecOn generalizing c with
  | _ n ih =>
      rw [stream_eq_cons, readAll_eq]
      by_cases h : c.next.1.kind = .eof
      · simp [h]
      · have hlt : c.next.2.rest.length < n := hn ▸ rest_length_next_lt h
        rw [if_neg h, ih _ hlt _ rfl]
        rfl

variable {c : Cursor} {front : List Token} {e : Token}

/-- Behind the end token stands the end token, and nothing else. -/
theorem next_readAll (h : c.readAll.1 = front ++ [e]) :
    e.kind = .eof ∧ c.readAll.2.next = (e, c.readAll.2) := by
  obtain ⟨d, hd⟩ := Tiling.exists_tiles c.rest
  rw [hd.readAll_eq] at h ⊢
  obtain ⟨-, he⟩ := List.append_inj' h rfl
  obtain rfl := List.singleton_inj.1 he
  exact ⟨rfl, rfl⟩

theorem readAll_readAll (h : c.readAll.1 = front ++ [e]) : c.readAll.2.readAll.1 = [e] := by
  obtain ⟨he, hnext⟩ := next_readAll h
  rw [readAll_of_eof (by rw [hnext]; exact he), hnext]

theorem stream_eq_append (h : c.readAll.1 = front ++ [e]) : c.stream = front ++ₛ const e := by
  obtain ⟨he, hnext⟩ := next_readAll h
  have hend : c.readAll.2.stream = const e := by
    rw [stream_of_eof (by rw [hnext]; exact he), hnext]
  rw [stream_eq_readAll_append, h, hend, append_append_stream, cons_append_stream,
    nil_append_stream, ← const_eq]

/-- Reading one token leaves the others. -/
theorem readAll_next (h : c.readAll.1 = front ++ [e]) :
    c.next.2.readAll.1 = front.drop 1 ++ [e] := by
  by_cases hk : c.next.1.kind = .eof
  · rw [readAll_of_eof hk] at h
    cases front with
    | nil => rw [readAll_next_of_eof hk, h, List.drop_nil]
    | cons t ts => simp at h
  · rw [readAll_of_ne_eof hk] at h
    cases front with
    | nil =>
        obtain ⟨rest, hrest⟩ := c.next.2.exists_readAll_eq_cons
        simp [hrest] at h
    | cons t ts => exact (List.cons.inj h).2

end Cursor

namespace TokenStream

/-! ### What each way of pulling takes -/

theorem next?_of_ended {u : TokenStream} (h : u.ended = true) : u.next? = (none, u) := by
  rw [next?, if_pos h]

theorem next?_of_not_ended {u : TokenStream} (h : u.ended = false) :
    u.next? = (some u.cursor.next.1, ⟨u.cursor.next.2, u.cursor.next.1.kind = .eof⟩) := by
  rw [next?, h]
  rfl

/-- Repeated `next` gives what is left up to the end token, unless it has met one before. -/
theorem collect_go_eq (u : TokenStream) (done : List Token) :
    collect.go u done =
      if u.ended then (done.reverse, u)
      else (done.reverse ++ u.cursor.readAll.1, ⟨u.cursor.readAll.2, true⟩) := by
  fun_induction collect.go u done with
  | case1 u done v h =>
      cases he : u.ended with
      | true =>
          rw [next?_of_ended he] at h
          simp only [Prod.mk.injEq, true_and] at h
          rw [if_pos rfl, h]
      | false =>
          rw [next?_of_not_ended he] at h
          cases h
  | case2 u done t v h ih =>
      cases he : u.ended with
      | true =>
          rw [next?_of_ended he] at h
          cases h
      | false =>
          rw [next?_of_not_ended he] at h
          simp only [Prod.mk.injEq, Option.some.injEq] at h
          obtain ⟨rfl, rfl⟩ := h
          rw [ih, Cursor.readAll_eq u.cursor]
          by_cases hk : u.cursor.next.1.kind = .eof <;> simp [hk]

theorem collect_of_ended {u : TokenStream} (h : u.ended = true) : u.collect = ([], u) := by
  rw [collect, collect_go_eq, if_pos h]
  rfl

theorem collect_of_not_ended {u : TokenStream} (h : u.ended = false) :
    u.collect = (u.cursor.readAll.1, ⟨u.cursor.readAll.2, true⟩) := by
  rw [collect, collect_go_eq, h]
  rfl

/-- Repeated `next`, one call after the other: its last call gives nothing. -/
theorem pullAll_next_eq_collect (u : TokenStream) :
    u.pullAll (List.replicate (u.collect.1.length + 1) .next) =
      (u.collect.1.map (fun t => .item (some t)) ++ [.item none], u.collect.2) := by
  suffices h : ∀ done, ∃ ts, collect.go u done = (done.reverse ++ ts, (collect.go u done).2) ∧
      u.pullAll (List.replicate (ts.length + 1) .next) =
        (ts.map (fun t => .item (some t)) ++ [.item none], (collect.go u done).2) by
    obtain ⟨ts, hts, hpull⟩ := h []
    have hcollect : u.collect.1 = ts := congrArg Prod.fst hts
    rw [hcollect]
    exact hpull
  intro done
  fun_induction collect.go u done with
  | case1 u done v h =>
      refine ⟨[], by simp, ?_⟩
      simp [pullAll, pull, h]
  | case2 u done t v h ih =>
      obtain ⟨ts, hts, hpull⟩ := ih
      refine ⟨t :: ts, by rw [hts]; simp, ?_⟩
      rw [List.length_cons, List.replicate_succ, pullAll]
      simp only [pull, h, hpull, List.map_cons, List.cons_append]

/-! ### Pulling takes tokens off the front of the sequence -/

/-- **One pull takes the tokens that it hands out off the front of the sequence.** -/
theorem stream_pull (u : TokenStream) (p : Pull) :
    u.cursor.stream = (u.pull p).1.tokens ++ₛ (u.pull p).2.cursor.stream := by
  cases p with
  | read => exact u.cursor.stream_eq_cons
  | next =>
      cases he : u.ended with
      | true =>
          rw [pull, next?_of_ended he]
          rfl
      | false =>
          rw [pull, next?_of_not_ended he]
          exact u.cursor.stream_eq_cons
  | readAll => exact u.cursor.stream_eq_readAll_append
  | collect =>
      cases he : u.ended with
      | true =>
          rw [pull, collect_of_ended he]
          rfl
      | false =>
          rw [pull, collect_of_not_ended he]
          exact u.cursor.stream_eq_readAll_append

/-- The tokens that pulls in turn have handed out. -/
def handedOut (rs : List Pulled) : List Token := rs.flatMap Pulled.tokens

/-- **Pulls in turn take the tokens that they hand out off the front of the sequence.** -/
theorem stream_pullAll (u : TokenStream) (ps : List Pull) :
    u.cursor.stream = handedOut (u.pullAll ps).1 ++ₛ (u.pullAll ps).2.cursor.stream := by
  induction ps generalizing u with
  | nil => rfl
  | cons p ps ih =>
      rw [u.stream_pull p, ih (u.pull p).2, ← append_append_stream]
      rfl

/-! ### The mark -/

/-- Whether some `next`, on its own or as part of a `collect`, has handed out an end token. -/
def MetEnd (ps : List Pull) (rs : List Pulled) : Prop :=
  ∃ p r, (p, r) ∈ ps.zip rs ∧ (p = .next ∨ p = .collect) ∧ ∃ t ∈ r.tokens, t.kind = .eof

theorem metEnd_cons_iff {p : Pull} {r : Pulled} {ps : List Pull} {rs : List Pulled} :
    MetEnd (p :: ps) (r :: rs) ↔
      ((p = .next ∨ p = .collect) ∧ ∃ t ∈ r.tokens, t.kind = .eof) ∨ MetEnd ps rs := by
  simp only [MetEnd, List.zip_cons_cons, List.mem_cons, Prod.mk.injEq]
  constructor
  · rintro ⟨q, x, ⟨rfl, rfl⟩ | hmem, hq, ht⟩
    · exact Or.inl ⟨hq, ht⟩
    · exact Or.inr ⟨q, x, hmem, hq, ht⟩
  · rintro (⟨hq, ht⟩ | ⟨q, x, hmem, hq, ht⟩)
    · exact ⟨p, r, Or.inl ⟨rfl, rfl⟩, hq, ht⟩
    · exact ⟨q, x, Or.inr hmem, hq, ht⟩

/-- **The mark is set by the pulls that stop**, when they hand out an end token, and by no other. -/
theorem ended_pull (u : TokenStream) (p : Pull) :
    (u.pull p).2.ended = true ↔ u.ended = true ∨
      ((p = .next ∨ p = .collect) ∧ ∃ t ∈ (u.pull p).1.tokens, t.kind = .eof) := by
  cases p with
  | read => simp [pull, read]
  | next =>
      cases he : u.ended with
      | true => simp [pull, next?_of_ended he, he]
      | false => simp [pull, next?_of_not_ended he, Pulled.tokens]
  | readAll => simp [pull, readAll]
  | collect =>
      cases he : u.ended with
      | true => simp [pull, collect_of_ended he, he]
      | false =>
          obtain ⟨front, e, hread, hk, -⟩ := u.cursor.exists_readAll_eq_concat
          simp only [pull, collect_of_not_ended he, Pulled.tokens, hread]
          simp [hk]

theorem ended_pullAll (u : TokenStream) (ps : List Pull) :
    (u.pullAll ps).2.ended = true ↔ u.ended = true ∨ MetEnd ps (u.pullAll ps).1 := by
  induction ps generalizing u with
  | nil => simp [pullAll, MetEnd]
  | cons p ps ih =>
      rw [pullAll, metEnd_cons_iff, ih, ended_pull, or_assoc]

/-! ### What is left -/

/-- A pull leaves the tokens behind those that it hands out, and always the end token. -/
theorem readAll_pull {u : TokenStream} {front : List Token} {e : Token}
    (h : u.cursor.readAll.1 = front ++ [e]) (p : Pull) :
    (u.pull p).2.cursor.readAll.1 = front.drop (u.pull p).1.tokens.length ++ [e] := by
  have hall : front.drop u.cursor.readAll.1.length = [] := by
    rw [h, List.length_append]
    exact List.drop_eq_nil_of_le (Nat.le_add_right _ _)
  cases p with
  | read => exact Cursor.readAll_next h
  | next =>
      cases he : u.ended with
      | true =>
          rw [pull, next?_of_ended he]
          exact h
      | false =>
          rw [pull, next?_of_not_ended he]
          exact Cursor.readAll_next h
  | readAll =>
      simp only [pull, readAll, Pulled.tokens]
      rw [hall, Cursor.readAll_readAll h, List.nil_append]
  | collect =>
      cases he : u.ended with
      | true =>
          rw [pull, collect_of_ended he]
          exact h
      | false =>
          simp only [pull, collect_of_not_ended he, Pulled.tokens]
          rw [hall, Cursor.readAll_readAll h, List.nil_append]

theorem readAll_pullAll {u : TokenStream} {front : List Token} {e : Token}
    (h : u.cursor.readAll.1 = front ++ [e]) (ps : List Pull) :
    (u.pullAll ps).2.cursor.readAll.1 =
      front.drop (handedOut (u.pullAll ps).1).length ++ [e] := by
  induction ps generalizing u front with
  | nil => exact h
  | cons p ps ih =>
      rw [pullAll]
      simp only [handedOut, List.flatMap_cons, List.length_append]
      rw [ih (readAll_pull h p), List.drop_drop]
      rfl

/-! ### The stream of a text -/

/-- **All ways of pulling read one stream.**  Whatever was pulled from a text, in whatever order,
what was handed out is the front of one endless sequence: the tokens of the text and then its end
token for ever.  Reading all goes on to the first end token from there on.  A `next` gives nothing
exactly if a `next` before it, on its own or as part of a `collect`, has handed out an end token,
and then nothing changes; and a `collect` is a `next` after the other until one gives nothing. -/
theorem pullAll_follows_stream (s : String) :
    ∃ front e, tokenize s = front ++ [e] ∧ e.kind = .eof ∧ (∀ t ∈ front, t.kind ≠ .eof) ∧
      ∀ (ps : List Pull) (rs : List Pulled) (u : TokenStream),
        (ofSource s).pullAll ps = (rs, u) →
        handedOut rs = (tokenize s ++ₛ const e).take (handedOut rs).length ∧
        (u.pull .readAll).1 = .list (front.drop (handedOut rs).length ++ [e]) ∧
        ((u.pull .next).1 = .item none ↔ MetEnd ps rs) ∧
        ((u.pull .next).1 = .item none → (u.pull .next).2 = u) ∧
        ∃ ts, (u.pull .collect).1 = .list ts ∧
          u.pullAll (List.replicate (ts.length + 1) .next) =
            (ts.map (fun t => .item (some t)) ++ [.item none], (u.pull .collect).2) := by
  obtain ⟨front, e, hread, he, hfront⟩ := (Cursor.ofSource s).exists_readAll_eq_concat
  refine ⟨front, e, hread, he, hfront, ?_⟩
  intro ps rs u hpull
  have hrs : rs = ((ofSource s).pullAll ps).1 := by rw [hpull]
  have hu : u = ((ofSource s).pullAll ps).2 := by rw [hpull]
  have hended : u.ended = true ↔ MetEnd ps rs := by
    rw [hu, hrs, ended_pullAll]
    simp [ofSource]
  refine ⟨?_, ?_, ?_, ?_, u.collect.1, rfl, u.pullAll_next_eq_collect⟩
  · -- what was handed out and the stream behind it make up the stream of the text
    have hstream : (ofSource s).cursor.stream = handedOut rs ++ₛ u.cursor.stream := by
      rw [hrs, hu]
      exact (ofSource s).stream_pullAll ps
    have hsource : tokenize s ++ₛ const e = (ofSource s).cursor.stream := by
      rw [show tokenize s = front ++ [e] from hread, append_append_stream, cons_append_stream,
        nil_append_stream, ← const_eq]
      exact (Cursor.stream_eq_append hread).symm
    rw [hsource, hstream, take_append_of_le_length _ _ _ (Nat.le_refl _), List.take_length]
  · have hleft := readAll_pullAll (u := ofSource s) hread ps
    rw [← hrs, ← hu] at hleft
    exact congrArg Pulled.list hleft
  · rw [← hended, pull]
    cases h : u.ended with
    | true => simp [next?_of_ended h]
    | false => simp [next?_of_not_ended h]
  · rw [pull]
    cases h : u.ended with
    | true => simp [next?_of_ended h]
    | false => simp [next?_of_not_ended h]

end TokenStream

end LetInspector
