/-
**Where a session stops.**

A session can be ended by its sink, which has no room for a byte or fails in a flush, and by its
input, which holds a line that is not text.  This module says where it stops, whichever of the three
comes first: it has then made the steps that it makes on a writer that never fails, up to the first
that its sink refuses.

A session in step with a writer hands over the events that `LetInspector.Session.events` lists and
then ends as that says.  This holds of every writer, by an induction over the lines, so a sink and a
record are handed the same events, and what a sink takes of them is `LetInspector.Sink.exists_cut`.

Main definitions:

* `LetInspector.Writer.follow` — events handed over in turn, and an early ending;
* `LetInspector.Session.pursue` — what a session does for the lines that it can read.

Main results:

* `LetInspector.Session.converse_eq` — **a session in step with a writer hands over its events**;
* `LetInspector.Session.run_eq_close_converse` — a session that writes to a sink is in step with it;
* `LetInspector.Session.run_stops_at_first_fault` — **where a session stops**.
-/

import LetInspector.Proofs.Cut
import LetInspector.Session.Basic

set_option autoImplicit false

namespace LetInspector

/-! ### In step with a writer -/

namespace Output

variable {σ : Type} {x : Output σ Unit} {t u : σ}

theorem runOn_seq_of_ok (h : x.runOn t = (.ok (), u)) (y : Output σ Unit) :
    Output.runOn (do x; y) t = y.runOn u := by
  rw [runOn] at h
  rw [runOn, ExceptT.run_bind, StateT.run_bind, h]
  rfl

theorem runOn_seq_of_error {f : Failure} (h : x.runOn t = (.error f, u)) (y : Output σ Unit) :
    Output.runOn (do x; y) t = (.error f, u) := by
  rw [runOn] at h
  rw [runOn, ExceptT.run_bind, StateT.run_bind, h]
  rfl

end Output

namespace Writer

variable {σ : Type}

/-- Hands over events in turn, and then fails if something ends them early. -/
def follow (w : Writer σ) (p : List Event × Option Failure) : Output σ Unit := do
  w.takeAll p.1
  match p.2 with
  | none => pure ()
  | some f => throw f

theorem follow_append (w : Writer σ) (front events : List Event) (ending : Option Failure) :
    w.follow (front ++ events, ending) = (do w.takeAll front; w.follow (events, ending)) := by
  simp [follow, takeAll]

theorem follow_cons (w : Writer σ) (e : Event) (events : List Event) (ending : Option Failure) :
    w.follow (e :: events, ending) = (do w e; w.follow (events, ending)) := by
  simp [follow, takeAll]

/-- A record keeps every event. -/
theorem runOn_record_follow (p : List Event × Option Failure) (done : List Event) :
    (record.follow p).runOn done =
      (match p.2 with | none => .ok () | some f => .error f, done ++ p.1) := by
  obtain ⟨events, ending⟩ := p
  induction events generalizing done with
  | nil => cases ending <;> simp [follow, takeAll, Output.runOn] <;> rfl
  | cons e events ih =>
      have hkept : (record e).runOn done = (.ok (), done ++ [e]) := rfl
      rw [follow_cons, Output.runOn_seq_of_ok hkept, ih, List.append_assoc, List.singleton_append]

end Writer

namespace Sink

/-- **One event**: a sink takes it and goes on, or the run ends with it. -/
theorem runOn_writer (s : Sink) {t : Transcript} (ht : t.failure = none) (e : Event) :
    (∃ u, u.failure = none ∧ (s.writer e).runOn t = (.ok (), u) ∧
      ∀ rest, s.runFrom t (e :: rest) = s.runFrom u rest) ∨
    ∃ u f, (s.writer e).runOn t = (.error f, u) ∧
      ∀ rest, s.runFrom t (e :: rest) = { u with failure := some f } := by
  cases e with
  | write text =>
      have hrun : (s.writer (.write text)).runOn t =
          Output.runOn (if s.room t.bytes.size text.toUTF8 < text.toUTF8.size then throw .full
            else pure ())
          { t with bytes := t.bytes ++
              text.toUTF8.extract 0 (s.room t.bytes.size text.toUTF8) } := rfl
      by_cases hroom : s.room t.bytes.size text.toUTF8 < text.toUTF8.size
      · rw [if_pos hroom] at hrun
        refine Or.inr ⟨_, .full, hrun, ?_⟩
        intro rest
        rw [runFrom, if_pos hroom]
      · have hall : text.toUTF8.extract 0 (s.room t.bytes.size text.toUTF8) = text.toUTF8 := by
          have hsize : s.room t.bytes.size text.toUTF8 = text.toUTF8.size :=
            Nat.le_antisymm (s.room_le _ _) (Nat.le_of_not_lt hroom)
          rw [hsize, ByteArray.extract_zero_size]
        rw [if_neg hroom, hall] at hrun
        refine Or.inl ⟨{ t with bytes := t.bytes ++ text.toUTF8 }, ht, hrun, ?_⟩
        intro rest
        rw [runFrom, if_neg hroom]
  | flush =>
      have hrun : (s.writer .flush).runOn t =
          Output.runOn (if s.failingFlush = some (t.flushes + 1) then throw .flushFailed
            else set { t with flushes := t.flushes + 1 }) t := rfl
      by_cases hflush : s.failingFlush = some (t.flushes + 1)
      · rw [if_pos hflush] at hrun
        refine Or.inr ⟨t, .flushFailed, hrun, ?_⟩
        intro rest
        rw [runFrom, if_pos hflush]
      · rw [if_neg hflush] at hrun
        refine Or.inl ⟨{ t with flushes := t.flushes + 1 }, ht, hrun, ?_⟩
        intro rest
        rw [runFrom, if_neg hflush]

/-- A sink as a writer carries out what it carries out by itself. -/
theorem close_follow (s : Sink) {t : Transcript} (ht : t.failure = none) (events : List Event)
    (ending : Option Failure) :
    Transcript.close ((s.writer.follow (events, ending)).runOn t) =
      match (s.runFrom t events).failure with
      | some _ => s.runFrom t events
      | none => { s.runFrom t events with failure := ending } := by
  induction events generalizing t with
  | nil =>
      obtain ⟨bytes, flushes, failure⟩ := t
      subst ht
      cases ending <;> rfl
  | cons e events ih =>
      rw [Writer.follow_cons]
      rcases s.runOn_writer ht e with ⟨u, hu, hrun, hrest⟩ | ⟨u, f, hrun, hrest⟩
      · rw [Output.runOn_seq_of_ok hrun, ih hu, hrest]
      · rw [Output.runOn_seq_of_error hrun, hrest]
        rfl

end Sink

namespace Session

variable {σ : Type}

theorem readLines_go_eq (done : List (List Char)) (lines : List ByteArray) :
    readLines.go done lines =
      (done.reverse ++ (readLines.go [] lines).1, (readLines.go [] lines).2) := by
  induction lines generalizing done with
  | nil => simp [readLines.go]
  | cons bytes lines ih =>
      rw [readLines.go, readLines.go]
      cases String.fromUTF8? bytes with
      | none => simp
      | some line =>
          simp only
          rw [ih, ih [line.toList]]
          simp

/-- What a session does for lines that were read, and what ends it behind them. -/
def pursue (s : Session) (read : List (List Char) × Bool) : List Event × Option Failure :=
  if read.2 then (read.1.flatMap s.lineEvents, some .notText)
  else (read.1.flatMap s.lineEvents ++ closingEvents, none)

theorem pursue_cons (s : Session) (line : List Char) (read : List (List Char) × Bool) :
    s.pursue (line :: read.1, read.2) =
      (s.lineEvents line ++ (s.pursue read).1, (s.pursue read).2) := by
  unfold pursue
  split <;> simp

theorem events_eq (s : Session) (input : ByteArray) :
    s.events input = (promptEvents ++ (s.pursue (readLines input)).1,
      (s.pursue (readLines input)).2) := by
  unfold events pursue
  split <;> simp_all

/-- Line by line, a session hands over what it does for the lines that it can read. -/
theorem forM_converseLine (s : Session) (w : Writer σ) (lines : List ByteArray) :
    (do lines.forM (s.converseLine w); w.takeAll closingEvents : Output σ Unit) =
      w.follow (s.pursue (readLines.go [] lines)) := by
  induction lines with
  | nil => simp [readLines.go, pursue, Writer.follow]
  | cons bytes lines ih =>
      rw [readLines.go]
      cases h : String.fromUTF8? bytes with
      | none => simp [converseLine, h, pursue, Writer.follow, Writer.takeAll]
      | some line =>
          simp only
          rw [readLines_go_eq [line.toList], List.reverse_singleton, List.singleton_append,
            pursue_cons, Writer.follow_append, ← ih]
          simp [converseLine, h]

/-- **A session in step with a writer hands over its events**, whatever the writer is. -/
theorem converse_eq (s : Session) (w : Writer σ) (input : ByteArray) :
    s.converse w input = w.follow (s.events input) := by
  rw [events_eq, Writer.follow_append, readLines, ← forM_converseLine]
  rfl

/-- What a session does on a writer that never fails. -/
theorem runOn_record_converse (s : Session) (input : ByteArray) :
    ((s.converse Writer.record input).runOn []).2 = (s.events input).1 := by
  rw [converse_eq, Writer.runOn_record_follow]
  rfl

/-- A session that writes to a sink is in step with it. -/
theorem run_eq_close_converse (s : Session) (input : ByteArray) (sink : Sink) :
    s.run input sink = Transcript.close ((s.converse sink.writer input).runOn .empty) := by
  rw [converse_eq]
  exact (sink.close_follow rfl _ _).symm

/-- Nothing of an input is left unread if every line of it is text. -/
theorem readLines_eq_false_iff (input : ByteArray) :
    (readLines input).2 = false ↔
      ∀ line ∈ linesOfBytes input, (String.fromUTF8? line).isSome := by
  rw [readLines]
  induction linesOfBytes input with
  | nil => simp [readLines.go]
  | cons bytes lines ih =>
      rw [readLines.go]
      cases h : String.fromUTF8? bytes with
      | none => simp [h]
      | some line =>
          simp only
          rw [readLines_go_eq, List.forall_mem_cons, h]
          simpa using ih

theorem events_snd (s : Session) (input : ByteArray) :
    (s.events input).2 =
      if ∀ line ∈ linesOfBytes input, (String.fromUTF8? line).isSome then none
      else some .notText := by
  rw [if_congr (readLines_eq_false_iff input).symm rfl rfl, events]
  cases (readLines input).2 <;> rfl

/-- **Where a session stops.**  It makes the steps that it makes on a writer that never fails, up to
the first that its sink refuses.  That step is what it fails by; if there is none, it fails by the
first line that is not text, if there is one. -/
theorem run_stops_at_first_fault (s : Session) (input : ByteArray) (sink : Sink) :
    let whole := ((s.converse Writer.record input).runOn []).2.flatMap Event.steps
    let run := s.run input sink
    run = Transcript.close ((s.converse sink.writer input).runOn .empty) ∧
    ∃ taken left, sink.Cut [] whole taken left ∧
      run.bytes.data.toList = written taken ∧
      run.flushes = flushed taken ∧
      (run.failure = none ↔ sink.Takes [] whole ∧
        ∀ line ∈ linesOfBytes input, (String.fromUTF8? line).isSome) ∧
      run.failure = match left with
        | x :: _ => some x.failure
        | [] => if ∀ line ∈ linesOfBytes input, (String.fromUTF8? line).isSome then none
            else some .notText := by
  intro whole run
  have hwhole : whole = (s.events input).1.flatMap Event.steps := by
    rw [← s.runOn_record_converse input]
  have hstart : Transcript.empty.Holds [] := ⟨rfl, rfl, rfl⟩
  obtain ⟨taken, left, hcut, hbytes, hflushes, hfailure⟩ :=
    sink.exists_cut hstart (s.events input).1
  rw [← hwhole] at hcut
  have hrun : run = Sink.run sink (s.events input).1 (s.events input).2 := rfl
  refine ⟨s.run_eq_close_converse input sink, taken, left, hcut, ?_⟩
  rw [hcut.takes_iff]
  cases left with
  | nil =>
      simp only [Sink.run, hfailure, List.head?_nil, Option.map_none, events_snd] at hrun
      rw [hrun]
      refine ⟨hbytes, hflushes, ?_, rfl⟩
      rw [and_iff_right rfl]
      constructor
      · intro hnone
        by_contra hbad
        rw [if_neg hbad] at hnone
        cases hnone
      · exact fun htext => if_pos htext
  | cons x left =>
      simp only [Sink.run, hfailure, List.head?_cons, Option.map_some] at hrun
      rw [hrun]
      exact ⟨hbytes, hflushes, by simp [hfailure], hfailure⟩

end Session

end LetInspector
