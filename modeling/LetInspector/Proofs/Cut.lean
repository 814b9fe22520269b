/-
**What a sink takes.**

A sink may have room for a limited number of bytes, and one of its flushes may fail.  Taken byte by
byte and flush by flush this is one rule: after the steps that it has taken, a sink refuses the next
one or it does not.  This module proves that a sink carries out a list of events up to the first
step that it refuses, and that its transcript tells which steps these are.

Main definitions:

* `LetInspector.Step`, `LetInspector.Event.steps` — bytes and flushes, one by one;
* `LetInspector.written`, `LetInspector.flushed` — what steps leave in a transcript;
* `LetInspector.Sink.Refuses`, `LetInspector.Sink.Takes` — what a sink takes after other steps;
* `LetInspector.Sink.Cut` — the steps in front of the first that a sink refuses.

Main results:

* `LetInspector.Sink.Cut.takes_iff` — nothing is cut off if and only if no step is refused;
* `LetInspector.Sink.runFrom_cases` — what a sink does with one event;
* `LetInspector.Sink.exists_cut` — **a sink carries out steps up to the first that it refuses**.
-/

import LetInspector.Session.Sink
import Mathlib.Data.List.Infix

set_option autoImplicit false

namespace LetInspector

/-! ### Steps of an output -/

/-- One step of an output: a byte is written, or what was written is passed on. -/
inductive Step where
  | byte (b : UInt8)
  | flush
deriving DecidableEq

namespace Step

/-- The byte that a step writes. -/
def byte? : Step → Option UInt8
  | byte b => some b
  | flush => none

/-- The failure of a step that cannot be made. -/
def failure : Step → Failure
  | byte _ => .full
  | flush => .flushFailed

end Step

/-- The steps of an event. -/
def Event.steps : Event → List Step
  | .write text => text.toUTF8.data.toList.map .byte
  | .flush => [.flush]

/-- The bytes that steps write. -/
def written (steps : List Step) : List UInt8 := steps.filterMap Step.byte?

/-- The number of flushes among steps. -/
def flushed (steps : List Step) : Nat := steps.count .flush

@[simp] theorem written_append (a b : List Step) : written (a ++ b) = written a ++ written b :=
  List.filterMap_append

@[simp] theorem written_map_byte (bytes : List UInt8) : written (bytes.map .byte) = bytes := by
  rw [written, List.filterMap_map]
  exact List.filterMap_some

@[simp] theorem written_flush : written [.flush] = [] := rfl

@[simp] theorem flushed_append (a b : List Step) : flushed (a ++ b) = flushed a + flushed b :=
  List.count_append

@[simp] theorem flushed_map_byte (bytes : List UInt8) : flushed (bytes.map .byte) = 0 := by
  refine List.count_eq_zero.2 ?_
  simp

@[simp] theorem flushed_flush : flushed [.flush] = 1 := rfl

namespace Sink

/-! ### What a sink takes -/

/-- Whether a sink that has taken some steps cannot take another one: a byte beyond its limit, or
the flush that fails. -/
def Refuses (s : Sink) (before : List Step) : Step → Prop
  | .byte _ => ∃ n ∈ s.limit, n ≤ (written before).length
  | .flush => s.failingFlush = some (flushed before + 1)

/-- Whether a sink that has taken some steps takes all of the next ones. -/
def Takes (s : Sink) (before : List Step) : List Step → Prop
  | [] => True
  | x :: rest => ¬ s.Refuses before x ∧ Takes s (before ++ [x]) rest

theorem takes_append (s : Sink) (before a b : List Step) :
    s.Takes before (a ++ b) ↔ s.Takes before a ∧ s.Takes (before ++ a) b := by
  induction a generalizing before with
  | nil => simp [Takes]
  | cons x a ih => simp [Takes, ih, and_assoc]

/-- Bytes are taken as long as there is room for them. -/
theorem takes_map_byte {s : Sink} {before : List Step} {bytes : List UInt8}
    (h : ∀ n ∈ s.limit, bytes.length ≤ n - (written before).length) :
    s.Takes before (bytes.map .byte) := by
  induction bytes generalizing before with
  | nil => trivial
  | cons b bytes ih =>
      refine ⟨?_, ih ?_⟩
      · rintro ⟨n, hn, hle⟩
        have hroom := h n hn
        rw [List.length_cons] at hroom
        omega
      · intro n hn
        have hroom := h n hn
        have hmore : (written (before ++ [.byte b])).length = (written before).length + 1 := by
          rw [written_append, List.length_append]
          rfl
        rw [List.length_cons] at hroom
        omega

/-- **What a sink takes of some steps**: all in front of the first that it refuses. -/
structure Cut (s : Sink) (before steps taken left : List Step) : Prop where
  eq : steps = taken ++ left
  takes : s.Takes before taken
  refuses : ∀ x ∈ left.head?, s.Refuses (before ++ taken) x

theorem Cut.append {s : Sink} {before a steps taken left : List Step} (ha : s.Takes before a)
    (h : s.Cut (before ++ a) steps taken left) : s.Cut before (a ++ steps) (a ++ taken) left where
  eq := by rw [h.eq, List.append_assoc]
  takes := (s.takes_append before a taken).2 ⟨ha, h.takes⟩
  refuses := by
    rw [← List.append_assoc]
    exact h.refuses

/-- A sink takes all steps if and only if the cut leaves none of them. -/
theorem Cut.takes_iff {s : Sink} {before steps taken left : List Step}
    (h : s.Cut before steps taken left) : s.Takes before steps ↔ left = [] := by
  rw [h.eq, takes_append, and_iff_right h.takes]
  cases left with
  | nil => simp [Takes]
  | cons x left => simp [Takes, h.refuses x rfl]

/-- Bytes that do not fit are cut where the limit is reached. -/
theorem exists_cut_of_full {s : Sink} {before : List Step} {bytes : List UInt8} {n : Nat}
    (hn : n ∈ s.limit) (h : n - (written before).length < bytes.length) :
    ∃ b left, ∀ rest, s.Cut before (bytes.map .byte ++ rest)
      ((bytes.take (n - (written before).length)).map .byte) (.byte b :: left ++ rest) := by
  have hlength : (bytes.take (n - (written before).length)).length =
      n - (written before).length := List.length_take_of_le h.le
  obtain ⟨b, left, hleft⟩ : ∃ b left, bytes.drop (n - (written before).length) = b :: left :=
    List.exists_cons_of_ne_nil (by simpa using h)
  refine ⟨b, left.map .byte, ?_⟩
  intro rest
  refine ⟨?_, takes_map_byte ?_, ?_⟩
  · rw [← List.map_cons, ← hleft, ← List.append_assoc, ← List.map_append, List.take_append_drop]
  · intro m hm
    obtain rfl := Option.mem_unique hm hn
    exact hlength.le
  · rintro x ⟨⟩
    refine ⟨n, hn, ?_⟩
    rw [written_append, written_map_byte, List.length_append, hlength]
    omega

/-! ### A sink carries out events -/

theorem room_le (s : Sink) (held : Nat) (bytes : ByteArray) : s.room held bytes ≤ bytes.size := by
  unfold room
  split <;> omega

/-- Where there is not enough room for some bytes, a limit leaves too little. -/
theorem room_lt_iff (s : Sink) (held : Nat) (bytes : ByteArray) :
    s.room held bytes < bytes.size ↔ ∃ n ∈ s.limit, n - held < bytes.size := by
  unfold room
  cases s.limit with
  | none => simp
  | some n =>
      have hmin : min bytes.size (n - held) < bytes.size ↔ n - held < bytes.size := by omega
      simp [hmin]

theorem room_of_lt {s : Sink} {held n : Nat} {bytes : ByteArray} (hn : n ∈ s.limit)
    (h : n - held < bytes.size) : s.room held bytes = n - held := by
  rw [room, hn]
  exact Nat.min_eq_right h.le

end Sink

/-- The transcript of a run that made the given steps and has not failed. -/
structure Transcript.Holds (t : Transcript) (steps : List Step) : Prop where
  bytes_eq : t.bytes.data.toList = written steps
  flushes_eq : t.flushes = flushed steps
  failure_eq : t.failure = none

namespace Sink

/-- **One event**: a sink takes all of its steps and goes on, or it stops in front of one of
them. -/
theorem runFrom_cases {t : Transcript} {before : List Step} (h : t.Holds before) (s : Sink)
    (e : Event) :
    (s.Takes before e.steps ∧ ∃ u : Transcript, u.Holds (before ++ e.steps) ∧
      ∀ events, s.runFrom t (e :: events) = s.runFrom u events) ∨
    ∃ taken x left, (∀ rest, s.Cut before (e.steps ++ rest) taken (x :: left ++ rest)) ∧
      ∃ u : Transcript, u.Holds (before ++ taken) ∧
        ∀ events, s.runFrom t (e :: events) = { u with failure := some x.failure } := by
  cases e with
  | write text =>
      have hheld : t.bytes.size = (written before).length := by
        rw [← h.bytes_eq]
        rfl
      by_cases hroom : s.room (written before).length text.toUTF8 < text.toUTF8.size
      · right
        obtain ⟨n, hn, hlt⟩ := (s.room_lt_iff _ _).1 hroom
        have hlength : n - (written before).length < text.toUTF8.data.toList.length := hlt
        obtain ⟨b, left, hcut⟩ := exists_cut_of_full hn hlength
        let kept := t.bytes ++ text.toUTF8.extract 0 (n - (written before).length)
        refine ⟨_, .byte b, left, hcut, { t with bytes := kept }, ⟨?_, ?_, h.failure_eq⟩, ?_⟩
        · rw [written_append, written_map_byte]
          simp [kept, ByteArray.data_extract, h.bytes_eq]
        · rw [flushed_append, flushed_map_byte]
          exact h.flushes_eq
        · intro events
          rw [runFrom, hheld, if_pos hroom, room_of_lt hn hlt]
          rfl
      · left
        have htakes : s.Takes before (Event.write text).steps := by
          refine takes_map_byte ?_
          intro n hn
          by_contra hlt
          exact hroom ((s.room_lt_iff _ _).2 ⟨n, hn, Nat.lt_of_not_le hlt⟩)
        refine ⟨htakes, { t with bytes := t.bytes ++ text.toUTF8 }, ⟨?_, ?_, h.failure_eq⟩, ?_⟩
        · simp [Event.steps, h.bytes_eq]
        · simp [Event.steps, h.flushes_eq]
        · intro events
          rw [runFrom, hheld, if_neg hroom]
  | flush =>
      by_cases hflush : s.failingFlush = some (flushed before + 1)
      · right
        refine ⟨[], .flush, [], ?_, t, ?_, ?_⟩
        · intro rest
          refine ⟨rfl, trivial, ?_⟩
          rintro x ⟨⟩
          rwa [List.append_nil]
        · rwa [List.append_nil]
        · intro events
          rw [runFrom, h.flushes_eq, if_pos hflush]
          rfl
      · left
        refine ⟨⟨hflush, trivial⟩, { t with flushes := flushed before + 1 },
          ⟨?_, ?_, h.failure_eq⟩, ?_⟩
        · simpa [Event.steps] using h.bytes_eq
        · simp [Event.steps]
        · intro events
          rw [runFrom, h.flushes_eq, if_neg hflush]

/-- **A sink carries out steps up to the first that it refuses**, which its transcript tells. -/
theorem exists_cut {t : Transcript} {before : List Step} (h : t.Holds before) (s : Sink)
    (events : List Event) :
    ∃ taken left, s.Cut before (events.flatMap Event.steps) taken left ∧
      (s.runFrom t events).bytes.data.toList = written (before ++ taken) ∧
      (s.runFrom t events).flushes = flushed (before ++ taken) ∧
      (s.runFrom t events).failure = left.head?.map Step.failure := by
  -- what an event adds to the transcript it adds to the steps before, so `before` is general
  induction events generalizing t before with
  | nil =>
      refine ⟨[], [], ⟨rfl, trivial, by simp⟩, ?_⟩
      simpa [runFrom] using ⟨h.bytes_eq, h.flushes_eq, h.failure_eq⟩
  | cons e events ih =>
      rw [List.flatMap_cons]
      rcases s.runFrom_cases h e with ⟨htakes, u, hu, hrun⟩ | ⟨taken, x, left, hcut, u, hu, hrun⟩
      · obtain ⟨taken, left, hcut, hrest⟩ := ih hu
        refine ⟨e.steps ++ taken, left, hcut.append htakes, ?_⟩
        rwa [hrun, ← List.append_assoc]
      · refine ⟨taken, _, hcut _, ?_⟩
        rw [hrun]
        exact ⟨hu.bytes_eq, hu.flushes_eq, rfl⟩

end Sink

end LetInspector
