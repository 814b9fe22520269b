/-
**Writing to a sink that may fail.**

What a session does to its output is a list of events: texts that are written and flushes.  A sink
may have room for a limited number of bytes, and one of its flushes may fail.  A write that does not
fit keeps the bytes that do; the first event that fails ends the run.

A list of events may be collected first and carried out as a whole.  Or they are handed over one by
one, and what takes them is then a parameter: a sink, or a record that never fails.

Main definitions:

* `LetInspector.Event` — a write or a flush;
* `LetInspector.Failure` — why a run ended early, with its category and message;
* `LetInspector.Sink`, `LetInspector.Transcript` — what may fail, and what was written;
* `LetInspector.Sink.run` — a list of events carried out;
* `LetInspector.Output`, `LetInspector.Writer` — output that may fail, and what takes events one by
  one;
* `LetInspector.Writer.record`, `LetInspector.Sink.writer` — a record, and a sink as a writer.
-/

set_option autoImplicit false

namespace LetInspector

/-- One thing that is done to an output: a text is written, or what was written is passed on. -/
inductive Event where
  | write (text : String)
  | flush
deriving DecidableEq

/-- Why a run ended early: the sink had no room for the whole of a write, a flush failed, or a line
of the input is not UTF-8. -/
inductive Failure where
  | full
  | flushFailed
  | notText
deriving DecidableEq

namespace Failure

/-- The category that a failure is reported under. -/
def category : Failure → String
  | full => "WriteZero"
  | flushFailed => "Other"
  | notText => "InvalidData"

/-- The message of a failure. -/
def message : Failure → String
  | full => "failed to write whole buffer"
  | flushFailed => "flush failed"
  | notText => "stream did not contain valid UTF-8"

end Failure

/-- What a sink can take. -/
structure Sink where
  /-- The number of bytes there is room for; any number if absent. -/
  limit : Option Nat := none
  /-- The number of the flush that fails, counted from one; none if absent. -/
  failingFlush : Option Nat := none
deriving DecidableEq

/-- What reached a sink. -/
structure Transcript where
  /-- The bytes that were written. -/
  bytes : ByteArray
  /-- The number of flushes that succeeded. -/
  flushes : Nat
  /-- The failure that ended the run, if one did. -/
  failure : Option Failure

namespace Transcript

/-- The transcript of a run that has not begun. -/
def empty : Transcript := ⟨ByteArray.empty, 0, none⟩

/-- The bytes as text.  A character that the end of the room cut in two is shown by the
replacement character. -/
def text (t : Transcript) : String :=
  match String.fromUTF8? t.bytes with
  | some s => s
  | none =>
    let cut := ([1, 2, 3].filterMap fun n =>
      String.fromUTF8? (t.bytes.extract 0 (t.bytes.size - n))).head?
    cut.getD "" ++ "\uFFFD"

end Transcript

namespace Sink

/-- The number of bytes of `bytes` that the sink takes when it holds `held` bytes. -/
def room (s : Sink) (held : Nat) (bytes : ByteArray) : Nat :=
  match s.limit with
  | none => bytes.size
  | some n => min bytes.size (n - held)

/-- Carries out events on top of what was done before. -/
def runFrom (s : Sink) (t : Transcript) : List Event → Transcript
  | [] => t
  | .write text :: rest =>
    let bytes := text.toUTF8
    let taken := s.room t.bytes.size bytes
    if taken < bytes.size then
      { t with bytes := t.bytes ++ bytes.extract 0 taken, failure := some .full }
    else runFrom s { t with bytes := t.bytes ++ bytes } rest
  | .flush :: rest =>
    if s.failingFlush = some (t.flushes + 1) then { t with failure := some .flushFailed }
    else runFrom s { t with flushes := t.flushes + 1 } rest

/-- Carries out events; `ending` is the failure that follows them if all of them succeed. -/
def run (s : Sink) (events : List Event) (ending : Option Failure) : Transcript :=
  let t := s.runFrom .empty events
  -- A failure on the way comes before the one that waits at the end.
  match t.failure with
  | some _ => t
  | none => { t with failure := ending }

end Sink

/-! ### One event after the other -/

/-- Output that changes a state and may fail. -/
abbrev Output (σ : Type) : Type → Type := ExceptT Failure (StateM σ)

/-- Carries an output out on a state: how it ended, and the state after it. -/
def Output.runOn {σ : Type} (x : Output σ Unit) (state : σ) : Except Failure Unit × σ :=
  StateT.run (ExceptT.run x) state

/-- What takes events one by one. -/
abbrev Writer (σ : Type) : Type := Event → Output σ Unit

namespace Writer

/-- The record of all events, which never fails. -/
def record : Writer (List Event) := fun e => modify (· ++ [e])

/-- Hands over events in turn. -/
def takeAll {σ : Type} (w : Writer σ) (events : List Event) : Output σ Unit := events.forM w

end Writer

/-- A sink takes an event.  It keeps the bytes that fit also when not all of them do. -/
def Sink.writer (s : Sink) : Writer Transcript
  | .write text => do
    let t ← get
    let bytes := text.toUTF8
    let taken := s.room t.bytes.size bytes
    set { t with bytes := t.bytes ++ bytes.extract 0 taken }
    if taken < bytes.size then throw .full
  | .flush => do
    let t ← get
    if s.failingFlush = some (t.flushes + 1) then throw .flushFailed
    else set { t with flushes := t.flushes + 1 }

/-- The transcript of a run that has ended, with what it ended by. -/
def Transcript.close (ended : Except Failure Unit × Transcript) : Transcript :=
  match ended.1 with
  | .ok () => ended.2
  | .error f => { ended.2 with failure := some f }

end LetInspector
