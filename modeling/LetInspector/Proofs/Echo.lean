/-
**Echoing line by line.**

A session answers each line on its own, by a reader that knows nothing of the other lines.  Nothing
is lost by that: this module proves that the answers, one after the other, show the tokens of the
whole input.  The input is cut into lines while it is still bytes.  A byte below 128 stands for
itself wherever it occurs, so the lines of the bytes are the bytes of the lines.

Main definitions:

* `LetInspector.bytesOf` — the bytes of a text, as a list;
* `LetInspector.Event.text` — what an event adds to the output;
* `LetInspector.echo` — tokens, one a line.

Main results:

* `LetInspector.Lined.map_bytesOf` — the lines of the bytes are the bytes of the lines;
* `LetInspector.Sink.runFrom_unlimited` — a sink that never fails takes every text, in order;
* `LetInspector.Session.run_unlimited` — what a session shows of a text, whatever it answers;
* `LetInspector.Session.run_eq_echo` — **the answers are the tokens of the whole text**.
-/

import LetInspector.Proofs.Lines
import LetInspector.Session.Basic
import Mathlib.Data.List.Infix

set_option autoImplicit false

namespace LetInspector

/-! ### The bytes of lines -/

/-- The bytes of a text. -/
def bytesOf (cs : List Char) : List UInt8 := cs.flatMap String.utf8EncodeChar

theorem bytesOf_append (cs ds : List Char) : bytesOf (cs ++ ds) = bytesOf cs ++ bytesOf ds :=
  List.flatMap_append

theorem bytesOf_cons (c : Char) (cs : List Char) :
    bytesOf (c :: cs) = String.utf8EncodeChar c ++ bytesOf cs := List.flatMap_cons

theorem toList_data_toUTF8 (s : String) : s.toUTF8.data.toList = bytesOf s.toList := by
  rw [String.toUTF8_eq_toByteArray, ← String.utf8Encode_toList, List.utf8Encode,
    List.toList_data_toByteArray, bytesOf]

theorem fromUTF8?_bytesOf (cs : List Char) :
    String.fromUTF8? ⟨(bytesOf cs).toArray⟩ = some (String.ofList cs) := by
  have hbytes : (⟨(bytesOf cs).toArray⟩ : ByteArray) = (String.ofList cs).toByteArray := by
    refine ByteArray.ext (Array.toList_inj.1 ?_)
    rw [← String.toUTF8_eq_toByteArray, toList_data_toUTF8, String.toList_ofList]
  rw [hbytes, String.fromUTF8?, dif_pos (String.ofList cs).isValidUTF8]
  rfl

section

variable {c : Char} (hc : c.toNat < 128)

include hc

/-- A byte below 128 stands for itself. -/
theorem eq_of_mem_utf8EncodeChar {d : Char} (h : UInt8.ofNat c.toNat ∈ String.utf8EncodeChar d) :
    d = c := by
  rw [← Char.toNat_inj]
  unfold String.utf8EncodeChar at h
  simp only [Char.toNat_val] at h
  -- every byte of a longer code is at least 128
  split_ifs at h <;>
    simp only [List.mem_cons, List.not_mem_nil, or_false, ← UInt8.toNat_inj,
      UInt8.toNat_ofNat'] at h <;>
    omega

theorem mem_of_mem_bytesOf {cs : List Char} (h : UInt8.ofNat c.toNat ∈ bytesOf cs) : c ∈ cs := by
  obtain ⟨d, hd, hmem⟩ := List.mem_flatMap.1 h
  exact eq_of_mem_utf8EncodeChar hc hmem ▸ hd

theorem getLast?_of_getLast?_bytesOf {cs : List Char}
    (h : (bytesOf cs).getLast? = some (UInt8.ofNat c.toNat)) : cs.getLast? = some c := by
  rcases List.eq_nil_or_concat cs with rfl | ⟨front, d, rfl⟩
  · cases h
  · have hcode : bytesOf [d] = String.utf8EncodeChar d := List.flatMap_singleton ..
    rw [List.concat_eq_append, bytesOf_append, hcode, List.getLast?_append] at h
    cases hlast : (String.utf8EncodeChar d).getLast? with
    | none => exact absurd (List.getLast?_eq_none_iff.1 hlast) String.utf8EncodeChar_ne_nil
    | some b =>
        rw [hlast, Option.some_or, Option.some.injEq] at h
        subst h
        rw [List.concat_eq_append, List.getLast?_concat,
          eq_of_mem_utf8EncodeChar hc (List.mem_of_getLast? hlast)]

end

/-- **The lines of the bytes are the bytes of the lines.** -/
theorem Lined.map_bytesOf {cs : List Char} {lines : List (List Char)}
    (h : Lined '\n' '\r' cs lines) : Lined 10 13 (bytesOf cs) (lines.map bytesOf) := by
  have hfeed : ∀ {line : List Char}, '\n' ∉ line → 10 ∉ bytesOf line := by
    intro line hline hmem
    exact hline (mem_of_mem_bytesOf (c := '\n') (by decide) hmem)
  have hret : ∀ {line : List Char}, line.getLast? ≠ some '\r' →
      (bytesOf line).getLast? ≠ some 13 := by
    intro line hline hlast
    exact hline (getLast?_of_getLast?_bytesOf (c := '\r') (by decide) hlast)
  induction h with
  | nil => exact .nil
  | @last line hne hline =>
      refine .last ?_ (hfeed hline)
      obtain ⟨c, cs, rfl⟩ := List.exists_cons_of_ne_nil hne
      rw [bytesOf_cons]
      exact List.append_ne_nil_of_left_ne_nil String.utf8EncodeChar_ne_nil _
  | ended hline hlast next ih =>
      rw [bytesOf_append, bytesOf_cons, List.map_cons]
      exact .ended (hfeed hline) (hret hlast) ih
  | returned hline next ih =>
      rw [bytesOf_append, bytesOf_cons, bytesOf_cons, List.map_cons]
      exact .returned (hfeed hline) ih

theorem linesOfBytes_toUTF8 (s : String) :
    linesOfBytes s.toUTF8 = (linesOfText s).map fun line => ⟨(bytesOf line).toArray⟩ := by
  have hlines := (lined_linesOfText s).map_bytesOf.splitLines_eq (by decide)
  rw [linesOfBytes, toList_data_toUTF8, hlines, List.map_map]
  rfl

/-! ### A sink that never fails -/

/-- What an event adds to the output. -/
def Event.text : Event → String
  | .write text => text
  | .flush => ""

/-- **A sink that never fails takes every text**, in order. -/
theorem Sink.runFrom_unlimited (t : Transcript) (events : List Event) :
    ({} : Sink).runFrom t events =
      ⟨t.bytes ++ (String.join (events.map Event.text)).toUTF8,
        t.flushes + events.count .flush, t.failure⟩ := by
  induction events generalizing t with
  | nil => simp [runFrom]
  | cons e rest ih =>
      cases e with
      | write text =>
          have hroom : ¬ ({} : Sink).room t.bytes.size text.toUTF8 < text.toUTF8.size :=
            Nat.lt_irrefl _
          rw [runFrom, if_neg hroom, ih, List.map_cons, String.join_cons]
          simp [Event.text, ByteArray.append_assoc]
      | flush =>
          rw [runFrom, if_neg (by simp), ih, List.map_cons, String.join_cons, List.count_cons_self,
            Nat.add_right_comm, ← Nat.add_assoc]
          simp [Event.text]

namespace Session

/-! ### What a session shows -/

theorem readLines_toUTF8 (s : String) : readLines s.toUTF8 = (linesOfText s, false) := by
  have hgo : ∀ done lines : List (List Char),
      readLines.go done (lines.map fun line => ⟨(bytesOf line).toArray⟩) =
        (done.reverse ++ lines, false) := by
    intro done lines
    induction lines generalizing done with
    | nil => rw [List.map_nil, readLines.go, List.append_nil]
    | cons line lines ih =>
        rw [List.map_cons, readLines.go, fromUTF8?_bytesOf]
        simp [ih]
  rw [readLines, linesOfBytes_toUTF8, hgo]
  rfl

/-- The output for some lines is their answers, each with a prompt behind it. -/
theorem join_lineEvents (s : Session) (lines : List (List Char)) :
    String.join ((lines.flatMap s.lineEvents).map Event.text) =
      String.join (lines.map fun line => String.join (s.answer line) ++ prompt) := by
  induction lines with
  | nil => rfl
  | cons line lines ih =>
      have hanswer : ((s.answer line).map Event.write).map Event.text = s.answer line := by
        rw [List.map_map]
        exact List.map_id _
      rw [List.flatMap_cons, List.map_append, String.join_append, ih, List.map_cons,
        String.join_cons, lineEvents, List.map_append, String.join_append, hanswer]
      rfl

/-- **What a session shows of a text**, on a sink that never fails. -/
theorem run_unlimited (s : Session) (source : String) :
    (s.run source.toUTF8 {}).failure = none ∧
      (s.run source.toUTF8 {}).bytes =
        (prompt ++ String.join ((linesOfText source).map fun line =>
          String.join (s.answer line) ++ prompt) ++ "\n").toUTF8 := by
  have hevents : s.events source.toUTF8 =
      (promptEvents ++ (linesOfText source).flatMap s.lineEvents ++ closingEvents, none) := by
    rw [events, readLines_toUTF8]
    rfl
  have htexts : String.join ((promptEvents ++ (linesOfText source).flatMap s.lineEvents ++
      closingEvents).map Event.text) =
        prompt ++ String.join ((linesOfText source).map fun line =>
          String.join (s.answer line) ++ prompt) ++ "\n" := by
    rw [List.map_append, List.map_append, String.join_append, String.join_append, join_lineEvents]
    rfl
  rw [run, hevents, Sink.run, Sink.runFrom_unlimited, htexts]
  exact ⟨rfl, ByteArray.empty_append⟩

/-- The answer to a line shows its tokens, wherever the line stands. -/
theorem tokenAnswer_eq (s : Session) (line : List Char) (l : Location) :
    s.tokenAnswer line = (tokensAt l line).map s.tokenLine := by
  have hplace : ∀ t : Token, s.tokenLine (t.lexeme.tokenAt .start) = s.tokenLine t := by
    intro t
    simp [tokenLine, Token.displayAs, Token.lexeme, Lexeme.tokenAt]
  have hlexeme := congrArg (List.map fun x => s.tokenLine (Lexeme.tokenAt x .start))
    (map_lexeme_tokensAt .start l line)
  simp only [List.map_map, Function.comp_def, hplace] at hlexeme
  rw [tokenAnswer, filter_readAll, hlexeme]

end Session

/-- Tokens, one a line. -/
def echo (tokens : List Token) : String := String.join (tokens.map fun t => t.display ++ "\n")

theorem join_map_echo (groups : List (List Token)) :
    String.join (groups.map echo) = echo groups.flatten := by
  induction groups with
  | nil => rfl
  | cons group groups ih =>
      rw [List.map_cons, String.join_cons, ih, List.flatten_cons, echo, echo, echo,
        List.map_append, String.join_append]

namespace Session

/-- The answer to a line that does not ask for a program. -/
theorem join_answer {line : List Char} (h : ¬ programCommand <+: dropBlanks line) (l : Location) :
    String.join (answer ⟨false⟩ line) = echo (tokensAt l line) := by
  have hplain : programCommand.isPrefixOf? (dropBlanks line) = none := by
    refine Option.eq_none_iff_forall_ne_some.2 ?_
    intro rest hrest
    exact h ⟨rest, List.append_eq_of_isPrefixOf?_eq_some hrest⟩
  rw [answer, hplain]
  exact congrArg String.join (tokenAnswer_eq ⟨false⟩ line l)

/-- **The answers are the tokens of the whole text.**  If no line asks for a program, the output is
a prompt, then the tokens of each line with a prompt behind them, then the end of a line. -/
theorem run_eq_echo {source : String}
    (h : ∀ line ∈ linesOfText source, ¬ programCommand <+: dropBlanks line) :
    ∃ groups : List (List Token),
      groups.length = (linesOfText source).length ∧
      (∀ k, ∀ group ∈ groups[k]?, ∀ t ∈ group, t.location.line = k + 1) ∧
      groups.flatten = (tokenize source).filter (fun t => t.kind ≠ .eof) ∧
      (run ⟨false⟩ source.toUTF8 {}).failure = none ∧
      (run ⟨false⟩ source.toUTF8 {}).bytes =
        (prompt ++ String.join (groups.map fun group => echo group ++ prompt) ++ "\n").toUTF8 ∧
      String.join (groups.map echo) = echo ((tokenize source).filter (fun t => t.kind ≠ .eof)) := by
  have hlined := lined_linesOfText source
  refine ⟨((linesOfText source).zipIdx 1).map fun p => tokensAt ⟨p.2, 1⟩ p.1, ?_⟩
  have hflatten : (((linesOfText source).zipIdx 1).map fun p => tokensAt ⟨p.2, 1⟩ p.1).flatten =
      (tokenize source).filter (fun t => t.kind ≠ .eof) := by
    rw [filter_tokenize, ← List.flatMap_def]
    exact (hlined.tokensAt_eq 1).symm
  refine ⟨?_, ?_, hflatten, (run_unlimited _ source).1, ?_, ?_⟩
  · rw [List.length_map, List.length_zipIdx]
  · intro k group hgroup t ht
    rw [List.getElem?_map, List.getElem?_zipIdx, Option.map_map] at hgroup
    obtain ⟨line, hline, rfl⟩ := Option.map_eq_some_iff.1 hgroup
    have hfeed := hlined.not_mem line (List.mem_of_getElem? hline)
    rw [line_of_mem_tokensAt hfeed ht, Nat.add_comm]
  · have hanswers :
        ((linesOfText source).map fun line => String.join (answer ⟨false⟩ line) ++ prompt) =
          ((linesOfText source).zipIdx 1).map fun p => echo (tokensAt ⟨p.2, 1⟩ p.1) ++ prompt := by
      conv => lhs; rw [← List.zipIdx_map_fst 1 (linesOfText source), List.map_map]
      refine List.map_congr_left ?_
      intro p hp
      exact congrArg (· ++ prompt) (join_answer (h p.1 (List.fst_mem_of_mem_zipIdx hp)) _)
    rw [(run_unlimited _ source).2, hanswers, List.map_map]
    rfl
  · rw [join_map_echo, hflatten]

/-- A return mark belongs to the ending of its line, and the last line needs no ending. -/
theorem run_two_lines :
    ∃ groups : List (List Token),
      groups.length = 2 ∧
      (run ⟨false⟩ "let a\r\n:as".toUTF8 {}).bytes =
        (prompt ++ String.join (groups.map fun group => echo group ++ prompt) ++ "\n").toUTF8 ∧
      String.join (groups.map echo) =
        echo ((tokenize "let a\r\n:as").filter (fun t => t.kind ≠ .eof)) := by
  have hlines : ∀ line ∈ linesOfText "let a\r\n:as", ¬ programCommand <+: dropBlanks line := by
    intro line hline
    rw [show linesOfText "let a\r\n:as" = ["let a".toList, ":as".toList] by decide] at hline
    simp only [List.mem_cons, List.not_mem_nil, or_false] at hline
    rcases hline with rfl | rfl <;> decide
  obtain ⟨groups, hlength, -, -, -, hbytes, hecho⟩ := run_eq_echo hlines
  exact ⟨groups, hlength, hbytes, hecho⟩

end Session

end LetInspector
