/-
**Colour only decorates.**

A coloured session shows the names of kinds and the diagnostics between terminal codes, and shows
everything else as an uncoloured session does.  So the uncoloured output is what is left of the
coloured one when the codes are taken out.  The input cannot interfere with that, although it may
hold escape characters: an escape character is a token of its own, which is shown with a closing
bracket behind it, and neither names nor diagnostics have one.  So no code ever begins in the text
that is shown.

Main definitions:

* `LetInspector.IsCode` — the terminal codes for colours;
* `LetInspector.stripCodes` — a text without its codes;
* `LetInspector.Painted` — **a text with codes put in**, where the text itself begins no code.

Main results:

* `LetInspector.afterCode?_eq_some_iff` — taking out finds the codes;
* `LetInspector.Painted.stripCodes_eq`, `LetInspector.Painted.not_infix` — the codes can be taken
  out again, and the text holds no beginning of one;
* `LetInspector.Session.painted_answer` — a coloured answer is the uncoloured one with codes put in;
* `LetInspector.Session.stripCodes_run` — **colour only decorates**.
-/

import LetInspector.Proofs.Display
import LetInspector.Proofs.Echo

set_option autoImplicit false

namespace LetInspector

/-! ### Terminal codes -/

/-- The character that codes begin with. -/
def escape : Char := '\x1b'

/-- Whether the character may be a part of the parameters of a code. -/
def isParameter (c : Char) : Bool := c.isDigit || c = ';'

/-- **The terminal codes for colours**: an escape character and a bracket, then parameters, which
are digits and semicolons, and then an `m`. -/
def IsCode (code : List Char) : Prop :=
  ∃ parameters : List Char, (∀ c ∈ parameters, isParameter c = true) ∧
    code = escape :: '[' :: (parameters ++ ['m'])

/-- What stands behind the code that a text begins with, if it begins with one. -/
def afterCode? : List Char → Option (List Char)
  | e :: '[' :: cs =>
    match cs.dropWhile isParameter with
    | 'm' :: rest => if e = escape then some rest else none
    | _ => none
  | _ => none

theorem afterCode?_append {code : List Char} (h : IsCode code) (rest : List Char) :
    afterCode? (code ++ rest) = some rest := by
  obtain ⟨parameters, hparameters, rfl⟩ := h
  have hend : ∀ d ∈ ('m' :: rest).head?, isParameter d = false := by
    intro d hd
    obtain rfl : 'm' = d := by simpa using hd
    decide
  have hdrop := (takeWhile_append_of_head? hparameters hend).2
  rw [List.cons_append, List.cons_append, List.append_assoc, List.singleton_append, afterCode?,
    hdrop]
  exact if_pos rfl

/-- **Taking out finds the codes.** -/
theorem afterCode?_eq_some_iff {cs rest : List Char} :
    afterCode? cs = some rest ↔ ∃ code, IsCode code ∧ cs = code ++ rest := by
  constructor
  · intro h
    unfold afterCode? at h
    split at h
    · next e cs =>
      split at h
      · next r hdrop =>
        split_ifs at h with he
        obtain rfl := Option.some.inj h
        have hsplit := List.takeWhile_append_dropWhile (p := isParameter) (l := cs)
        rw [hdrop] at hsplit
        refine ⟨escape :: '[' :: (cs.takeWhile isParameter ++ ['m']), ⟨cs.takeWhile isParameter,
          fun c hc => List.mem_takeWhile_imp hc, rfl⟩, ?_⟩
        rw [List.cons_append, List.cons_append, List.append_assoc, List.singleton_append, hsplit,
          he]
      · cases h
    · cases h
  · rintro ⟨code, hcode, rfl⟩
    exact afterCode?_append hcode rest

theorem afterCode?_eq_none {cs : List Char} (h : ¬ [escape, '['] <+: cs) :
    afterCode? cs = none := by
  refine Option.eq_none_iff_forall_ne_some.2 ?_
  intro rest hrest
  obtain ⟨code, ⟨parameters, -, rfl⟩, rfl⟩ := afterCode?_eq_some_iff.1 hrest
  exact h ⟨parameters ++ ['m'] ++ rest, rfl⟩

theorem length_afterCode?_lt {cs rest : List Char} (h : afterCode? cs = some rest) :
    rest.length < cs.length := by
  obtain ⟨code, ⟨parameters, -, rfl⟩, rfl⟩ := afterCode?_eq_some_iff.1 h
  simp only [List.length_append, List.length_cons]
  omega

/-- The text without its codes. -/
def stripCodes : List Char → List Char
  | [] => []
  | c :: cs =>
    match _h : afterCode? (c :: cs) with
    | some rest => stripCodes rest
    | none => c :: stripCodes cs
termination_by cs => cs.length
decreasing_by
  · exact length_afterCode?_lt (by assumption)
  · simp

@[simp] theorem stripCodes_nil : stripCodes [] = [] := by
  rw [stripCodes]

/-- A code in front of a text is taken out. -/
theorem stripCodes_code_append {code : List Char} (h : IsCode code) (rest : List Char) :
    stripCodes (code ++ rest) = stripCodes rest := by
  have hafter := afterCode?_append h rest
  obtain ⟨parameters, -, rfl⟩ := h
  rw [List.cons_append] at hafter ⊢
  rw [stripCodes]
  split
  · next r hr =>
    rw [hr] at hafter
    rw [Option.some.inj hafter]
  · next hnone =>
    rw [hnone] at hafter
    cases hafter

/-- A character that begins no code is kept. -/
theorem stripCodes_cons {c : Char} {cs : List Char} (h : ¬ [escape, '['] <+: c :: cs) :
    stripCodes (c :: cs) = c :: stripCodes cs := by
  have hnone := afterCode?_eq_none h
  rw [stripCodes]
  split
  · next r hr =>
    rw [hr] at hnone
    cases hnone
  · rfl

theorem not_prefix_of_ne {c : Char} (h : c ≠ escape) (cs : List Char) :
    ¬ [escape, '['] <+: c :: cs := by
  rw [List.cons_prefix_cons]
  exact fun hprefix => h hprefix.1.symm

theorem not_prefix_escape {c : Char} (h : c ≠ '[') (cs : List Char) :
    ¬ [escape, '['] <+: escape :: c :: cs := by
  rw [List.cons_prefix_cons, List.cons_prefix_cons]
  exact fun hprefix => h hprefix.2.1.symm

/-! ### Texts with codes put in -/

/-- **A text with codes put in.**  The text itself begins no code: behind each of its escape
characters stands another character than a bracket. -/
inductive Painted : List Char → List Char → Prop
  | nil : Painted [] []
  | plain {c : Char} {painted text : List Char} (hc : c ≠ escape) (rest : Painted painted text) :
      Painted (c :: painted) (c :: text)
  | escaped {c : Char} {painted text : List Char} (hc : c ≠ escape) (hbracket : c ≠ '[')
      (rest : Painted painted text) : Painted (escape :: c :: painted) (escape :: c :: text)
  | code {code painted text : List Char} (hcode : IsCode code) (rest : Painted painted text) :
      Painted (code ++ painted) text

namespace Painted

variable {painted text painted' text' : List Char}

theorem append (h : Painted painted text) (h' : Painted painted' text') :
    Painted (painted ++ painted') (text ++ text') := by
  induction h with
  | nil => exact h'
  | plain hc rest ih => exact .plain hc ih
  | escaped hc hbracket rest ih => exact .escaped hc hbracket ih
  | code hcode rest ih =>
      rw [List.append_assoc]
      exact .code hcode ih

/-- A text without escape characters needs no code. -/
theorem of_not_mem (h : escape ∉ text) : Painted text text := by
  induction text with
  | nil => exact .nil
  | cons c cs ih =>
      have hc : c ≠ escape := fun hc => h (hc ▸ List.mem_cons_self ..)
      exact .plain hc (ih fun hmem => h (List.mem_cons_of_mem c hmem))

/-- **The codes can be taken out again.** -/
theorem stripCodes_eq (h : Painted painted text) : stripCodes painted = text := by
  induction h with
  | nil => exact stripCodes_nil
  | plain hc rest ih => rw [stripCodes_cons (not_prefix_of_ne hc _), ih]
  | escaped hc hbracket rest ih =>
      rw [stripCodes_cons (not_prefix_escape hbracket _),
        stripCodes_cons (not_prefix_of_ne hc _), ih]
  | code hcode rest ih => rw [stripCodes_code_append hcode, ih]

/-- **The text holds no beginning of a code.** -/
theorem not_infix (h : Painted painted text) : ¬ [escape, '['] <:+: text := by
  induction h with
  | nil => simp
  | plain hc rest ih =>
      rw [List.infix_cons_iff, not_or]
      exact ⟨not_prefix_of_ne hc _, ih⟩
  | escaped hc hbracket rest ih =>
      rw [List.infix_cons_iff, List.infix_cons_iff, not_or, not_or]
      exact ⟨not_prefix_escape hbracket _, not_prefix_of_ne hc _, ih⟩
  | code hcode rest ih => exact ih

end Painted

/-! ### What holds no escape character -/

theorem escape_ne_of_isWordChar {c : Char} (h : isWordChar c = true) : c ≠ escape := by
  rintro rfl
  exact absurd h (by decide)

theorem escape_ne_of_isDigit {c : Char} (h : c.isDigit = true) : c ≠ escape := by
  rintro rfl
  exact absurd h (by decide)

theorem Kind.escape_not_mem_name (k : Kind) : escape ∉ k.name.toList := by
  cases k <;> decide

theorem escape_not_mem_toString (n : Nat) : escape ∉ (toString n).toList := by
  intro h
  exact escape_ne_of_isDigit (isDigit_of_mem_toString h) rfl

theorem escape_not_mem_append {s t : String} :
    escape ∉ (s ++ t).toList ↔ escape ∉ s.toList ∧ escape ∉ t.toList := by
  rw [String.toList_append, List.mem_append, not_or]

theorem Location.escape_not_mem_describe (l : Location) : escape ∉ l.describe.toList := by
  change escape ∉ ("line " ++ toString l.line ++ ", column " ++ toString l.column).toList
  simp only [escape_not_mem_append, escape_not_mem_toString, not_false_eq_true, and_true]
  decide

theorem Diagnostic.escape_not_mem_message (d : Diagnostic) : escape ∉ d.message.toList := by
  unfold message
  simp only [escape_not_mem_append, d.expected.escape_not_mem_name, d.found.escape_not_mem_name,
    not_false_eq_true, and_true]
  decide

/-- A lexeme with an escape character in it is no more than that character. -/
theorem Lexeme.Lexical.eq_of_escape_mem {x : Lexeme} (hx : x.Lexical) (h : escape ∈ x.literal) :
    x.literal = [escape] := by
  cases hx with
  | word hne hword => exact absurd rfl (escape_ne_of_isWordChar (hword _ h))
  | numeral hne hdigit => exact absurd rfl (escape_ne_of_isDigit (hdigit _ h))
  | equal => revert h; decide
  | unequal => revert h; decide
  | symbol hsymbol => rw [List.mem_singleton.1 h]
  | stray hgap hword hdigit hsymbol => rw [List.mem_singleton.1 h]

/-- What was read from a text is written without escape characters. -/
theorem Outcome.escape_not_mem_display (source : String) :
    escape ∉ (ofSource source).program.display.toList := by
  rw [display_ofSource, Program.names, List.map_map, String.toList_join, List.flatMap_map,
    List.mem_flatMap]
  rintro ⟨s, hs, hmem⟩
  have hname : escape ∉ s.name.value.toList := fun h =>
    escape_ne_of_isWordChar ((readable_of_mem_ofSource hs).1.name_chars _ h) rfl
  refine absurd hmem ?_
  simp only [Function.comp_apply, escape_not_mem_append, hname, not_false_eq_true, and_true]
  decide

theorem Kind.isParameter_colorCode (k : Kind) :
    ∀ c ∈ k.colorCode.toList, isParameter c = true := by
  have hall : k.colorCode.toList.all isParameter = true := by cases k <;> rfl
  exact List.all_eq_true.1 hall

/-! ### Coloured answers -/

theorem painted_join_map {α : Type} {f g : α → String} {xs : List α}
    (h : ∀ a ∈ xs, Painted (f a).toList (g a).toList) :
    Painted (String.join (xs.map f)).toList (String.join (xs.map g)).toList := by
  induction xs with
  | nil => exact .nil
  | cons a xs ih =>
      rw [List.map_cons, List.map_cons, String.join_cons, String.join_cons, String.toList_append,
        String.toList_append]
      exact (h a (List.mem_cons_self ..)).append (ih fun b hb => h b (List.mem_cons_of_mem a hb))

namespace Session

/-- A text in a colour is the text with two codes put in. -/
theorem painted_paint {code text : String} (hcode : ∀ c ∈ code.toList, isParameter c = true)
    (htext : escape ∉ text.toList) :
    Painted (paint ⟨true⟩ code text).toList (paint ⟨false⟩ code text).toList := by
  have hset : IsCode (escape :: '[' :: (code.toList ++ ['m'])) := ⟨_, hcode, rfl⟩
  have hreset : IsCode (escape :: '[' :: (['3', '9'] ++ ['m'])) :=
    ⟨_, List.all_eq_true.1 rfl, rfl⟩
  have hpainted := Painted.code hset ((Painted.of_not_mem htext).append (.code hreset .nil))
  simpa [paint, escape] using hpainted

/-- The line of a token, in colour. -/
theorem painted_tokenLine {t : Token} (ht : t.lexeme.Lexical) :
    Painted (tokenLine ⟨true⟩ t).toList (tokenLine ⟨false⟩ t).toList := by
  have hname := painted_paint t.kind.isParameter_colorCode t.kind.escape_not_mem_name
  -- an escape character is a literal of its own, and the bracket behind it begins no code
  have hliteral : Painted (t.literal.toList ++ ['\x7d', '\n'])
      (t.literal.toList ++ ['\x7d', '\n']) := by
    by_cases h : escape ∈ t.literal.toList
    · have hlone : t.literal.toList = [escape] := ht.eq_of_escape_mem h
      rw [hlone]
      exact .escaped (by decide) (by decide) (.of_not_mem (by decide))
    · exact .append (.of_not_mem h) (.of_not_mem (by decide))
  have hfront : Painted "\x7bType:".toList "\x7bType:".toList := .of_not_mem (by decide)
  have hmiddle : Painted " Literal:".toList " Literal:".toList := .of_not_mem (by decide)
  have hline := hfront.append (hname.append (hmiddle.append hliteral))
  simpa [tokenLine, Token.displayAs] using hline

/-- The line of a diagnostic, in colour. -/
theorem painted_diagnosticLine (d : Diagnostic) :
    Painted (diagnosticLine ⟨true⟩ d).toList (diagnosticLine ⟨false⟩ d).toList := by
  have hcode : ∀ c ∈ diagnosticCode.toList, isParameter c = true := List.all_eq_true.1 rfl
  have hmessage := painted_paint hcode d.escape_not_mem_message
  have hplace := Painted.of_not_mem d.location.escape_not_mem_describe
  have hmiddle : Painted ": ".toList ": ".toList := .of_not_mem (by decide)
  have hend : Painted "\n".toList "\n".toList := .of_not_mem (by decide)
  have hline := hplace.append (hmiddle.append (hmessage.append hend))
  simpa only [diagnosticLine, String.toList_append, List.append_assoc] using hline

theorem painted_tokenAnswer (line : List Char) :
    Painted (String.join (tokenAnswer ⟨true⟩ line)).toList
      (String.join (tokenAnswer ⟨false⟩ line)).toList := by
  rw [tokenAnswer_eq _ line .start, tokenAnswer_eq _ line .start]
  refine painted_join_map ?_
  intro t ht
  obtain ⟨d, hd⟩ := Tiling.exists_tiles line
  rw [hd.tokensAt_eq] at ht
  exact painted_tokenLine (hd.lexical_of_mem_tokens ht)

theorem painted_programAnswer (source : List Char) :
    Painted (String.join (programAnswer ⟨true⟩ source)).toList
      (String.join (programAnswer ⟨false⟩ source)).toList := by
  have hsource : Outcome.ofCursor ⟨source, .start⟩ = .ofSource (String.ofList source) := by
    rw [Outcome.ofSource, Cursor.ofSource, String.toList_ofList]
  have hdisplay := Painted.of_not_mem (Outcome.escape_not_mem_display (String.ofList source))
  have hend : Painted "\n".toList "\n".toList := .of_not_mem (by decide)
  have hdiagnostics := painted_join_map fun d
    (_ : d ∈ (Outcome.ofSource (String.ofList source)).diagnostics) => painted_diagnosticLine d
  have hanswer := (hdisplay.append hend).append hdiagnostics
  simpa only [programAnswer, hsource, String.join_cons, String.toList_append] using hanswer

/-- **A coloured answer is the uncoloured one with codes put in.** -/
theorem painted_answer (line : List Char) :
    Painted (String.join (answer ⟨true⟩ line)).toList
      (String.join (answer ⟨false⟩ line)).toList := by
  rw [answer, answer]
  cases programCommand.isPrefixOf? (dropBlanks line) with
  | none => exact painted_tokenAnswer line
  | some source => exact painted_programAnswer source

/-- **Colour only decorates.**  What a coloured session shows of a text is, without its codes, what
an uncoloured session shows of it; and that holds no beginning of a code, whatever the text is. -/
theorem stripCodes_run (source : String) :
    ∃ colored plain : String,
      (run ⟨true⟩ source.toUTF8 {}).failure = none ∧
      (run ⟨true⟩ source.toUTF8 {}).bytes = colored.toUTF8 ∧
      (run ⟨false⟩ source.toUTF8 {}).failure = none ∧
      (run ⟨false⟩ source.toUTF8 {}).bytes = plain.toUTF8 ∧
      stripCodes colored.toList = plain.toList ∧ ¬ [escape, '['] <:+: plain.toList := by
  have hprompt : Painted prompt.toList prompt.toList := .of_not_mem (by decide)
  have hend : Painted "\n".toList "\n".toList := .of_not_mem (by decide)
  have hlines : Painted
      (String.join ((linesOfText source).map fun line =>
        String.join (answer ⟨true⟩ line) ++ prompt)).toList
      (String.join ((linesOfText source).map fun line =>
        String.join (answer ⟨false⟩ line) ++ prompt)).toList := by
    refine painted_join_map ?_
    intro line _
    rw [String.toList_append, String.toList_append]
    exact (painted_answer line).append hprompt
  have hall := (hprompt.append hlines).append hend
  rw [← String.toList_append, ← String.toList_append, ← String.toList_append,
    ← String.toList_append] at hall
  obtain ⟨hcolored, hbytes⟩ := run_unlimited ⟨true⟩ source
  obtain ⟨hplain, hbytes'⟩ := run_unlimited ⟨false⟩ source
  exact ⟨_, _, hcolored, hbytes, hplain, hbytes', hall.stripCodes_eq, hall.not_infix⟩

end Session

end LetInspector
