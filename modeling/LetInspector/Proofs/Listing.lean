/-
**The token list can be read back.**

The list of the tokens of a file shows each literal as it stands in the file, between a colon and a
closing bracket, although a literal may be a bracket or a colon itself.  Still nothing is lost.  No
literal holds a line feed, so every token has a line of its own; and in a line, all that stands in
front of the literal is written with characters that cannot occur in it before the mark that ends
it: digits end at a colon or a tab, and the name of a kind at a blank.

Main definitions:

* `LetInspector.Command.rowText` — the line of a token, without its end;
* `LetInspector.decodeRow`, `LetInspector.decodeListing` — a token from its line, and tokens from
  their list.

Main results:

* `LetInspector.Command.decodeRow_rowText` — a line can be read back;
* `LetInspector.Command.decodeListing_join` — so can a list of lines;
* `LetInspector.Command.listing_faithful` — **the token list of a file can be read back**.
-/

import LetInspector.Command
import LetInspector.Proofs.Lines
import Mathlib.Data.List.Infix

set_option autoImplicit false

namespace LetInspector

/-! ### Reading a line back -/

/-- What stands in front of the first `c` of a text, and what stands behind it. -/
def cutAt? (c : Char) (cs : List Char) : Option (List Char × List Char) :=
  match cs.dropWhile (· ≠ c) with
  | [] => none
  | _ :: rest => some (cs.takeWhile (· ≠ c), rest)

/-- The number that some digits stand for. -/
def numberOf (digits : List Char) : Nat := Nat.ofDigitChars 10 digits 0

/-- The kind with a given name. -/
def Kind.ofName? (name : List Char) : Option Kind := Kind.all.find? fun k => k.name.toList = name

/-- The token that a line of a token list shows. -/
def decodeRow (row : List Char) : Option Token := do
  let (line, row) ← cutAt? ':' row
  let (column, row) ← cutAt? '\t' row
  let row ← "\x7bType:".toList.isPrefixOf? row
  let (name, row) ← cutAt? ' ' row
  let row ← "Literal:".toList.isPrefixOf? row
  let kind ← Kind.ofName? name
  return ⟨kind, String.ofList row.dropLast, ⟨numberOf line, numberOf column⟩⟩

/-- The tokens that a token list shows. -/
def decodeListing (listing : String) : Option (List Token) := (linesOfText listing).mapM decodeRow

theorem cutAt?_append {c : Char} {front : List Char} (h : c ∉ front) (rest : List Char) :
    cutAt? c (front ++ c :: rest) = some (front, rest) := by
  have hfront : ∀ d ∈ front, decide (d ≠ c) = true := by
    intro d hd
    simpa using fun hdc : d = c => h (hdc ▸ hd)
  have hend : ∀ d ∈ (c :: rest).head?, decide (d ≠ c) = false := by
    intro d hd
    obtain rfl : c = d := by simpa using hd
    simp
  obtain ⟨htake, hdrop⟩ := takeWhile_append_of_head? hfront hend
  rw [cutAt?, hdrop, htake]

theorem isPrefixOf?_append_self (front rest : List Char) :
    front.isPrefixOf? (front ++ rest) = some rest :=
  List.isPrefixOf?_eq_some_iff_append_eq.2 rfl

theorem numberOf_toString (n : Nat) : numberOf (toString n).toList = n := by
  rw [numberOf, Nat.toString_eq_repr, Nat.toList_repr, Nat.ofDigitChars_ten_toDigits]

/-- A character that is no digit does not occur in a number. -/
theorem not_mem_toString {c : Char} (h : c.isDigit = false) (n : Nat) :
    c ∉ (toString n).toList := by
  intro hc
  rw [isDigit_of_mem_toString hc] at h
  cases h

theorem Kind.ofName?_name (k : Kind) : Kind.ofName? k.name.toList = some k := by
  cases k <;> decide

/-- The names of kinds hold no gap character. -/
theorem Kind.isGap_eq_false_of_mem_name {k : Kind} {c : Char} (hc : c ∈ k.name.toList) :
    isGap c = false := by
  have hall : k.name.toList.all (fun c => !isGap c) = true := by cases k <;> rfl
  simpa using List.all_eq_true.1 hall c hc

namespace Command

/-- The line of the token list that shows `t`, without its end. -/
def rowText (t : Token) : List Char :=
  (toString t.location.line).toList ++ ':' :: ((toString t.location.column).toList ++
    '\t' :: ("\x7bType:".toList ++ (t.kind.name.toList ++
      ' ' :: ("Literal:".toList ++ (t.literal.toList ++ ['\x7d'])))))

theorem toList_tokenRow (t : Token) : (tokenRow t).toList = rowText t ++ ['\n'] := by
  change (toString t.location.line ++ ":" ++ toString t.location.column ++ "\t" ++
    t.display ++ "\n").toList = _
  simp [Token.display, Token.displayAs, rowText]

/-- **A line can be read back.** -/
theorem decodeRow_rowText (t : Token) : decodeRow (rowText t) = some t := by
  have hline := cutAt?_append (not_mem_toString (c := ':') (by decide) t.location.line)
  have hcolumn := cutAt?_append (not_mem_toString (c := '\t') (by decide) t.location.column)
  have hname : ' ' ∉ t.kind.name.toList := fun h =>
    absurd (Kind.isGap_eq_false_of_mem_name h) (by decide)
  have hkind := cutAt?_append hname
  simp only [decodeRow, rowText, hline, hcolumn, isPrefixOf?_append_self, hkind,
    Kind.ofName?_name, List.dropLast_concat, String.ofList_toList, numberOf_toString,
    Option.bind_eq_bind, Option.bind_some, Option.pure_def]

/-! ### Reading a list back -/

/-- A literal without line feeds gives a line without line feeds. -/
theorem not_mem_rowText {t : Token} (h : '\n' ∉ t.literal.toList) : '\n' ∉ rowText t := by
  have hname : '\n' ∉ t.kind.name.toList := fun h =>
    absurd (Kind.isGap_eq_false_of_mem_name h) (by decide)
  have hline := not_mem_toString (c := '\n') (by decide) t.location.line
  have hcolumn := not_mem_toString (c := '\n') (by decide) t.location.column
  simp only [rowText, List.mem_append, List.mem_cons, h, hname, hline, hcolumn, false_or]
  decide

theorem getLast?_rowText (t : Token) : (rowText t).getLast? = some '\x7d' := by
  simp only [rowText, List.getLast?_append, List.getLast?_cons, List.getLast?_nil, Option.some_or,
    Option.getD_some, Option.getD_none]

/-- The lines of a list are those of its tokens. -/
theorem lined_join {ts : List Token} (h : ∀ t ∈ ts, '\n' ∉ t.literal.toList) :
    Lined '\n' '\r' (String.join (ts.map tokenRow)).toList (ts.map rowText) := by
  induction ts with
  | nil => exact .nil
  | cons t ts ih =>
      have hfeed : '\n' ∉ rowText t := not_mem_rowText (h t (List.mem_cons_self ..))
      have hret : (rowText t).getLast? ≠ some '\r' := by
        rw [getLast?_rowText]
        decide
      rw [List.map_cons, List.map_cons, String.join_cons, String.toList_append, toList_tokenRow,
        List.append_assoc]
      exact .ended hfeed hret (ih fun u hu => h u (List.mem_cons_of_mem t hu))

/-- **A list of lines can be read back.** -/
theorem decodeListing_join {ts : List Token} (h : ∀ t ∈ ts, '\n' ∉ t.literal.toList) :
    decodeListing (String.join (ts.map tokenRow)) = some ts := by
  have hdecode : decodeRow ∘ rowText = fun t => pure t := funext decodeRow_rowText
  rw [decodeListing, linesOfText, (lined_join h).splitLines_eq (by decide), List.mapM_map, hdecode,
    List.mapM_pure, List.map_id']
  rfl

/-! ### The token list of a file -/

/-- A file that can be read as a text is listed as that text. -/
theorem runArgs_listTokens {files : String → FileState} {path : String} {content : ByteArray}
    {s : String} (hfile : files path = .bytes content) (htext : String.fromUTF8? content = some s)
    (input : ByteArray) :
    runArgs files input ["--tokens", path] = .done { out := tokenListing s } := by
  have hargs : ofArgs? ["--tokens", path] = some (.listTokens path) := rfl
  simp only [runArgs, hargs, run, readSource, hfile, htext]

/-- A file with the text `s` has one line for each token, and its list can be read back. -/
theorem tokenListing_spec (s : String) :
    (∃ rows : List (List Char), (tokenListing s).toList = rows.flatMap (· ++ ['\n']) ∧
      (∀ row ∈ rows, '\n' ∉ row) ∧ rows.length = (tokenize s).length) ∧
      decodeListing (tokenListing s) = some (tokenize s) := by
  have hliteral : ∀ t ∈ tokenize s, '\n' ∉ t.literal.toList := fun t ht hfeed =>
    absurd (Tiling.isGap_eq_false_of_mem_tokenize ht hfeed) (by decide)
  refine ⟨⟨(tokenize s).map rowText, ?_, ?_, List.length_map _⟩, decodeListing_join hliteral⟩
  · rw [tokenListing, String.toList_join, List.flatMap_map, List.flatMap_map]
    exact List.flatMap_congr fun t _ => toList_tokenRow t
  · intro row hrow
    obtain ⟨t, ht, rfl⟩ := List.mem_map.1 hrow
    exact not_mem_rowText (hliteral t ht)

/-- **The token list of a file can be read back.**  It has one line for each token, the end token
included, and from these lines the tokens can be recovered with their kinds, literals and places.
So two files have the same list exactly if they have the same tokens. -/
theorem listing_faithful {files : String → FileState} {path path' : String}
    {content content' : ByteArray} {s s' : String}
    (hfile : files path = .bytes content) (htext : String.fromUTF8? content = some s)
    (hfile' : files path' = .bytes content') (htext' : String.fromUTF8? content' = some s')
    (input : ByteArray) :
    ∃ out out' : String,
      runArgs files input ["--tokens", path] = .done { out := out } ∧
      runArgs files input ["--tokens", path'] = .done { out := out' } ∧
      (∃ rows : List (List Char), out.toList = rows.flatMap (· ++ ['\n']) ∧
        (∀ row ∈ rows, '\n' ∉ row) ∧ rows.length = (tokenize s).length) ∧
      decodeListing out = some (tokenize s) ∧
      (out = out' ↔ tokenize s = tokenize s') := by
  obtain ⟨hrows, hdecode⟩ := tokenListing_spec s
  refine ⟨tokenListing s, tokenListing s', runArgs_listTokens hfile htext input,
    runArgs_listTokens hfile' htext' input, hrows, hdecode, ?_⟩
  constructor
  · intro heq
    have hdecode' := (tokenListing_spec s').2
    rw [← heq, hdecode] at hdecode'
    exact Option.some.inj hdecode'
  · intro heq
    rw [tokenListing, tokenListing, heq]

/-- Two files with a bracket and a colon, between which one has a blank and the other a tab, have
the same list. -/
theorem listing_faithful_blank_or_tab :
    let files : String → FileState := fun path =>
      .bytes (if path = "a" then "\x7d :" else "\x7d\t:").toUTF8
    ∃ out : String,
      runArgs files ⟨#[]⟩ ["--tokens", "a"] = .done { out := out } ∧
      runArgs files ⟨#[]⟩ ["--tokens", "b"] = .done { out := out } ∧
      decodeListing out =
        some [⟨.rbrace, "\x7d", ⟨1, 1⟩⟩, ⟨.illegal, ":", ⟨1, 3⟩⟩, .endAt ⟨1, 4⟩] := by
  intro files
  have htext : ∀ s : String, String.fromUTF8? s.toUTF8 = some s := fun s => dif_pos s.isValidUTF8
  have hfile : files "a" = .bytes "\x7d :".toUTF8 := rfl
  have hfile' : files "b" = .bytes "\x7d\t:".toUTF8 := rfl
  obtain ⟨out, out', hout, hout', -, hdecode, hiff⟩ :=
    listing_faithful hfile (htext _) hfile' (htext _) ⟨#[]⟩
  have htokens : tokenize "\x7d :" =
      [⟨.rbrace, "\x7d", ⟨1, 1⟩⟩, ⟨.illegal, ":", ⟨1, 3⟩⟩, .endAt ⟨1, 4⟩] := by decide +kernel
  have htokens' : tokenize "\x7d\t:" = tokenize "\x7d :" := by decide +kernel
  obtain rfl := hiff.2 htokens'.symm
  exact ⟨out, hout, hout', hdecode.trans (congrArg some htokens)⟩

end Command

end LetInspector
