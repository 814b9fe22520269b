/-
**Places do not matter.**

A token keeps the place where it was read, and what is made of the token keeps it too.  Nothing is
decided by a place.  So when the places of some tokens are changed in any way, the program in them
has its places changed the same way, and is otherwise what it was.  In particular the program in a
text that is moved behind another one is moved with it, and the program in a list of tokens is
determined, up to its places, by the kinds and the characters of the tokens.

Main definitions:

* `LetInspector.LetStatement.relocate`, `LetInspector.Diagnostic.relocate`,
  `LetInspector.Outcome.relocate` — what was found, with other places;
* `LetInspector.LetStatement.shift`, `LetInspector.Diagnostic.shift`,
  `LetInspector.Outcome.shift` — the same for the places of a text that is moved behind another
  place.

Main results:

* `LetInspector.Outcome.ofTokens_map_relocate` — **the program in relocated tokens is the relocated
  program**;
* `LetInspector.Outcome.ofTokens_map_shift` — moving a text moves what is found in it;
* `LetInspector.Outcome.relocate_ofTokens_of_map_lexeme` — tokens with the same lexemes hold the
  same program, up to places.
-/

import LetInspector.Proofs.Place
import LetInspector.Proofs.TokenScan

set_option autoImplicit false

namespace LetInspector

/-! ### Other places -/

/-- The name `x` with its token at another place. -/
def Identifier.relocate (f : Location → Location) (x : Identifier) : Identifier :=
  { x with token := x.token.relocate f }

/-- The statement `s` with its tokens at other places. -/
def LetStatement.relocate (f : Location → Location) (s : LetStatement) : LetStatement :=
  ⟨s.token.relocate f, s.name.relocate f, s.value.map (.relocate f)⟩

/-- The diagnostic `d` at another place. -/
def Diagnostic.relocate (f : Location → Location) (d : Diagnostic) : Diagnostic :=
  { d with location := f d.location }

/-- An outcome with its statements and diagnostics at other places. -/
def Outcome.relocate (f : Location → Location) (o : Outcome) : Outcome :=
  ⟨⟨o.program.statements.map (.relocate f)⟩, o.diagnostics.map (.relocate f)⟩

/-! ### The places of a text that is moved -/

section Shift

variable (base : Location)

/-- The statement that `s` becomes when its text is moved from the start to `base`. -/
def LetStatement.shift : LetStatement → LetStatement := relocate base.shift

/-- The diagnostic that `d` becomes when its text is moved from the start to `base`. -/
def Diagnostic.shift : Diagnostic → Diagnostic := relocate base.shift

/-- An outcome of a text that is moved from the start to `base`. -/
def Outcome.shift : Outcome → Outcome := relocate base.shift

end Shift

/-! ### The program at other places -/

@[simp] theorem Token.kind_relocate (f : Location → Location) (t : Token) :
    (t.relocate f).kind = t.kind := rfl

/-- With all places the same, a token is no more than its lexeme. -/
theorem Token.relocate_const (l : Location) (t : Token) :
    t.relocate (fun _ => l) = t.lexeme.tokenAt l := by
  simp [relocate, lexeme, Lexeme.tokenAt]

theorem afterSemicolon_map_relocate (f : Location → Location) (tokens : List Token) :
    afterSemicolon (tokens.map (.relocate f)) = (afterSemicolon tokens).map (.relocate f) := by
  induction tokens with
  | nil => rfl
  | cons t rest ih =>
      simp only [List.map_cons, afterSemicolon, Token.kind_relocate, ih]
      split
      · rfl
      · split <;> rfl

namespace Outcome

/-- **The program in relocated tokens is the relocated program.** -/
theorem ofTokens_map_relocate (f : Location → Location) (tokens : List Token) :
    ofTokens (tokens.map (.relocate f)) = (ofTokens tokens).relocate f := by
  induction tokens using ofTokens.induct with
  | case1 => simp [empty, relocate]
  | case2 t rest heof =>
      rw [List.map_cons, ofTokens_eof heof, ofTokens_eof (by exact heof)]
      rfl
  | case3 t heof hlet =>
      rw [ofTokens_let hlet, List.map_singleton, ofTokens_let (by exact hlet)]
      rfl
  | case4 t heof hlet x hx =>
      rw [ofTokens_let_name hlet hx, List.map_cons, List.map_singleton,
        ofTokens_let_name (by exact hlet) (by exact hx)]
      rfl
  | case5 t heof hlet x hx y rest hy ih =>
      rw [List.map_cons, List.map_cons, List.map_cons, ofTokens_statement hlet hx hy,
        ofTokens_statement (by exact hlet) (by exact hx) (by exact hy),
        afterSemicolon_map_relocate, ih]
      rfl
  | case6 t heof hlet x hx y rest hy ih =>
      rw [List.map_cons, List.map_cons, ofTokens_unassigned hlet hx hy, List.map_cons,
        ofTokens_unassigned (by exact hlet) (by exact hx) (by exact hy), ← List.map_cons, ih]
      rfl
  | case7 t heof hlet x rest hx ih =>
      rw [List.map_cons, List.map_cons, ofTokens_nameless hlet hx,
        ofTokens_nameless (by exact hlet) (by exact hx), ← List.map_cons, ih]
      rfl
  | case8 t rest heof hlet ih =>
      rw [List.map_cons, ofTokens_other heof hlet, ofTokens_other (by exact heof) (by exact hlet),
        ih]

/-- Moving a text moves what is found in it, and nothing else changes. -/
theorem ofTokens_map_shift (base : Location) (tokens : List Token) :
    ofTokens (tokens.map (.shift base)) = (ofTokens tokens).shift base :=
  ofTokens_map_relocate base.shift tokens

/-- **Tokens with the same lexemes hold the same program**, up to places. -/
theorem relocate_ofTokens_of_map_lexeme {ts us : List Token}
    (h : ts.map Token.lexeme = us.map Token.lexeme) (l : Location) :
    (ofTokens ts).relocate (fun _ => l) = (ofTokens us).relocate (fun _ => l) := by
  have hconst : ∀ ts : List Token, ts.map (.relocate fun _ => l) =
      (ts.map Token.lexeme).map fun x => x.tokenAt l := by
    intro ts
    rw [List.map_map]
    exact List.map_congr_left fun t _ => t.relocate_const l
  rw [← ofTokens_map_relocate, ← ofTokens_map_relocate, hconst, hconst, h]

end Outcome

end LetInspector
