/-
**The grammar of programs.**

A text is accepted when reading it gives no diagnostic.  This module says without reading which
texts these are.  The kinds of their tokens are words of the language

`( N | let name = V* ; )* ( let name = V* )?`,

where `N` is any kind but that of `let`, and `V` is any kind but that of the semicolon.  A value may
hold a `let`, and the last value need not be ended.  A derivation shows how a list of tokens is put
together by these rules; there is at most one, and its groups are the statements of the program.

Main definitions:

* `LetInspector.Grammar.language` — the language;
* `LetInspector.Grammar.Group`, `LetInspector.Grammar.Phrase`, `LetInspector.Grammar.Derivation` —
  tokens put together by the rules.

Main results:

* `LetInspector.Grammar.map_kind_mem_language_iff` — the words of the language are the lists of
  tokens with a derivation;
* `LetInspector.Grammar.Derivation.tokens_injective` — **derivations are unique**;
* `LetInspector.Outcome.ofTokens_derivation`, `LetInspector.Outcome.exists_derivation` — what has a
  derivation is read without a diagnostic, and the other way round;
* `LetInspector.Outcome.isClean_iff_mem_language` — **the accepted texts**, and what checking a file
  replies.
-/

import LetInspector.Command
import LetInspector.Proofs.Semicolon
import Mathlib.Computability.Language

set_option autoImplicit false

namespace LetInspector

namespace Grammar

open scoped Computability

/-! ### The language -/

/-- The words of one kind with the property `p`. -/
def one (p : Kind → Prop) : Language Kind := {w | ∃ k, p k ∧ w = [k]}

/-- The start of a statement. -/
def opening : Language Kind := {[.letWord, .ident, .assign]}

/-- What may stand for a value. -/
def value : Language Kind := (one (· ≠ .semicolon))∗

/-- **The language of programs.** -/
def language : Language Kind :=
  (one (· ≠ .letWord) + opening * value * {[.semicolon]})∗ * (opening * value + 1)

/-! ### Derivations -/

/-- A `let` with a name, the sign `=` and a value. -/
structure Group where
  word : Token
  name : Token
  sign : Token
  value : List Token
  word_kind : word.kind = .letWord
  name_kind : name.kind = .ident
  sign_kind : sign.kind = .assign
  value_kind : ∀ t ∈ value, t.kind ≠ .semicolon

/-- A token that opens no statement, or a group with the semicolon behind it. -/
inductive Phrase where
  | other (t : Token) (h : t.kind ≠ .letWord)
  | statement (g : Group) (stop : Token) (h : stop.kind = .semicolon)

/-- Phrases and, at the end, possibly a group without a semicolon. -/
structure Derivation where
  phrases : List Phrase
  last : Option Group

def Group.tokens (g : Group) : List Token := g.word :: g.name :: g.sign :: g.value

/-- The statement that a group makes. -/
def Group.toStatement (g : Group) : LetStatement := ⟨g.word, .ofToken g.name, none⟩

def Phrase.tokens : Phrase → List Token
  | other t _ => [t]
  | statement g stop _ => g.tokens ++ [stop]

def Phrase.group? : Phrase → Option Group
  | other _ _ => none
  | statement g _ _ => some g

/-- The tokens that a derivation puts together. -/
def Derivation.tokens (d : Derivation) : List Token :=
  d.phrases.flatMap Phrase.tokens ++ d.last.toList.flatMap Group.tokens

/-- The groups of a derivation, in order. -/
def Derivation.groups (d : Derivation) : List Group :=
  d.phrases.filterMap Phrase.group? ++ d.last.toList

/-! ### The words of the language are the lists of tokens with a derivation -/

/-- Whether the language `L` consists of the kinds of the lists of tokens that `f` gives. -/
def Spells {α : Type} (f : α → List Token) (L : Language Kind) : Prop :=
  ∀ ts : List Token, ts.map Token.kind ∈ L ↔ ∃ a, f a = ts

theorem Spells.mul {α β : Type} {f : α → List Token} {g : β → List Token} {L M : Language Kind}
    (hf : Spells f L) (hg : Spells g M) :
    Spells (fun p : α × β => f p.1 ++ g p.2) (L * M) := by
  intro ts
  constructor
  · intro h
    obtain ⟨v, hv, w, hw, hvw⟩ := Language.mem_mul.1 h
    obtain ⟨us, vs, rfl, rfl, rfl⟩ := List.map_eq_append_iff.1 hvw.symm
    obtain ⟨a, rfl⟩ := (hf us).1 hv
    obtain ⟨b, rfl⟩ := (hg vs).1 hw
    exact ⟨(a, b), rfl⟩
  · rintro ⟨⟨a, b⟩, rfl⟩
    rw [List.map_append]
    exact Language.append_mem_mul ((hf _).2 ⟨a, rfl⟩) ((hg _).2 ⟨b, rfl⟩)

theorem Spells.kstar {α : Type} {f : α → List Token} {L : Language Kind} (hf : Spells f L) :
    Spells (fun as : List α => as.flatMap f) L∗ := by
  intro ts
  constructor
  · intro h
    obtain ⟨ws, hws, hmem⟩ := Language.mem_kstar.1 h
    induction ws generalizing ts with
    | nil => exact ⟨[], (List.map_eq_nil_iff.1 hws).symm⟩
    | cons w ws ih =>
        obtain ⟨us, vs, rfl, rfl, hvs⟩ := List.map_eq_append_iff.1 hws
        obtain ⟨a, rfl⟩ := (hf us).1 (hmem _ (List.mem_cons_self ..))
        obtain ⟨as, rfl⟩ := ih vs (hvs ▸ Language.join_mem_kstar fun y hy =>
          hmem y (List.mem_cons_of_mem _ hy)) hvs fun y hy => hmem y (List.mem_cons_of_mem _ hy)
        exact ⟨a :: as, rfl⟩
  · rintro ⟨as, rfl⟩
    refine Language.mem_kstar.2 ⟨as.map fun a => (f a).map Token.kind, ?_, ?_⟩
    · rw [List.map_flatMap, List.flatMap_def]
    · intro w hw
      obtain ⟨a, -, rfl⟩ := List.mem_map.1 hw
      exact (hf _).2 ⟨a, rfl⟩

/-- The words made of kinds with a property. -/
theorem mem_kstar_one_iff {p : Kind → Prop} {w : List Kind} : w ∈ (one p)∗ ↔ ∀ k ∈ w, p k := by
  constructor
  · intro h k hk
    obtain ⟨ws, rfl, hmem⟩ := Language.mem_kstar.1 h
    obtain ⟨v, hv, hkv⟩ := List.mem_flatten.1 hk
    obtain ⟨j, hj, rfl⟩ := hmem v hv
    rw [List.mem_singleton.1 hkv]
    exact hj
  · intro h
    refine Language.mem_kstar.2 ⟨w.map ([·]), ?_, ?_⟩
    · rw [← List.flatMap_def, List.flatMap_singleton']
    · intro v hv
      obtain ⟨k, hk, rfl⟩ := List.mem_map.1 hv
      exact ⟨k, h k hk, rfl⟩

theorem spells_group : Spells Group.tokens (opening * value) := by
  intro ts
  constructor
  · intro h
    obtain ⟨v, rfl, w, hw, hts⟩ := Language.mem_mul.1 h
    obtain ⟨t, us, rfl, ht, hus⟩ := List.map_eq_cons_iff.1 hts.symm
    obtain ⟨x, vs, rfl, hx, hvs⟩ := List.map_eq_cons_iff.1 hus
    obtain ⟨y, value, rfl, hy, rfl⟩ := List.map_eq_cons_iff.1 hvs
    have hvalue : ∀ u ∈ value, u.kind ≠ .semicolon := fun u hu =>
      mem_kstar_one_iff.1 hw _ (List.mem_map_of_mem hu)
    exact ⟨⟨t, x, y, value, ht, hx, hy, hvalue⟩, rfl⟩
  · rintro ⟨g, rfl⟩
    have hvalue : g.value.map Token.kind ∈ value := mem_kstar_one_iff.2 fun k hk => by
      obtain ⟨t, ht, rfl⟩ := List.mem_map.1 hk
      exact g.value_kind t ht
    have hword : [g.word.kind, g.name.kind, g.sign.kind] = [.letWord, .ident, .assign] := by
      rw [g.word_kind, g.name_kind, g.sign_kind]
    exact Language.append_mem_mul (show _ ∈ opening from hword) hvalue

theorem spells_phrase :
    Spells Phrase.tokens (one (· ≠ .letWord) + opening * value * {[.semicolon]}) := by
  intro ts
  rw [Language.mem_add]
  constructor
  · rintro (⟨k, hk, hts⟩ | h)
    · obtain ⟨t, rfl, rfl⟩ := List.map_eq_singleton_iff.1 hts
      exact ⟨.other t hk, rfl⟩
    · obtain ⟨v, hv, w, hw, hvw⟩ := Language.mem_mul.1 h
      obtain ⟨us, vs, rfl, rfl, rfl⟩ := List.map_eq_append_iff.1 hvw.symm
      obtain ⟨g, rfl⟩ := (spells_group us).1 hv
      obtain ⟨t, rfl, ht⟩ := List.map_eq_singleton_iff.1 hw
      exact ⟨.statement g t ht, rfl⟩
  · rintro ⟨p, rfl⟩
    cases p with
    | other t h => exact Or.inl ⟨t.kind, h, rfl⟩
    | statement g stop h =>
        refine Or.inr ?_
        rw [Phrase.tokens, List.map_append]
        refine Language.append_mem_mul ((spells_group _).2 ⟨g, rfl⟩) ?_
        exact congrArg ([·]) h

theorem spells_last :
    Spells (fun o : Option Group => o.toList.flatMap Group.tokens) (opening * value + 1) := by
  intro ts
  rw [Language.mem_add, spells_group ts, Language.mem_one, List.map_eq_nil_iff]
  constructor
  · rintro (⟨g, rfl⟩ | rfl)
    · exact ⟨some g, List.append_nil _⟩
    · exact ⟨none, rfl⟩
  · rintro ⟨_ | g, rfl⟩
    · exact Or.inr rfl
    · exact Or.inl ⟨g, (List.append_nil _).symm⟩

/-- **The words of the language are the kinds of the lists of tokens with a derivation.** -/
theorem map_kind_mem_language_iff (ts : List Token) :
    ts.map Token.kind ∈ language ↔ ∃ d : Derivation, d.tokens = ts := by
  rw [language, (spells_phrase.kstar.mul spells_last) ts]
  constructor
  · rintro ⟨⟨ps, last⟩, h⟩
    exact ⟨⟨ps, last⟩, h⟩
  · rintro ⟨d, h⟩
    exact ⟨(d.phrases, d.last), h⟩

/-! ### Derivations are unique -/

/-- Values that end at a semicolon of one text are the same. -/
theorem value_append_inj {us vs ws xs : List Token} {s t : Token}
    (hus : ∀ u ∈ us, u.kind ≠ .semicolon) (hvs : ∀ v ∈ vs, v.kind ≠ .semicolon)
    (hs : s.kind = .semicolon) (ht : t.kind = .semicolon) (h : us ++ s :: ws = vs ++ t :: xs) :
    us = vs ∧ s = t ∧ ws = xs := by
  have htake : ∀ (ts ys : List Token) (u : Token), (∀ v ∈ ts, v.kind ≠ .semicolon) →
      u.kind = .semicolon → (ts ++ u :: ys).takeWhile (·.kind ≠ .semicolon) = ts := by
    intro ts ys u hts hu
    rw [List.takeWhile_append_of_pos (by simpa using hts)]
    simp [hu]
  obtain rfl : us = vs := by
    rw [← htake us ws s hus hs, h, htake vs xs t hvs ht]
  simpa using h

theorem Group.tokens_injective : Function.Injective Group.tokens := by
  intro g h heq
  cases g
  cases h
  simpa [Group.tokens] using heq

/-- A token that opens no statement is not the first one of a group. -/
theorem Group.cons_ne_tokens_append {t : Token} (ht : t.kind ≠ .letWord) (us vs : List Token)
    (g : Group) : t :: us ≠ g.tokens ++ vs := by
  intro h
  obtain rfl : t = g.word := (List.cons.inj h).1
  exact ht g.word_kind

/-- Of two lists of tokens that are the same and begin with a phrase, the phrases and the rests are
the same. -/
theorem Phrase.tokens_append_inj {p q : Phrase} {us vs : List Token}
    (h : p.tokens ++ us = q.tokens ++ vs) : p = q ∧ us = vs := by
  cases p with
  | other t ht =>
      cases q with
      | other u hu => simpa [Phrase.tokens] using h
      | statement g stop hstop =>
          rw [Phrase.tokens, Phrase.tokens, List.append_assoc] at h
          exact absurd h (Group.cons_ne_tokens_append ht _ _ g)
  | statement g stop hstop =>
      cases q with
      | other u hu =>
          rw [Phrase.tokens, Phrase.tokens, List.append_assoc] at h
          exact absurd h.symm (Group.cons_ne_tokens_append hu _ _ g)
      | statement g' stop' hstop' =>
          obtain ⟨hword, hname, hsign, htail⟩ : g.word = g'.word ∧ g.name = g'.name ∧
              g.sign = g'.sign ∧ g.value ++ stop :: us = g'.value ++ stop' :: vs := by
            simpa [Phrase.tokens, Group.tokens] using h
          obtain ⟨hvalue, rfl, rfl⟩ :=
            value_append_inj g.value_kind g'.value_kind hstop hstop' htail
          have hg : g = g' := Group.tokens_injective (by
            simp only [Group.tokens, hword, hname, hsign, hvalue])
          subst hg
          exact ⟨rfl, rfl⟩

/-- A group without a semicolon behind it does not begin with a phrase. -/
theorem Phrase.tokens_append_ne (p : Phrase) (us : List Token) (g : Group) :
    p.tokens ++ us ≠ g.tokens := by
  intro h
  cases p with
  | other t ht =>
      rw [← List.append_nil g.tokens] at h
      exact Group.cons_ne_tokens_append ht _ _ g h
  | statement g' stop hstop =>
      obtain ⟨-, -, -, hvalue⟩ : g'.word = g.word ∧ g'.name = g.name ∧ g'.sign = g.sign ∧
          g'.value ++ stop :: us = g.value := by
        simpa [Phrase.tokens, Group.tokens] using h
      exact g.value_kind stop (by simp [← hvalue]) hstop

theorem Phrase.tokens_ne_nil (p : Phrase) : p.tokens ≠ [] := by
  cases p <;> simp [Phrase.tokens]

@[simp] theorem Derivation.tokens_nil (last : Option Group) :
    (⟨[], last⟩ : Derivation).tokens = last.toList.flatMap Group.tokens := rfl

@[simp] theorem Derivation.tokens_cons (p : Phrase) (ps : List Phrase) (last : Option Group) :
    (⟨p :: ps, last⟩ : Derivation).tokens = p.tokens ++ (⟨ps, last⟩ : Derivation).tokens := by
  simp [Derivation.tokens]

/-- What begins with a phrase is not a last group, nor nothing. -/
theorem Derivation.tokens_cons_ne_tokens_nil (p : Phrase) (ps : List Phrase)
    (last last' : Option Group) :
    (⟨p :: ps, last⟩ : Derivation).tokens ≠ (⟨[], last'⟩ : Derivation).tokens := by
  rw [Derivation.tokens_cons, Derivation.tokens_nil]
  cases last' with
  | none => simp [p.tokens_ne_nil]
  | some g => simpa using p.tokens_append_ne _ g

/-- **A list of tokens has at most one derivation.** -/
theorem Derivation.tokens_injective : Function.Injective Derivation.tokens := by
  rintro ⟨ps, last⟩ ⟨qs, last'⟩ h
  induction ps generalizing qs with
  | nil =>
      cases qs with
      | nil =>
          cases last with
          | none =>
              cases last' with
              | none => rfl
              | some g => simp [Group.tokens] at h
          | some g =>
              cases last' with
              | none => simp [Group.tokens] at h
              | some g' =>
                  have hg : g = g' := Group.tokens_injective (by simpa using h)
                  rw [hg]
      | cons q qs => exact absurd h.symm (Derivation.tokens_cons_ne_tokens_nil q qs last' last)
  | cons p ps ih =>
      cases qs with
      | nil => exact absurd h (Derivation.tokens_cons_ne_tokens_nil p ps last last')
      | cons q qs =>
          rw [Derivation.tokens_cons, Derivation.tokens_cons] at h
          obtain ⟨rfl, htail⟩ := Phrase.tokens_append_inj h
          obtain ⟨rfl, rfl⟩ := Derivation.mk.inj (ih qs htail)
          rfl

end Grammar

/-! ### What has a derivation is read without a diagnostic -/

open Grammar

theorem afterSemicolon_of_forall_ne {ts : List Token} (hts : ∀ t ∈ ts, t.kind ≠ .semicolon)
    {e : Token} (he : e.kind = .eof) : afterSemicolon (ts ++ [e]) = [] := by
  induction ts with
  | nil => simp [afterSemicolon, he]
  | cons t ts ih =>
      have ht : t.kind ≠ .semicolon := hts t (List.mem_cons_self ..)
      rw [List.cons_append, afterSemicolon, if_neg ht,
        ih fun u hu => hts u (List.mem_cons_of_mem t hu), ite_self]

/-- A value that ends within some tokens, the semicolon at its end, and what follows it. -/
theorem exists_eq_append_afterSemicolon {ts : List Token} (hts : ∀ t ∈ ts, t.kind ≠ .eof)
    (hend : ∃ t ∈ ts, t.kind = .semicolon) :
    ∃ vs stop, ts = vs ++ stop :: afterSemicolon ts ∧ (∀ v ∈ vs, v.kind ≠ .semicolon) ∧
      stop.kind = .semicolon := by
  induction ts with
  | nil => simp at hend
  | cons t ts ih =>
      rw [afterSemicolon]
      by_cases ht : t.kind = .semicolon
      · exact ⟨[], t, by rw [if_pos ht, List.nil_append], by simp, ht⟩
      · have htail : ∃ u ∈ ts, u.kind = .semicolon := by
          obtain ⟨u, hu, husemi⟩ := hend
          rcases List.mem_cons.1 hu with rfl | hu
          · exact absurd husemi ht
          · exact ⟨u, hu, husemi⟩
        obtain ⟨vs, stop, hsplit, hvs, hstop⟩ :=
          ih (fun u hu => hts u (List.mem_cons_of_mem t hu)) htail
        refine ⟨t :: vs, stop, ?_, ?_, hstop⟩
        · rw [if_neg ht, if_neg (hts t (List.mem_cons_self ..)), List.cons_append, ← hsplit]
        · intro v hv
          rcases List.mem_cons.1 hv with rfl | hv
          · exact ht
          · exact hvs v hv

namespace Outcome

theorem ofTokens_group {g : Group} (ts : List Token) :
    ofTokens (g.tokens ++ ts) =
      (ofTokens (afterSemicolon (g.value ++ ts))).withStatement g.toStatement :=
  ofTokens_statement g.word_kind g.name_kind g.sign_kind (g.value ++ ts)

/-- **What has a derivation is read without a diagnostic**, and its groups are the statements. -/
theorem ofTokens_derivation (d : Derivation) (hd : ∀ t ∈ d.tokens, t.kind ≠ .eof) {e : Token}
    (he : e.kind = .eof) :
    ofTokens (d.tokens ++ [e]) = ⟨⟨d.groups.map Group.toStatement⟩, []⟩ := by
  obtain ⟨ps, last⟩ := d
  induction ps with
  | nil =>
      cases last with
      | none => exact ofTokens_eof he []
      | some g =>
          have hvalue := afterSemicolon_of_forall_ne g.value_kind he
          simp only [Derivation.tokens_nil, Option.toList_some, List.flatMap_singleton]
          rw [ofTokens_group, hvalue, ofTokens_nil]
          rfl
  | cons p ps ih =>
      rw [Derivation.tokens_cons] at hd ⊢
      have htail := ih fun t ht => hd t (List.mem_append_right _ ht)
      cases p with
      | other t ht =>
          have heof : t.kind ≠ .eof := hd t (by simp [Phrase.tokens])
          rw [Phrase.tokens, List.singleton_append, List.cons_append, ofTokens_other heof ht, htail]
          rfl
      | statement g stop hstop =>
          have heof : ∀ t ∈ g.value, t.kind ≠ .eof := fun t ht =>
            hd t (by simp [Phrase.tokens, Group.tokens, ht])
          have hnone : ¬ ∃ t ∈ g.value, t.kind = .semicolon := by
            rintro ⟨t, ht, hsemi⟩
            exact g.value_kind t ht hsemi
          rw [Phrase.tokens, List.append_assoc, List.append_assoc, ofTokens_group,
            List.singleton_append, afterSemicolon_append_cons heof hnone hstop, htail]
          rfl

/-- **What is read without a diagnostic has a derivation.** -/
theorem exists_derivation {ts : List Token} (hts : ∀ t ∈ ts, t.kind ≠ .eof) {e : Token}
    (he : e.kind = .eof) (hclean : (ofTokens (ts ++ [e])).IsClean) :
    ∃ d : Derivation, d.tokens = ts := by
  have hident : e.kind ≠ .ident := by simp [he]
  have hassign : e.kind ≠ .assign := by simp [he]
  induction ts using ofTokens.induct with
  | case1 => exact ⟨⟨[], none⟩, rfl⟩
  | case2 t rest heof => exact absurd heof (hts t (List.mem_cons_self ..))
  | case3 t heof hlet =>
      rw [List.singleton_append, ofTokens_nameless hlet hident] at hclean
      cases hclean
  | case4 t heof hlet x hx =>
      rw [List.cons_append, List.singleton_append, ofTokens_unassigned hlet hx hassign] at hclean
      cases hclean
  | case5 t heof hlet x hx y rest hy ih =>
      have hrest : ∀ t ∈ rest, t.kind ≠ .eof := fun t ht => hts t (by simp [ht])
      rw [List.cons_append, List.cons_append, List.cons_append, ofTokens_statement hlet hx hy]
        at hclean
      by_cases hend : ∃ t ∈ rest, t.kind = .semicolon
      · rw [afterSemicolon_append hrest hend] at hclean
        obtain ⟨d, hd⟩ := ih (fun t ht => hrest t (mem_of_mem_afterSemicolon ht)) hclean
        obtain ⟨vs, stop, hsplit, hvs, hstop⟩ := exists_eq_append_afterSemicolon hrest hend
        refine ⟨⟨.statement ⟨t, x, y, vs, hlet, hx, hy, hvs⟩ stop hstop :: d.phrases, d.last⟩, ?_⟩
        rw [Derivation.tokens_cons, hd]
        conv_rhs => rw [hsplit]
        simp [Phrase.tokens, Group.tokens]
      · have hvalue : ∀ t ∈ rest, t.kind ≠ .semicolon := fun t ht hsemi => hend ⟨t, ht, hsemi⟩
        refine ⟨⟨[], some ⟨t, x, y, rest, hlet, hx, hy, hvalue⟩⟩, ?_⟩
        simp [Group.tokens]
  | case6 t heof hlet x hx y rest hy ih =>
      rw [List.cons_append, List.cons_append, List.cons_append, ofTokens_unassigned hlet hx hy]
        at hclean
      cases hclean
  | case7 t heof hlet x rest hx ih =>
      rw [List.cons_append, List.cons_append, ofTokens_nameless hlet hx] at hclean
      cases hclean
  | case8 t rest heof hlet ih =>
      rw [List.cons_append, ofTokens_other heof hlet] at hclean
      obtain ⟨d, hd⟩ := ih (fun u hu => hts u (List.mem_cons_of_mem t hu)) hclean
      refine ⟨⟨.other t hlet :: d.phrases, d.last⟩, ?_⟩
      rw [Derivation.tokens_cons, hd]
      rfl

end Outcome

/-! ### Texts and files -/

theorem Outcome.isClean_ofSource_iff (s : String) :
    (ofSource s).IsClean ↔ ∃ d : Derivation, d.tokens = (tokenize s).dropLast := by
  obtain ⟨e, hs, he, hts⟩ := exists_tokenize_eq_concat s
  rw [ofSource_eq]
  constructor
  · intro h
    rw [hs] at h
    exact exists_derivation hts he h
  · rintro ⟨d, hd⟩
    rw [hs, ← hd, ofTokens_derivation d (hd ▸ hts) he]
    rfl

namespace Command

theorem exit_checkReply (path s : String) :
    (checkReply path s).exit = if (Outcome.ofSource s).IsClean then 0 else 1 := by
  unfold checkReply
  split <;> simp_all

/-- A file that can be read as a text is checked as that text. -/
theorem runArgs_check {files : String → FileState} {path : String} {content : ByteArray}
    {s : String} (hfile : files path = .bytes content) (htext : String.fromUTF8? content = some s)
    (input : ByteArray) :
    runArgs files input ["--check", path] = .done (checkReply path s) := by
  have hargs : ofArgs? ["--check", path] = some (.check path) := rfl
  simp only [runArgs, hargs, run, readSource, hfile, htext]

end Command

/-- **The accepted texts.**  Reading a text gives no diagnostic exactly if the kinds of its tokens
are a word of the language of programs.  Its tokens then have one derivation, the groups of which
are the statements, in order and with their names; and checking a file with that text replies with
the exit code zero in this case, and with one otherwise. -/
theorem Outcome.isClean_iff_mem_language (s : String) :
    ((ofSource s).IsClean ↔ (tokenize s).dropLast.map Token.kind ∈ language) ∧
    ((ofSource s).IsClean → ∃ d : Derivation, d.tokens = (tokenize s).dropLast ∧
      (∀ d' : Derivation, d'.tokens = (tokenize s).dropLast → d' = d) ∧
      (ofSource s).program.statements.length = d.groups.length ∧
      (ofSource s).program.statements.map (·.name.value) = d.groups.map (·.name.literal)) ∧
    ∀ (files : String → FileState) (path : String) (content input : ByteArray),
      files path = .bytes content → String.fromUTF8? content = some s →
      ∃ reply, Command.runArgs files input ["--check", path] = .done reply ∧
        (reply.exit = 0 ↔ (tokenize s).dropLast.map Token.kind ∈ language) ∧
        (reply.exit = 1 ↔ (tokenize s).dropLast.map Token.kind ∉ language) := by
  have hiff : (ofSource s).IsClean ↔ (tokenize s).dropLast.map Token.kind ∈ language := by
    rw [map_kind_mem_language_iff, isClean_ofSource_iff]
  refine ⟨hiff, ?_, ?_⟩
  · intro hclean
    obtain ⟨d, hd⟩ := (isClean_ofSource_iff s).1 hclean
    obtain ⟨e, hs, he, hts⟩ := exists_tokenize_eq_concat s
    have houtcome : ofSource s = ⟨⟨d.groups.map Group.toStatement⟩, []⟩ := by
      rw [ofSource_eq, hs, ← hd, ofTokens_derivation d (hd ▸ hts) he]
    refine ⟨d, hd, ?_, ?_, ?_⟩
    · intro d' hd'
      exact Derivation.tokens_injective (hd'.trans hd.symm)
    · rw [houtcome]
      exact List.length_map _
    · rw [houtcome]
      exact List.map_map ..
  · intro files path content input hfile htext
    refine ⟨_, Command.runArgs_check hfile htext input, ?_, ?_⟩
    · rw [Command.exit_checkReply, ← hiff]
      by_cases h : (ofSource s).IsClean <;> simp [h]
    · rw [Command.exit_checkReply, ← hiff]
      by_cases h : (ofSource s).IsClean <;> simp [h]

end LetInspector
