/-
**Ways of pulling tokens from one text.**

A stream hands out the tokens of one text in four ways, in any order.  All four move the same
cursor.  The two ways that stop, `next?` and `collect`, share a mark: once `next?` has met the end
token it gives nothing more.  Reading the end token in the other two ways does not set the mark.

Main definitions:

* `LetInspector.TokenStream` — a cursor and the mark;
* `LetInspector.TokenStream.read`, `next?`, `readAll`, `collect` — the four ways;
* `LetInspector.Pull`, `LetInspector.TokenStream.pull`, `LetInspector.TokenStream.pullAll` — the
  four ways as data, one of them carried out, and a list of them carried out in turn.
-/

import LetInspector.Token.Cursor

set_option autoImplicit false

namespace LetInspector

/-- A cursor, with the mark that `next?` sets when it meets the end token. -/
structure TokenStream where
  /-- Where the next token is read. -/
  cursor : Cursor
  /-- Whether `next?` has handed out an end token. -/
  ended : Bool
deriving DecidableEq

/-- A way of pulling from a stream. -/
inductive Pull where
  | read | next | readAll | collect
deriving DecidableEq

/-- What one pull hands out: a token, a token or nothing, or a list of tokens. -/
inductive Pulled where
  | token (t : Token)
  | item (t : Option Token)
  | list (ts : List Token)
deriving DecidableEq

/-- The tokens handed out, in order. -/
def Pulled.tokens : Pulled → List Token
  | token t => [t]
  | item t => t.toList
  | list ts => ts

namespace TokenStream

/-- The stream of a text, at its start. -/
def ofSource (source : String) : TokenStream := ⟨.ofSource source, false⟩

/-- The next token; at the end of the text, the end token. -/
def read (s : TokenStream) : Token × TokenStream :=
  (s.cursor.next.1, { s with cursor := s.cursor.next.2 })

/-- The next token, or nothing once an end token was handed out this way. -/
def next? (s : TokenStream) : Option Token × TokenStream :=
  if s.ended then (none, s)
  else (some s.cursor.next.1, ⟨s.cursor.next.2, s.cursor.next.1.kind = .eof⟩)

/-- All tokens up to and including the end token. -/
def readAll (s : TokenStream) : List Token × TokenStream :=
  (s.cursor.readAll.1, { s with cursor := s.cursor.readAll.2 })

/-- A bound on how often `next?` still answers. -/
def budget (s : TokenStream) : Nat := if s.ended then 0 else s.cursor.rest.length + 1

theorem budget_next?_lt {s u : TokenStream} {t : Token} (h : s.next? = (some t, u)) :
    u.budget < s.budget := by
  unfold next? at h
  by_cases he : s.ended
  · simp [he] at h
  · simp only [he, Bool.false_eq_true, ↓reduceIte, Prod.mk.injEq, Option.some.injEq] at h
    obtain ⟨-, rfl⟩ := h
    by_cases hk : s.cursor.next.1.kind = .eof
    · simp [budget, he, hk]
    · have := Cursor.rest_length_next_lt hk
      simp only [budget, he, hk, decide_false, Bool.false_eq_true, ↓reduceIte]
      omega

/-- All that repeated `next?` gives. -/
def collect (s : TokenStream) : List Token × TokenStream :=
  go s []
where
  /-- Pulls on, with the tokens pulled so far in reverse. -/
  go (s : TokenStream) (done : List Token) : List Token × TokenStream :=
    match _h : s.next? with
    | (none, u) => (done.reverse, u)
    | (some t, u) => go u (t :: done)
  termination_by s.budget
  decreasing_by exact budget_next?_lt (by assumption)

/-- Carries out one pull. -/
def pull (s : TokenStream) : Pull → Pulled × TokenStream
  | .read => (.token s.read.1, s.read.2)
  | .next => (.item s.next?.1, s.next?.2)
  | .readAll => (.list s.readAll.1, s.readAll.2)
  | .collect => (.list s.collect.1, s.collect.2)

/-- Carries out pulls in turn. -/
def pullAll (s : TokenStream) : List Pull → List Pulled × TokenStream
  | [] => ([], s)
  | p :: ps =>
    let first := s.pull p
    let others := first.2.pullAll ps
    (first.1 :: others.1, others.2)

end TokenStream

end LetInspector
