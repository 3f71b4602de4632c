import Weave.Token

/-!
# Cursors

A place in a text, from which tokens are read on demand. Reading a token does not depend on what was
read before, so a cursor can be kept and read from again.
-/

set_option autoImplicit false

namespace Weave

/-- A position in a text of `length` characters, and what follows it. -/
structure Cursor where
  length : Nat
  offset : Nat
  rest : Text
deriving DecidableEq, Repr, Inhabited

namespace Cursor

/-- The cursor at a position of a text; the position may lie beyond the end. -/
def ofText (t : Text) (offset : Nat) : Cursor := ⟨t.length, offset, t.drop offset⟩

def start (t : Text) : Cursor := ofText t 0

/-- At the end, or beyond it, there is always the token that says so. -/
def peek (c : Cursor) : Token :=
  if c.rest.isEmpty then ⟨.finish, [], c.length, c.length⟩ else Token.front c.offset c.rest

/-- Behind the next token. -/
def advance (c : Cursor) : Cursor :=
  ⟨c.length, c.peek.stop, c.rest.drop c.peek.text.length⟩

def next (c : Cursor) : Token × Cursor := (c.peek, c.advance)

def peekMany (c : Cursor) : Nat → List Token
  | 0 => []
  | n + 1 => c.peek :: c.advance.peekMany n

def sees (c : Cursor) (kinds : List TokenKind) : Bool :=
  (c.peekMany kinds.length).map Token.kind = kinds

theorem advance_rest_length_lt {c : Cursor} (h : c.rest ≠ []) :
    c.advance.rest.length < c.rest.length := by
  have hp : 0 < c.peek.text.length := by
    have : c.rest.isEmpty = false := by simpa using h
    simp only [peek, this, Bool.false_eq_true, if_false]
    exact Token.front_length_pos _ h
  have hl : 0 < c.rest.length := List.length_pos_iff.mpr h
  simp only [advance, List.length_drop]
  omega

/-- The tokens up to the end of the text, each with the cursor in front of it. -/
def tokens (c : Cursor) : List (Token × Cursor) :=
  if _h : c.rest = [] then [] else (c.peek, c) :: c.advance.tokens
termination_by c.rest.length
decreasing_by exact advance_rest_length_lt _h

end Cursor

/-- The tokens of a text, the one at its end included. -/
def Token.all (t : Text) : List Token :=
  (Cursor.start t).tokens.map Prod.fst ++ [⟨.finish, [], t.length, t.length⟩]

end Weave
