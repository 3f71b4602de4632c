import Weave.Text

/-!
# Tokens

A document is cut into braces, spaces, hash marks and newlines, and the words between them. A
carriage return is part of a newline directly before a line feed and part of a word elsewhere.
-/

set_option autoImplicit false

namespace Weave

inductive TokenKind where
  | finish
  | word
  | openBrace
  | closeBrace
  | space
  | newline
  | hash
deriving DecidableEq, Repr, Inhabited

structure Token where
  kind : TokenKind
  text : Text
  start : Nat
  stop : Nat
deriving DecidableEq, Repr, Inhabited

namespace TokenKind

/-- The delimiters of one character. -/
def ofChar? (c : Char) : Option TokenKind :=
  if c = '{' then some .openBrace
  else if c = '}' then some .closeBrace
  else if c = ' ' then some .space
  else if c = '\n' then some .newline
  else if c = '#' then some .hash
  else none

/-- The delimiter at the front of a text, and its own text. -/
def delimiter? : Text → Option (TokenKind × Text)
  | [] => none
  | '\r' :: '\n' :: _ => some (.newline, ['\r', '\n'])
  | c :: _ => (ofChar? c).map fun k => (k, [c])

def name : TokenKind → Text
  | .finish => "EOF".toList
  | .word => "Word".toList
  | .openBrace => "LeftBrace".toList
  | .closeBrace => "RightBrace".toList
  | .space => "Space".toList
  | .newline => "Newline".toList
  | .hash => "Hash".toList

def all : List TokenKind := [.finish, .word, .openBrace, .closeBrace, .space, .newline, .hash]

def ofName? (t : Text) : Option TokenKind := all.find? fun k => k.name = t

def number (k : TokenKind) : Nat := all.findIdx (· = k) + 1

def label (k : TokenKind) : Text := "TokenType.".toList ++ k.name

end TokenKind

namespace Token

/-- The characters of the word at the front of a text: all up to the next delimiter. -/
def wordAt : Text → Text
  | [] => []
  | c :: r => if (TokenKind.delimiter? (c :: r)).isSome then [] else c :: wordAt r

/-- The token at the front of a text that starts at `offset`. -/
def front (offset : Nat) (t : Text) : Token :=
  match t with
  | [] => ⟨.finish, [], offset, offset⟩
  | t =>
    match TokenKind.delimiter? t with
    | some (k, d) => ⟨k, d, offset, offset + d.length⟩
    | none => ⟨.word, wordAt t, offset, offset + (wordAt t).length⟩

theorem wordAt_length_pos {c : Char} {r : Text} (h : TokenKind.delimiter? (c :: r) = none) :
    0 < (wordAt (c :: r)).length := by
  simp [wordAt, h]

theorem delimiter?_length_pos {t d : Text} {k : TokenKind}
    (h : TokenKind.delimiter? t = some (k, d)) : 0 < d.length := by
  unfold TokenKind.delimiter? at h
  split at h
  · simp at h
  · simp only [Option.some.injEq, Prod.mk.injEq] at h
    simp [← h.2]
  · simp only [Option.map_eq_some_iff, Prod.mk.injEq] at h
    obtain ⟨_, _, _, rfl⟩ := h
    simp

/-- Every token but the one at the end of a text takes up a character. -/
theorem front_length_pos (offset : Nat) {t : Text} (h : t ≠ []) :
    0 < (Token.front offset t).text.length := by
  cases t with
  | nil => exact absurd rfl h
  | cons c r =>
    unfold Token.front
    split
    · next h' => simp at h'
    · split
      · next h' => exact delimiter?_length_pos h'
      · next h' => exact wordAt_length_pos h'

/-- How a token is named in messages. -/
def written (t : Token) (quoted : Text → Text) : Text :=
  "Token(type=<".toList ++ t.kind.label ++ ": ".toList ++ Text.ofNat t.kind.number
    ++ ">, value=".toList ++ quoted t.text ++ ", start_pos=".toList ++ Text.ofNat t.start
    ++ ", end_pos=".toList ++ Text.ofNat t.stop ++ ")".toList

end Token

end Weave
