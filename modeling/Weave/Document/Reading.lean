import Weave.Action
import Weave.Document.Fault
import Weave.Token.Cursor

/-!
# Reading documents

Readers move a cursor, which stays where a reader has failed. The basic readers take a token or a
sequence of tokens, search for the first of several sequences, and close a command.
-/

set_option autoImplicit false

namespace Weave.Document

/-- Reads from a cursor and leaves it behind what was read, or where reading failed. -/
abbrev Reading (α : Type) := Action Cursor Fault α

def token : Reading Token := fun c => (.ok c.peek, c.advance)

/-- The next token, which must be of a kind; another one is consumed all the same. -/
def expect (kind : TokenKind) : Reading Token := fun c =>
  if c.peek.kind = kind then (.ok c.peek, c.advance)
  else (.error (.unexpected kind c.peek), c.advance)

def expectAll : List TokenKind → Reading (List Token)
  | [] => pure []
  | k :: ks => do
    let t ← expect k
    let ts ← expectAll ks
    pure (t :: ts)

def word : Reading Text := do
  let t ← expect .word
  pure t.text

def textOf (ts : List Token) : Text := ts.flatMap Token.text

/-! ### Searching -/

/-- The first of the sequences that the tokens read last are. The list is latest first. -/
def endingIn (breaks : List (List TokenKind)) (read : List (Token × Cursor)) :
    Option (List TokenKind) :=
  breaks.find? fun b => ((read.take b.length).map fun r => r.1.kind) = b.reverse

/-- Reads on until the last tokens are one of the sequences, and goes back in front of these. -/
def search (breaks : List (List TokenKind)) :
    List (Token × Cursor) → List (Token × Cursor) → Cursor → List Token × Cursor
  | [], read, behind => ((read.map Prod.fst).reverse, behind)
  | r :: rest, read, behind =>
    match endingIn breaks (r :: read) with
    | some b =>
      let before := (r :: read).drop b.length
      let mark := ((r :: read).take b.length).getLast?
      ((before.map Prod.fst).reverse, (mark.map Prod.snd).getD behind)
    | none => search breaks rest (r :: read) r.2.advance

/-- The tokens in front of the first place where one of the sequences is completed; all tokens if
there is none. -/
def readUntilAny (breaks : List (List TokenKind)) : Reading (List Token) := fun c =>
  if breaks.any List.isEmpty then (.error .emptyBreak, c)
  else
    let (ts, c') := search breaks c.tokens [] c
    (.ok ts, c')

/-! ### Commands -/

def openKinds : List TokenKind := [.openBrace, .openBrace]
def closeKinds : List TokenKind := [.closeBrace, .closeBrace]
def lineCloseKinds : List TokenKind := .newline :: closeKinds
def embedKinds : List TokenKind := openKinds ++ .word :: closeKinds
def separatorKinds : List TokenKind := [.hash, .hash, .hash]

def readUntilCommand : Reading (List Token) := readUntilAny [openKinds]

def openCommand : Reading (List Token) := expectAll openKinds

/-- The forms in which a command is closed: the newlines on either side belong to it. -/
def closings : List (List TokenKind) :=
  [ .newline :: closeKinds ++ [.newline], .newline :: closeKinds, closeKinds ++ [.newline],
    closeKinds ]

def closeCommand : Reading (List Token) := fun c =>
  match closings.find? fun ks => c.sees ks with
  | some ks => expectAll ks c
  | none => (.error (.unclosed c.offset), c)

end Weave.Document
