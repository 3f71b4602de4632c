import Weave.Program.Literal
import Weave.Program.Numeral
import Weave.Unicode.Identifier
import Weave.Unicode.Normalization

/-!
# Lexemes of programs

A program is cut into names, numbers, literals and marks. The end of a line counts outside brackets, and
so does a change of the indentation of the next line.
-/

set_option autoImplicit false

namespace Weave.Program

inductive LexemeKind where
  | name (t : Text)
  /-- A word that is no name. -/
  | word (t : Text)
  | number (n : Numeral)
  /-- The inside of a text or of bytes, and how far behind the start of the lexeme it begins. -/
  | quoted (manner : Manner) (inside : Text) (offset : Nat)
  | mark (t : Text)
  | lineEnd
  | indent
  | dedent
  | finish
  /-- There is no going on from here, for this reason. -/
  | barrier (why : Misreading)
deriving Inhabited

structure Lexeme where
  kind : LexemeKind
  span : Span
  /-- How many brackets are open behind it. -/
  depth : Nat
  /-- It takes up a place of its own in the text. -/
  placed : Bool := true
deriving Inhabited

namespace Lexeme

def keywords : List Text :=
  [ "False", "None", "True", "and", "as", "assert", "async", "await", "break", "class", "continue",
    "def", "del", "elif", "else", "except", "finally", "for", "from", "global", "if", "import",
    "in", "is", "lambda", "nonlocal", "not", "or", "pass", "raise", "return", "try", "while",
    "with", "yield" ].map String.toList

/-- A name or a word by its letters, of which only the normal form counts. -/
def named (t : Text) : LexemeKind :=
  if keywords.contains t then .word t else .name (Unicode.normalize t)

def longMarks : List Text :=
  [ "**=", "//=", ">>=", "<<=", "...", "**", "//", "==", "!=", "<>", "<=", ">=", "->", "+=", "-=",
    "*=", "/=", "%=", "&=", "|=", "^=", "@=", ":=", "<<", ">>" ].map String.toList

/-- The mark at the front of a text, of which every character is one if it is no part of a longer one. -/
def takeMark (t : Text) : Text := (longMarks.find? fun m => m.isPrefixOf t).getD (t.take 1)

end Lexeme

/-! ### Scanning -/

/-- Where scanning has come to. -/
structure Scanner where
  text : Text
  spot : Spot := ⟨1, 0⟩
  rest : Text
  /-- The open brackets, the innermost first. -/
  brackets : List (Char × Spot) := []
  /-- The indentations of the blocks around, the innermost first, with every tab up to the next
  multiple of eight, and with every tab as one. -/
  blocks : List (Nat × Nat) := []
  /-- The next line begins here. -/
  fresh : Bool := true

/-- A step of scanning. -/
inductive ScanStep where
  | go (ls : List Lexeme) (s : Scanner)
  /-- Scanning ends, which is a fault for whoever comes that far. -/
  | halt (why : Misreading)
  /-- The text has no lexemes. -/
  | refuse (why : Misreading)

namespace Scanner

/-- Goes behind a piece of text. -/
def pass (s : Scanner) (t : Text) : Scanner :=
  { s with spot := s.spot.past t, rest := s.rest.drop t.length, fresh := false }

/-- A lexeme of this kind and source at the front. -/
def lexeme (s : Scanner) (kind : LexemeKind) (source : Text) : Lexeme :=
  ⟨kind, ⟨s.spot, s.spot.past source⟩, s.brackets.length, true⟩

def sign (s : Scanner) (kind : LexemeKind) : Lexeme := ⟨kind, ⟨s.spot, s.spot⟩, s.brackets.length, false⟩

def isSpace (c : Char) : Bool := c = ' ' || c = '\t' || c = '\x0c'

/-- How wide an indentation is in both ways. A form feed begins it anew. -/
def indentWidth (t : Text) : Nat × Nat :=
  t.foldl (fun n c =>
    if c = '\t' then (n.1 / 8 * 8 + 8, n.2 + 1) else if c = '\x0c' then (0, 0) else (n.1 + 1, n.2 + 1))
    (0, 0)

def lineHere (s : Scanner) : Text := Place.lineOf s.text s.spot.line

/-- A complaint behind the first `n` characters that are ahead. -/
def complaint (s : Scanner) (n : Nat) (c : Complaint) : Misreading :=
  ⟨c, .behind s.text (s.spot.past (s.rest.take n))⟩

/-- A complaint about the indentation of this line. -/
def badIndent (s : Scanner) (c : Complaint) (column endColumn : Int) : ScanStep :=
  .halt ⟨c, s.spot.line, column, s.spot.line, endColumn, some s.lineHere⟩

/-- What the indentation of a line that holds something says about blocks. -/
def block (s : Scanner) (width : Nat × Nat) : ScanStep :=
  let mixed := s.badIndent .mixedIndent 1 0
  let outer := s.blocks.dropWhile fun b => width.1 < b.1
  let at_ := outer.head?.getD (0, 0)
  if width.1 > at_.1 && outer.length = s.blocks.length then
    if width.2 ≤ at_.2 then mixed
    else .go [s.sign .indent] { s with blocks := width :: s.blocks, fresh := false }
  else if width.1 ≠ at_.1 then s.badIndent .unmatchedIndent s.lineHere.length (-1)
  else if width.2 ≠ at_.2 then mixed
  else .go (List.replicate (s.blocks.length - outer.length) (s.sign .dedent))
    { s with blocks := outer, fresh := false }

/-- A name, whose letters can be any from the 128th character on until they are looked at. -/
def nameStep (s : Scanner) : ScanStep :=
  let t := s.rest.takeWhile fun c => c.isAlphanum || c = '_' || c.toNat ≥ 0x80
  let fits := match t with
    | c :: r => if Unicode.isIdentifierStart c then 1 + (r.takeWhile Unicode.isIdentifierContinue).length else 0
    | [] => 0
  match t.drop fits with
  | [] => .go [s.lexeme (Lexeme.named t) t] (s.pass t)
  | c :: _ => .refuse (s.complaint (fits + 1) (.badCharacter c))

def numberStep (s : Scanner) : ScanStep :=
  match Numeral.take s.rest with
  | .ok (n, size) =>
    let t := s.rest.take size
    .go [s.lexeme (.number n) t] (s.pass t)
  | .error f =>
    let m := s.complaint f.count f.complaint
    -- the zeros in front of a number are marked from their beginning
    .refuse (if f.complaint = .leadingZeros then
        { m with place := { m.place with
          column := s.spot.column + 1, endColumn := s.spot.column + f.count + 1 } }
      else m)

def lastLine (s : Scanner) : Nat := (Text.cutLines Text.isProgramLineEnd s.text).length

def quotedStep (s : Scanner) : Except (Bool × Text) Literal.Cut → ScanStep
  | .ok c =>
    let t := s.rest.take c.size
    .go [s.lexeme (.quoted c.manner c.inside c.offset) t] (s.pass t)
  | .error (isLong, t) =>
    .refuse (s.complaint 1 (.unterminated isLong (min (s.spot.past t).line s.lastLine)))

def isOpening (c : Char) : Bool := c = '(' || c = '[' || c = '{'

/-- The bracket that a closing one belongs to. -/
def opening? (c : Char) : Option Char :=
  if c = ')' then some '(' else if c = ']' then some '[' else if c = '}' then some '{' else none

def markStep (s : Scanner) (c : Char) : ScanStep :=
  let m := Lexeme.takeMark s.rest
  let go := fun (brackets : List (Char × Spot)) =>
    let l := { s.lexeme (.mark m) m with depth := brackets.length }
    ScanStep.go [l] { s.pass m with brackets }
  if isOpening c then go ((c, s.spot) :: s.brackets)
  else match opening? c, s.brackets with
    | none, _ =>
      if Unicode.isPrintable c then go s.brackets else .refuse (s.complaint 1 (.badCharacter c))
    | some _, [] => .refuse (s.complaint 1 (.unmatched c))
    | some o, (b, p) :: outer =>
      if o = b then go outer
      else .refuse (s.complaint 1
        (.mismatched c b (if p.line = s.spot.line then none else some p.line)))

/-- A backslash joins a line to the next one, which there has to be. -/
def backslashStep (s : Scanner) (fresh : Bool) : Text → ScanStep
  | '\n' :: _ :: _ => .go [] { s.pass ['\\', '\n'] with fresh }
  | ['\n'] => .halt ⟨.unfinished, s.spot.line, s.lineHere.length, s.spot.line, -1, some s.lineHere⟩
  | r =>
    let column := s.spot.column + if r.isEmpty then 1 else 2
    .halt ⟨.strayBackslash, s.spot.line, column, s.spot.line, 0, some s.lineHere⟩

def next (s : Scanner) : ScanStep :=
  let spaces := s.rest.takeWhile isSpace
  let fresh := s.fresh
  let s := { s.pass spaces with fresh }
  match s.rest with
  | [] => .go [] s
  | '#' :: _ => .go [] { s.pass (s.rest.takeWhile (· ≠ '\n')) with fresh }
  | '\n' :: _ =>
    let isOutside := s.brackets.isEmpty
    let after := { s.pass ['\n'] with fresh := isOutside }
    .go (if isOutside && !fresh then [s.lexeme .lineEnd []] else []) after
  | c :: r =>
    if fresh && s.brackets.isEmpty then s.block (indentWidth spaces)
    else if c = '\\' then s.backslashStep fresh r
    else match Literal.take? s.rest with
      | some cut => s.quotedStep cut
      | none =>
        if c.isAlpha || c = '_' || c.toNat ≥ 0x80 then s.nameStep
        else if c.isDigit || (c = '.' && r.head?.any Char.isDigit) then s.numberStep
        else s.markStep c

/-- A bracket that is still open where the text ends. -/
def unclosed (s : Scanner) (bracket : Char) (p : Spot) : Misreading :=
  let line := Place.lineOf s.text p.line
  let shown := if p.line < s.lastLine then Text.dropEndWhile (· = '\n') line else line
  ⟨.unclosed bracket, p.line, p.column + 1, p.line, 0, some shown⟩

/-- The end of the text, as far as it has lines. -/
def atEnd (s : Scanner) : Scanner :=
  { s with spot := ⟨s.lastLine, (Place.lineOf s.text s.lastLine).length⟩ }

/-- The lexemes up to the end, where open blocks are closed, and why there are none if so. -/
def run : Nat → Scanner → List Lexeme × Option Misreading
  | 0, _ => ([], none)
  | fuel + 1, s =>
    if s.rest.isEmpty then
      let end_ := s.atEnd
      match s.brackets with
      | (b, p) :: _ => ([end_.sign (.barrier (s.unclosed b p))], none)
      | [] => (s.blocks.map (fun _ => end_.sign .dedent) ++ [end_.sign .finish], none)
    else match s.next with
      | .go ls s =>
        let (rest, fault) := run fuel s
        (ls ++ rest, fault)
      | .halt why => ([s.sign (.barrier why)], none)
      | .refuse why => ([], some why)

end Scanner

/-- The lexemes of a text, and the fault if it has none. Every character is passed at most once, and the
beginning of a line may need another step. -/
def scan (t : Text) : List Lexeme × Option Misreading :=
  Scanner.run (2 * t.length + 2) { text := t, rest := t }

end Weave.Program
