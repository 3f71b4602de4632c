import Weave.Program.Misreading
import Weave.Program.Tree

/-!
# Texts with fields

The inside of a text is cut into pieces: text, in which doubled braces stand for one, and fields between
braces. A field is an expression, maybe an equals sign that shows it, a conversion and a format, in which
there can be fields again. Where the inside is malformed, the pieces in front of that count first.
-/

set_option autoImplicit false

namespace Weave.Program

inductive Piece where
  | text (t : Text)
  /-- An expression, how far behind the beginning its brace stands, and what is shown in front of its
  value. -/
  | field (source : Text) (brace : Nat) (shown : Text) (c : Conversion) (format : List Piece)
deriving Inhabited

namespace Piece

/-- What is cut, why it is no more, and what is left. -/
structure Cut where
  pieces : List Piece
  fault : Option Complaint := none
  rest : Text := []
deriving Inhabited

/-- The text in front of the next field, or of the brace that closes the one around. Only on the
outermost level are doubled braces one. The name of a character stays as it is. -/
def cutText (raw outermost : Bool) : Nat → Text → Text × Text
  | 0, t => ([], t)
  | _, [] => ([], [])
  | fuel + 1, c :: r =>
    let go := fun (taken : Text) (rest : Text) =>
      let (t, left) := cutText raw outermost fuel rest
      (taken ++ t, left)
    if c = '\\' && !raw then
      match r with
      | 'N' :: '{' :: name =>
        let name := name.takeWhile (· ≠ '}')
        let t := c :: 'N' :: '{' :: name ++ ['}']
        go (t.take (c :: r).length) (r.drop (t.length - 1))
      | d :: r => if d = '{' || d = '}' then go [c] (d :: r) else go [c, d] r
      | [] => ([c], [])
    else if c = '{' || c = '}' then
      match r with
      | d :: r => if outermost && d = c then go [c] r else ([], c :: d :: r)
      | [] => ([], [c])
    else go [c] r

/-- The characters that end an expression outside brackets, unless they begin a comparison. -/
def ends (c : Char) : Bool := c = '!' || c = ':' || c = '}' || c = '='

def isComparison (c : Char) (r : Text) : Bool :=
  (c = '!' || c = '=' || c = '<' || c = '>') && r.head? = some '='

def isOpening (c : Char) : Bool := c = '(' || c = '[' || c = '{'

def closing (c : Char) : Char := if c = '(' then ')' else if c = '[' then ']' else '}'

/-- An expression up to what ends it, within the quotes and the brackets that are open. -/
def cutSource (quote : Option Text) (brackets : List Char) : Nat → Text → Except Complaint (Text × Text)
  | fuel + 1, c :: r =>
    let go := fun (quote : Option Text) (brackets : List Char) (n : Nat) =>
      (cutSource quote brackets fuel ((c :: r).drop n)).map fun (t, rest) => ((c :: r).take n ++ t, rest)
    if c = '\\' then .error (.fieldPart "a backslash")
    else match quote with
      | some q => if q.isPrefixOf (c :: r) then go none brackets q.length else go quote brackets 1
      | none =>
        if c = '\'' || c = '"' then
          let q := if [c, c].isPrefixOf r then [c, c, c] else [c]
          go (some q) brackets q.length
        else if isOpening c then go none (c :: brackets) 1
        else if c = '#' then .error (.fieldPart "'#'")
        else if brackets.isEmpty && isComparison c r then go none brackets 2
        else if brackets.isEmpty && ends c then .ok ([], c :: r)
        else if c = ')' || c = ']' || c = '}' then
          match brackets with
          | [] => .error (.inField (.unmatched c))
          | b :: outer =>
            if c = closing b then go none outer 1 else .error (.inField (.mismatched c b none))
        else go none brackets 1
  | _, t =>
    match quote, brackets with
    | some _, _ => .error (.inField (.malformed "unterminated string"))
    | none, b :: _ => .error (.inField (.unmatched b))
    | none, [] => .ok ([], t)

def isBlank (c : Char) : Bool := c = ' ' || c = '\t' || c = '\n' || c = '\x0c'

def isSpace (c : Char) : Bool := isBlank c || c = '\x0b' || c = '\r'

def conversion? (c : Char) : Option Conversion :=
  if c = 's' then some .plain
  else if c = 'r' then some .written
  else if c = 'a' then some .ascii
  else none

def unended : Complaint := .inField (.malformed "expecting '\x7d'")

/-- The pieces of a text of so many characters, as deep inside formats as `level` says. -/
def cut (raw : Bool) (size : Nat) : Nat → Nat → Text → Cut
  | 0, _, t => { pieces := [], rest := t }
  | fuel + 1, level, t =>
    let (literal, rest) := cutText raw (level = 0) t.length t
    let before := if literal.isEmpty then [] else [Piece.text literal]
    let fail := fun (ps : List Piece) (c : Complaint) => Cut.mk (before ++ ps) (some c) []
    match rest with
    | [] => { pieces := before }
    | '}' :: _ =>
      if level = 0 then fail [] (.inField (.malformed "single '\x7d' is not allowed"))
      else { pieces := before, rest }
    | _ :: r =>
      if level ≥ 2 then fail [] (.inField (.malformed "expressions nested too deeply"))
      else match cutSource none [] r.length r with
        | .error c => fail [] c
        | .ok (_, []) => fail [] unended
        | .ok (source, e :: r) =>
          if source.all isBlank then
            fail [] (.inField (if e = '}' then .malformed "empty expression not allowed"
              else .fieldWithout e))
          else
            let brace := size - rest.length
            let blanks := if e = '=' then r.takeWhile isSpace else []
            let shown := if e = '=' then source ++ '=' :: blanks else []
            let field := fun (c : Conversion) (format : List Piece) =>
              Piece.field source brace shown c format
            let r := if e = '=' then r.drop blanks.length else e :: r
            match takeConversion r with
            | .error c => fail [field .none []] c
            | .ok (c, ':' :: r) =>
              let inner := cut raw size fuel (level + 1) r
              let piece := field (c.getD .none) inner.pieces
              match inner.fault, inner.rest with
              | some f, _ => fail [piece] f
              | none, '}' :: r => more before piece (cut raw size fuel level r)
              | none, _ => fail [piece] unended
            | .ok (c, '}' :: r) =>
              let default := if shown.isEmpty then Conversion.none else .written
              more before (field (c.getD default) []) (cut raw size fuel level r)
            | .ok (_, _) => fail [field .none []] unended
where
  more (before : List Piece) (piece : Piece) (rest : Cut) : Cut :=
    { rest with pieces := before ++ piece :: rest.pieces }
  /-- A conversion behind an exclamation mark. -/
  takeConversion : Text → Except Complaint (Option Conversion × Text)
    | ['!'] => .error unended
    | '!' :: c :: r =>
      match conversion? c with
      | some k => .ok (some k, r)
      | none =>
        .error (.inField (.malformed "invalid conversion character: expected 's', 'r', or 'a'"))
    | r => .ok (none, r)

/-- The pieces of the inside of a text. -/
def ofInside (raw : Bool) (inside : Text) : Cut := cut raw inside.length (inside.length + 1) 0 inside

end Piece

end Weave.Program
