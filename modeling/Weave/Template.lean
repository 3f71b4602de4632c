import Weave.Template.Expression

/-!
# Templates

A template is text with variables to print, comments, and parts that are kept only if a variable has
a text. What is not bound counts as empty. A minus sign inside a delimiter strips the blanks on its
other side.
-/

set_option autoImplicit false

namespace Weave

/-- What encloses the tags of a template. -/
structure Delimiters where
  openBlock : Text
  closeBlock : Text
  openPrint : Text
  closePrint : Text
  openComment : Text
  closeComment : Text
  /-- Whether the newline directly behind a block or a comment belongs to it. -/
  trimBlocks : Bool

namespace Delimiters

/-- Content that is full of angle brackets is marked by doubled braces. -/
def doubled : Delimiters where
  openBlock := ['{', '%']
  closeBlock := ['%', '}']
  openPrint := ['{', '{']
  closePrint := ['}', '}']
  openComment := ['{', '#']
  closeComment := ['#', '}']
  trimBlocks := false

/-- Content that is full of braces is marked by commands. -/
def commands : Delimiters where
  openBlock := "\\BLOCK".toList ++ ['{']
  closeBlock := ['}']
  openPrint := "\\VAR".toList ++ ['{']
  closePrint := ['}']
  openComment := "\\#".toList ++ ['{']
  closeComment := ['}']
  trimBlocks := true

end Delimiters

namespace Template

inductive Part where
  | data (t : Text)
  | print (inside : List Lexeme)
  | block (inside : List Lexeme)

inductive Opening where
  | block
  | print
  | comment
deriving DecidableEq, Repr

def opening? (d : Delimiters) (t : Text) : Option (Opening × Text) :=
  match Text.after? d.openComment t, Text.after? d.openBlock t, Text.after? d.openPrint t with
  | some r, _, _ => some (.comment, r)
  | none, some r, _ => some (.block, r)
  | none, none, some r => some (.print, r)
  | none, none, none => none

/-- The text in front of the next tag, and the tag's kind with what follows its delimiter. -/
def untilTag (d : Delimiters) : Text → Text × Option (Opening × Text)
  | [] => ([], none)
  | c :: r =>
    match opening? d (c :: r) with
    | some o => ([], some o)
    | none =>
      let (data, tag) := untilTag d r
      (c :: data, tag)

/-- What follows the closing delimiter at the front of a text. A plus sign keeps the newline. -/
def close? (closing : Text) (plus trim : Bool) (t : Text) : Option Text :=
  match Text.after? ('-' :: closing) t, Text.after? ('+' :: closing) t, Text.after? closing t with
  | some r, _, _ => some (Text.trimStart r)
  | none, some r, plain => if plus then some r else plain
  | none, none, some ('\n' :: r) => some (if trim then r else '\n' :: r)
  | none, none, r => r

/-- How a lexeme changes the number of open brackets. -/
def depthBehind (depth : Nat) : Lexeme → Nat
  | l =>
    if l.isOperator "(" || l.isOperator "[" || l.isOperator "\x7b" then depth + 1
    else if l.isOperator ")" || l.isOperator "]" || l.isOperator "\x7d" then depth - 1
    else depth

/-- The lexemes of a tag up to its closing delimiter, which counts outside of brackets only, and what
follows that. -/
def lexemes (close : Text → Option Text) : Nat → Nat → Text → Option (List Lexeme × Text)
  | 0, _, _ => none
  | fuel + 1, depth, t =>
    match if depth = 0 then close t else none with
    | some rest => some ([], rest)
    | none =>
      match t with
      | [] => none
      | c :: r =>
        if Text.isBlank c then lexemes close fuel depth r
        else do
          let (l, r) ← lexeme? t
          let (ls, rest) ← lexemes close fuel (depthBehind depth l) r
          some (l :: ls, rest)

/-- What follows the end of a comment; one that starts at the end of the template needs none. -/
def skipComment (close : Text → Option Text) : Text → Option Text
  | [] => some []
  | t => go t
where
  go : Text → Option Text
    | [] => none
    | c :: r =>
      match close (c :: r) with
      | some rest => some rest
      | none => go r

/-- The text up to the end of a part that is not read, whether blanks before that end are dropped, and
what follows it. -/
def untilRawEnd (d : Delimiters) : Text → Option (Text × Bool × Text)
  | [] => none
  | c :: r =>
    let ending := do
      let t ← Text.after? d.openBlock (c :: r)
      let (strip, t) := match t with
        | '-' :: t => (true, t)
        | '+' :: t => (false, t)
        | t => (false, t)
      let t ← Text.after? "endraw".toList (Text.trimStart t)
      let rest ← close? d.closeBlock true d.trimBlocks (Text.trimStart t)
      some (strip, rest)
    match ending with
    | some (strip, rest) => some ([], strip, rest)
    | none => (untilRawEnd d r).map fun (t, ending) => (c :: t, ending)

/-- What follows the start of a part that is not read. -/
def rawStart? (d : Delimiters) (t : Text) : Option Text := do
  let t ← Text.after? "raw".toList (Text.trimStart t)
  let t := Text.trimStart t
  match Text.after? ('-' :: d.closeBlock) t with
  | some r => some (Text.trimStart r)
  | none => Text.after? d.closeBlock t

/-- The parts of a template, as far as its tags are closed. -/
def parts (d : Delimiters) : Nat → Text → Option (List Part)
  | 0, _ => none
  | fuel + 1, t =>
    let (data, tag) := untilTag d t
    match tag with
    | none => some [.data data]
    | some (o, rest) =>
      let (data, rest) := match rest with
        | '-' :: r => (Text.trimEnd data, r)
        | '+' :: r => (data, r)
        | r => (data, r)
      match o with
      | .comment => do
        let rest ← skipComment (close? d.closeComment true d.trimBlocks) rest
        let ps ← parts d fuel rest
        some (.data data :: ps)
      | .block =>
        match rawStart? d rest with
        | some rest => do
          let (raw, strip, rest) ← untilRawEnd d rest
          let ps ← parts d fuel rest
          some (.data data :: .data (if strip then Text.trimEnd raw else raw) :: ps)
        | none => do
          let (ws, rest) ← lexemes (close? d.closeBlock true d.trimBlocks) (rest.length + 1) 0 rest
          let ps ← parts d fuel rest
          some (.data data :: .block ws :: ps)
      | .print => do
        let (ws, rest) ← lexemes (close? d.closePrint false false) (rest.length + 1) 0 rest
        let ps ← parts d fuel rest
        some (.data data :: .print ws :: ps)

/-- What the lexemes of an expression stand for. -/
def datum? (bound : Text → Option Text) (ls : List Lexeme) : Option Datum :=
  (expression? ls).bind (Expression.value? bound)

/-- A conditional part that has been opened. -/
structure Frame where
  /-- Whether what surrounds it is kept. -/
  outer : Bool
  /-- Whether one of its branches has been kept. -/
  taken : Bool
  kept : Bool
  last : Bool

def keeps : List Frame → Bool
  | [] => true
  | f :: _ => f.kept

/-- The text of the remaining parts inside these conditional parts. -/
def renderFrom (bound : Text → Option Text) : List Frame → List Part → Option Text
  | [], [] => some []
  | _ :: _, [] => none
  | fs, .data t :: ps =>
    (renderFrom bound fs ps).map fun r => if keeps fs then t ++ r else r
  | fs, .print ws :: ps => do
    let o ← datum? bound ws
    let r ← renderFrom bound fs ps
    some (if keeps fs then o.written ++ r else r)
  | fs, .block ws :: ps =>
    match ws, fs with
    | w :: condition, fs =>
      if w.isWord "if" then do
        let o ← datum? bound condition
        let outer := keeps fs
        renderFrom bound (⟨outer, o.isTrue, outer && o.isTrue, false⟩ :: fs) ps
      else
        match fs with
        | [] => none
        | f :: fs =>
          if w.isWord "elif" && !f.last then do
            let o ← datum? bound condition
            let kept := f.outer && !f.taken && o.isTrue
            renderFrom bound (⟨f.outer, f.taken || o.isTrue, kept, false⟩ :: fs) ps
          else if w.isWord "else" && condition.isEmpty && !f.last then
            renderFrom bound (⟨f.outer, true, f.outer && !f.taken, true⟩ :: fs) ps
          else if w.isWord "endif" && condition.isEmpty then renderFrom bound fs ps
          else none
    | [], _ => none

/-- Line ends become newlines, and the last one is dropped. -/
def normalize (source : Text) : Text :=
  let t := Text.unifyNewlines source
  if t.getLast? = some '\n' then t.dropLast else t

/-- Fills in a template, unless its tags are wrong. -/
def render (d : Delimiters) (bound : Text → Option Text) (source : Text) : Option Text :=
  let t := normalize source
  (parts d (t.length + 1) t).bind (renderFrom bound [])

end Template

end Weave
