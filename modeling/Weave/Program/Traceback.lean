import Weave.Program.Machine
import Weave.Program.Reading

/-!
# Tracebacks

How a failure is shown: the routines that had not ended, each with its line of the source, and below
the line marks under the piece that failed, unless that piece is the whole line.
-/

set_option autoImplicit false

namespace Weave.Program

namespace Traceback

/-- What of a marked piece stands in front of its operator, and what up to the end of it. -/
structure Anchors where
  left : Nat
  right : Nat
deriving DecidableEq, Repr, Inhabited

/-- How many characters so many bytes reach into. -/
def charactersIn (bytes : Nat) : Text → Nat
  | [] => 0
  | c :: r => if bytes = 0 then 0 else charactersIn (bytes - c.utf8Size) r + 1

/-- The operator of a binary operation, of one or two characters behind the first blanks that follow the
left operand. A parenthesis around an operand counts as part of the operator. The place is found by
counting bytes. -/
def operatorAnchors (piece : Text) (left right : Span) : Anchors :=
  let between := (piece.take right.start.column).drop left.stop.column
  let blanks := (between.takeWhile Text.isBlank).length
  let first := Text.byteCount (piece.take left.stop.column) + blanks
  let width := match between.drop (blanks + 1) with
    | c :: _ => if Text.isBlank c then 1 else 2
    | [] => 1
  ⟨charactersIn first piece, charactersIn (first + width) piece⟩

/-- The brackets of a subscript, from behind the value to the first byte behind the index. -/
def bracketAnchors (piece : Text) (value index : Span) : Anchors :=
  ⟨value.stop.column, charactersIn (Text.byteCount (piece.take index.stop.column) + 1) piece⟩

/-- What to mark in another way within a piece that is an operation of its own. -/
def anchors? (piece : Text) : Option Anchors :=
  match readStatements piece with
  | .ok [.expr _ (.binary _ _ l r)] => some (operatorAnchors piece l.span r.span)
  | .ok [.expr _ (.subscript _ e i)] => some (bracketAnchors piece e.span i.span)
  | _ => none

/-- The place in a line that has as many bytes in front of it as a column has in the line that was
read. -/
def columnIn (line read : Text) (column : Nat) : Nat :=
  charactersIn (Text.byteCount (read.take column)) line

/-- The marks below a line, which ends as it does in its source, for a piece of what was read. A piece
that goes on in the next line is marked up to the character that ends this one. -/
def marks? (line read : Text) (s : Span) : Option Text :=
  let shown := Text.trim line
  let onLine := s.start.line = s.stop.line
  let start := columnIn line read s.start.column
  let stop := if onLine then columnIn line read s.stop.column else line.length - 1
  let piece := (line.take stop).drop start
  let anchors := if onLine then anchors? piece else none
  if stop < start + shown.length || anchors.any fun a => a.left < a.right then
    let indent := start + 1 - (line.length - shown.length)
    let width := stop - start
    let mark := fun n c => List.replicate n c
    let under := match anchors with
      | none => mark width '^'
      | some a => mark a.left '~' ++ mark (a.right - a.left) '^' ++ mark (width - a.right) '~'
    some (Text.spaces indent ++ under)
  else none

def indented (t : Text) : Text := Text.spaces 4 ++ t ++ ['\n']

/-- A routine that had not ended, with its line if that is known and not blank. -/
def frame (listings : Dictionary Listing) (f : Frame) : Text :=
  let listing := (listings.get? f.source).getD ⟨[], []⟩
  let line := (listing.shown[f.span.start.line - 1]?).getD []
  let read := (listing.read[f.span.start.line - 1]?).getD line
  "  File \"".toList ++ f.source ++ "\", line ".toList ++ Text.ofNat f.span.start.line
    ++ ", in ".toList ++ f.routine ++ ['\n']
    ++ if Text.isBlankText line then []
      else indented (Text.trim line) ++ ((marks? line read f.span).map indented).getD []

def sameLine (a b : Frame) : Bool :=
  a.source = b.source && a.routine = b.routine && a.span.start.line = b.span.start.line

/-- Of routines at the same line only the first three are shown. -/
def repeated (listings : Dictionary Listing) (fs : List Frame) : Text :=
  let more := fs.length - 3
  (fs.take 3).flatMap (frame listings) ++
    if more = 0 then []
    else "  [Previous line repeated ".toList ++ Text.ofNat more ++ " more time".toList
      ++ (if more = 1 then [] else ['s']) ++ "]\n".toList

/-- An exception and the routines it has left, the outermost first. -/
def ofException (listings : Dictionary Listing) (e : Exception) (trace : List Frame) : Text :=
  (if trace.isEmpty then []
    else "Traceback (most recent call last):\n".toList
      ++ (trace.splitBy sameLine).flatMap (repeated listings))
    ++ e.line ++ ['\n']

end Traceback

/-! ### Programs that cannot be read -/

namespace Traceback

/-- The marks from one column up to another, counted from one on, below a line that is shown without so
many characters in front. -/
def columnMarks (shown : Text) (left : Nat) (column endColumn : Int) : Text :=
  let stop := if endColumn = 0 || endColumn = column || endColumn = -1 then column + 1 else endColumn
  let first := column - 1 - left
  if first < 0 then []
  else indented ((shown.take first.toNat).map (fun c => if Text.isBlank c then c else ' ')
    ++ List.replicate (stop - column).toNat '^')

def unreadLine (text : Text) (column endColumn : Int) : Text :=
  let whole := Text.dropEndWhile (· = '\n') text
  let shown := whole.dropWhile fun c => c = ' ' || c = '\n' || c = '\x0c'
  indented shown ++ columnMarks shown (whole.length - shown.length) column endColumn

/-- An exception that says what cannot be read. Its place is that of a routine without a name, if it does
not hold it. -/
def ofReading (e : Exception) (trace : List Frame) : Text :=
  let at_ := fun (source : Text) (line : Int) =>
    "  File \"".toList ++ source ++ "\", line ".toList ++ Text.ofInt line ++ ['\n']
  let place := match e.args with
    | [_, .tuple [.str source, .int line, .int column, .str text, .int _, .int endColumn]] =>
      at_ source line ++ unreadLine text column endColumn
    | [_, .tuple (.str source :: .int line :: _)] => at_ source line
    | _ => trace.flatMap fun f =>
      if f.routine.isEmpty then at_ f.source f.span.start.line else []
  let reason := match e.args with
    | [] => "<no detail available>".toList
    | v :: _ => if v.truth then v.plain else "<no detail available>".toList
  place ++ e.kind ++ ": ".toList ++ reason ++ ['\n']

/-- What is raised when the end is to be cut off a line that is no text. -/
def lineFault? : Value → Option Exception
  | .none | .str _ => none
  | .bytes _ => some (.ofMessage "TypeError" "a bytes-like object is required, not 'str'".toList)
  | v => some (.ofMessage "AttributeError"
      ('\'' :: v.className ++ "' object has no attribute 'rstrip'".toList))

/-- What is raised when an exception is to be shown that has been made with something else in the
place of the line that cannot be read. -/
def unshowable? (e : Exception) : Option Exception :=
  match e.args with
  | [_, .tuple (_ :: _ :: _ :: line :: _)] =>
    if Exception.isKind "SyntaxError" e.kind then lineFault? line else none
  | _ => none

/-- How a failure of the snippet with this source is shown, from its own routine on. -/
def ofFailure (listings : Dictionary Listing) (source : Text) (e : Exception)
    (trace : List Frame) : Text :=
  if Exception.isKind "SyntaxError" e.kind then ofReading e trace
  else ofException listings e (trace.dropWhile fun f => f.source ≠ source)

end Traceback

end Weave.Program
