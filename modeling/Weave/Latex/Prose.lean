import Weave.Latex.Escape

/-!
# Prose in LaTeX

The Markdown of a document's prose as far as LaTeX output knows it: headings of three levels, bullet
lists, cutFence listings, and code, bold and emphasis inside a line. Everything else is paragraph text.
-/

set_option autoImplicit false

namespace Weave.Latex

/-! ### Inside a line -/

inductive Span where
  | plain (t : Text)
  | code (t : Text)
  | strong (t : Text)
  | emphasis (t : Text)
deriving DecidableEq, Repr

/-- The characters in front of the next mark, if there are any and the text behind them starts with
`closing`. -/
def enclosed? (mark : Char) (closing t : Text) : Option (Text × Text) :=
  let inner := t.takeWhile (· ≠ mark)
  if inner.isEmpty then none
  else (Text.after? closing (t.dropWhile (· ≠ mark))).map fun rest => (inner, rest)

/-- The marked span at the front of a text, and what follows it. -/
def span? : Text → Option (Span × Text)
  | '\x60' :: r => (enclosed? '\x60' ['\x60'] r).map fun (t, rest) => (.code t, rest)
  | '*' :: '*' :: r => (enclosed? '*' ['*', '*'] r).map fun (t, rest) => (.strong t, rest)
  | '*' :: r => (enclosed? '*' ['*'] r).map fun (t, rest) => (.emphasis t, rest)
  | _ => none

theorem after?_length_le {start t rest : Text} (h : Text.after? start t = some rest) :
    rest.length ≤ t.length := by
  induction start generalizing t with
  | nil => simp [Text.after?] at h; simp [h]
  | cons s ss ih =>
    cases t with
    | nil => simp [Text.after?] at h
    | cons c r =>
      simp only [Text.after?] at h
      split at h
      · exact Nat.le_succ_of_le (ih h)
      · simp at h

theorem enclosed?_length_le {mark : Char} {closing t inner rest : Text}
    (h : enclosed? mark closing t = some (inner, rest)) : rest.length ≤ t.length := by
  unfold enclosed? at h
  dsimp only at h
  split at h
  · simp at h
  · simp only [Option.map_eq_some_iff, Prod.mk.injEq] at h
    obtain ⟨_, ha, -, rfl⟩ := h
    exact Nat.le_trans (after?_length_le ha) (List.dropWhile_sublist _).length_le

theorem span?_length_lt {t rest : Text} {s : Span} (h : span? t = some (s, rest)) :
    rest.length < t.length := by
  unfold span? at h
  split at h <;> simp only [Option.map_eq_some_iff, Prod.mk.injEq, reduceCtorEq] at h
  all_goals
    obtain ⟨⟨u, v⟩, he, -, rfl⟩ := h
    have := enclosed?_length_le he
    simp only [List.length_cons]
    omega

/-- Adds a character to the plain span at the front, or puts a new one there. -/
def addPlain (c : Char) : List Span → List Span
  | .plain t :: ss => .plain (c :: t) :: ss
  | ss => .plain [c] :: ss

def spans (t : Text) : List Span :=
  match _h : span? t with
  | some (s, rest) => s :: spans rest
  | none =>
    match t with
    | [] => []
    | c :: r => addPlain c (spans r)
termination_by t.length
decreasing_by
  · exact span?_length_lt _h
  · simp

def Span.write : Span → Text
  | .plain t => escape t
  | .code t => apply "texttt" (escape t)
  | .strong t => apply "textbf" (escape t)
  | .emphasis t => apply "emph" (escape t)

def inline (t : Text) : Text := (spans t).flatMap Span.write

/-! ### Lines -/

inductive Line where
  | fence
  | heading (level : Nat) (title : Text)
  | item (t : Text)
  | blank
  | paragraph (t : Text)
deriving DecidableEq, Repr

def fenceMark : Text := ['\x60', '\x60', '\x60']

/-- The title behind one to three hash marks and a blank. -/
def heading? (t : Text) : Option (Nat × Text) :=
  let level := (t.takeWhile (· == '#')).length
  match t.drop level with
  | c :: r =>
    if 1 ≤ level && level ≤ 3 && Text.isBlank c then some (level, Text.trimStart r) else none
  | [] => none

def item? (t : Text) : Option Text :=
  match Text.trimStart t with
  | b :: c :: r =>
    if (b = '-' || b = '*' || b = '+') && Text.isBlank c then some (Text.trimStart r) else none
  | _ => none

def classify (t : Text) : Line :=
  if Text.startsWith t fenceMark then .fence
  else match heading? t with
    | some (level, title) => .heading level title
    | none =>
      match item? t with
      | some i => .item i
      | none => if Text.isBlankText t then .blank else .paragraph (Text.trim t)

/-- What becomes one piece of the output. -/
inductive Piece where
  | heading (level : Nat) (title : Text)
  | paragraph (lines : List Text)
  | items (items : List Text)
  | listing (lines : List Text)
deriving DecidableEq, Repr

/-- The lines up to the one that closes the fence, and those behind it. -/
def cutFence : List Text → List Text × List Text
  | [] => ([], [])
  | t :: ts =>
    if Text.startsWith t fenceMark then ([], ts)
    else (t :: (cutFence ts).1, (cutFence ts).2)

theorem length_cutFence_le (ts : List Text) : (cutFence ts).2.length ≤ ts.length := by
  induction ts with
  | nil => simp [cutFence]
  | cons t ts ih =>
    rw [cutFence]
    split
    · simp
    · simpa using Nat.le_succ_of_le ih

/-- Prose in the middle of its lines: the pieces so far, and the lines of a paragraph and the items of a
list that are held back. -/
structure Draft where
  pieces : List Piece := []
  paragraph : List Text := []
  items : List Text := []
deriving DecidableEq, Repr

namespace Draft

def flush (d : Draft) : Draft :=
  let d := if d.paragraph.isEmpty then d
    else { d with pieces := d.pieces ++ [.paragraph d.paragraph], paragraph := [] }
  if d.items.isEmpty then d
  else { d with pieces := d.pieces ++ [.items d.items], items := [] }

def add (d : Draft) (p : Piece) : Draft := { d with pieces := d.pieces ++ [p] }

def addItem (d : Draft) (i : Text) : Draft :=
  let d := if d.paragraph.isEmpty then d else d.flush
  { d with items := d.items ++ [i] }

def addParagraph (d : Draft) (p : Text) : Draft :=
  let d := if d.items.isEmpty then d else d.flush
  { d with paragraph := d.paragraph ++ [p] }

/-- Reads a line in front of others, and leaves those that are still to be read. The lines of a fence are
read at once. -/
def addLine (d : Draft) (t : Text) (ts : List Text) : Draft × List Text :=
  match classify t with
  | .fence => (d.flush.add (.listing (cutFence ts).1), (cutFence ts).2)
  | .heading level title => (d.flush.add (.heading level title), ts)
  | .item i => (d.addItem i, ts)
  | .blank => (d.flush, ts)
  | .paragraph p => (d.addParagraph p, ts)

theorem length_addLine_le (d : Draft) (t : Text) (ts : List Text) :
    (d.addLine t ts).2.length ≤ ts.length := by
  unfold addLine
  split
  · exact length_cutFence_le ts
  all_goals exact Nat.le_refl _

/-- The pieces of the remaining lines behind those so far. -/
def finish (d : Draft) : List Text → List Piece
  | [] => d.flush.pieces
  | t :: ts => (d.addLine t ts).1.finish (d.addLine t ts).2
termination_by ts => ts.length
decreasing_by exact Nat.lt_succ_of_le (length_addLine_le d t ts)

end Draft

def sectionCommand (level : Nat) : String :=
  if level = 1 then "section" else if level = 2 then "subsection" else "subsubsection"

def Piece.write : Piece → Text
  | .heading level title => apply (sectionCommand level) (inline title)
  | .paragraph lines => inline (Text.join [' '] lines)
  | .items xs =>
    environment "itemize"
      (Text.join ['\n'] (xs.map fun i => "  \\item ".toList ++ inline i))
  | .listing lines => environment "verbatim" (Text.join ['\n'] lines)

def pieces (t : Text) : List Piece := Draft.finish {} (Text.lines t)

def prose (t : Text) : Text := Text.join ['\n', '\n'] ((pieces t).map Piece.write)

end Weave.Latex
