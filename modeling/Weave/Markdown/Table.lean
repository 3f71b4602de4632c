import Weave.Markdown.Element

/-!
# Markdown tables

A row of headings, a row of dashes that may show alignments, and rows of cells. Bars inside code and
behind a backslash do not separate cells.
-/

set_option autoImplicit false

namespace Weave.Markdown.Table

/-- A run of backticks: its position, its length, and whether a backslash stands in front of it. -/
structure Ticks where
  start : Nat
  length : Nat
  escaped : Bool

/-- The runs of backticks and the bars of a row. -/
def scan : Nat → Nat → Text → List Ticks × List Nat
  | 0, _, _ => ([], [])
  | _ + 1, _, [] => ([], [])
  | fuel + 1, i, c :: r =>
    let ticksAt := fun (t : Text) => (t.takeWhile (· == '\x60')).length
    if c = '\\' then
      let n := ticksAt r
      if r.head? = some '\\' then scan fuel (i + 2) (r.drop 1)
      else if n > 0 then
        let (ts, bs) := scan fuel (i + 1 + n) (r.drop n)
        (⟨i, n, true⟩ :: ts, bs)
      else if r.head? = some '|' then scan fuel (i + 2) (r.drop 1)
      else scan fuel (i + 1) r
    else if c = '\x60' then
      let n := ticksAt (c :: r)
      let (ts, bs) := scan fuel (i + n) ((c :: r).drop n)
      (⟨i, n, false⟩ :: ts, bs)
    else
      let (ts, bs) := scan fuel (i + 1) r
      (ts, if c = '|' then i :: bs else bs)

/-- The stretches between runs of backticks of equal length. One backtick fewer of an escaped run can
open a stretch. -/
def regions : Nat → List Ticks → List (Nat × Nat)
  | 0, _ => []
  | _ + 1, [] => []
  | fuel + 1, t :: ts =>
    let size := if t.escaped then t.length - 1 else t.length
    if size = 0 then regions fuel ts
    else
      let i := ts.findIdx fun u => u.length = size
      match ts.drop i with
      | [] => regions fuel ts
      | u :: rest =>
        (t.start, u.start + u.length - (if u.escaped then 0 else 1)) :: regions fuel rest

def cutAt (t : Text) : Nat → List Nat → List Text
  | pos, [] => [t.drop pos]
  | pos, b :: bs => (t.take b).drop pos :: cutAt t (b + 1) bs

def split (row : Text) : List Text :=
  let (ticks, bars) := scan (row.length + 1) 0 row
  let code := regions (ticks.length + 1) ticks
  cutAt row 0 (bars.filter fun b => !code.any fun r => r.1 ≤ b && b ≤ r.2)

/-- Whether a row ends in a bar without a backslash that counts in front of it. -/
def endsInBar (row : Text) : Bool :=
  match row.reverse with
  | '|' :: r => (r.takeWhile (· == '\\')).length % 2 = 0
  | _ => false

def startsWithBar (row : Text) : Bool := row.head? = some '|'

/-- The cells of a row; bars at its ends count only if the headings have one. -/
def cells (border : Bool) (row : Text) : List Text :=
  if border then
    let row := if startsWithBar row then row.drop 1 else row
    let row := if endsInBar row then row.dropLast else row
    split row
  else split row

def trimSpaces (t : Text) : Text := Text.trimWhile (· == ' ') t

/-- Whether the headings have a bar at an end, and the cells of the row of dashes. -/
def separator? (lines : List Text) : Option (Bool × List Text) :=
  match lines.map trimSpaces with
  | header :: dashes :: rows =>
    let border := startsWithBar header || endsInBar header
    let width := (cells border header).length
    let barred := fun (row : Text) => startsWithBar row || endsInBar row
    if width > 1 || (width = 1 && border && (dashes :: rows).all barred) then
      let row := cells border dashes
      if row.length = width && row.all fun c => c.all fun c => "|:- ".toList.contains c
      then some (border, row) else none
    else none
  | _ => none

def alignment? (dashes : Text) : Option Text :=
  let t := trimSpaces dashes
  let left := t.head? = some ':'
  let right := t.getLast? = some ':'
  if left && right then some "center".toList
  else if left then some "left".toList
  else if right then some "right".toList
  else none

def row (tag : String) (border : Bool) (aligns : List (Option Text)) (t : Text) : Element :=
  let texts := (cells border t).map trimSpaces
  let cell := fun (a : Option Text) (t : Text) =>
    { Element.named tag with
      text := t
      attributes := match a with
        | some a => [("style".toList, "text-align: ".toList ++ a ++ [';'])]
        | none => [] }
  { Element.named "tr" with
    children := List.zipWith cell aligns
      (texts ++ List.replicate (aligns.length - texts.length) []) }

/-- The table that a block is, if it is one. -/
def ofLines? (lines : List Text) : Option Element :=
  (separator? lines).map fun (border, dashes) =>
    let aligns := dashes.map alignment?
    let head := { Element.named "thead" with
      children := [row "th" border aligns (trimSpaces (lines.headD []))] }
    let rows := match lines.drop 2 with
      | [] => [{ Element.named "tr" with children := aligns.map fun _ => Element.named "td" }]
      | ls => ls.map fun l => row "td" border aligns (trimSpaces l)
    { Element.named "table" with
      children := [head, { Element.named "tbody" with children := rows }] }

end Weave.Markdown.Table
