import Weave.Text
import Weave.Unicode.Alphanumeric

/-!
# Emphasis

Runs of a mark around a text emphasise it. A run may open where a text follows it and may close where
one comes before it; underscores do neither inside a word. A run that closes takes the nearest run
that it goes with, two marks from each for strong emphasis and else one, and what stays unmatched is
text.
-/

set_option autoImplicit false

namespace Weave.Markdown.Emphasis

inductive Piece where
  | text (t : Text)
  | emphasised (strong : Bool) (inside : List Piece)
deriving Inhabited

/-- A run of marks, of which `left` have not been used. -/
structure Run where
  size : Nat
  left : Nat
  opens : Bool
  closes : Bool
deriving DecidableEq, Repr, Inhabited

def Run.text (c : Char) (r : Run) : Text := List.replicate r.left c

/-- Whether the runs go together: if one of them could both open and close, their sizes must not add
up to a multiple of three, unless both are one. -/
def Run.goWith (opener closer : Run) : Bool :=
  opener.opens && closer.closes &&
    (!(opener.closes || closer.opens) || (opener.size + closer.size) % 3 != 0
      || (opener.size % 3 == 0 && closer.size % 3 == 0))

/-- How many marks are used at once when so many are left. -/
def used (m n : Nat) : Nat :=
  if m ≤ 1 || n ≤ 1 || (m == 3 && n == 3) then 1 else 2

theorem used_pos (m n : Nat) : 0 < used m n := by
  unfold used; split <;> decide

/-- What has been read so far, latest first: runs that may still be used, and the pieces between. -/
inductive Item where
  | piece (p : Piece)
  | run (r : Run)
deriving Inhabited

def Item.toPiece (c : Char) : Item → Piece
  | .piece p => p
  | .run r => .text (r.text c)

/-- The nearest run that goes with one that closes, with what is above and below it. -/
def opener? (closer : Run) : List Item → Option (List Item × Run × List Item)
  | [] => none
  | .run r :: below =>
    if r.goWith closer then some ([], r, below)
    else (opener? closer below).map fun (above, o, b) => (.run r :: above, o, b)
  | .piece p :: below => (opener? closer below).map fun (above, o, b) => (.piece p :: above, o, b)

/-- Closes what a run closes and keeps the rest of it. -/
def close (c : Char) (closer : Run) (stack : List Item) : List Item :=
  if closer.left = 0 then stack
  else match opener? closer stack with
    | none => .run closer :: stack
    | some (above, o, below) =>
      let n := used o.left closer.left
      let inside := (above.map (Item.toPiece c)).reverse
      let below := if o.left ≤ n then below else .run { o with left := o.left - n } :: below
      close c { closer with left := closer.left - n } (.piece (.emphasised (n = 2) inside) :: below)
termination_by closer.left
decreasing_by
  have := used_pos o.left closer.left
  simp_wf
  omega

/-- What a run between two characters may do. -/
def runBetween (c : Char) (n : Nat) (before after : Option Char) : Run :=
  let isText := fun (o : Option Char) => o.any fun c => !Text.isBlank c
  let isWord := fun (o : Option Char) => o.any Unicode.isWordChar
  { size := n, left := n,
    opens := isText after && !(c == '_' && isWord before),
    closes := isText before && !(c == '_' && isWord after) }

def read (c : Char) (before : Option Char) (stack : List Item) (t : Text) : List Item :=
  match t with
  | [] => stack
  | x :: r =>
    if x = c then
      let n := (r.takeWhile (· == c)).length
      let rest := r.drop n
      read c (some c) (close c (runBetween c (n + 1) before rest.head?) stack) rest
    else
      let n := (r.takeWhile (· != c)).length
      let plain := x :: r.take n
      read c plain.getLast? (.piece (.text plain) :: stack) (r.drop n)
termination_by t.length
decreasing_by
  · exact Nat.lt_succ_of_le (List.drop_sublist _ _).length_le
  · exact Nat.lt_succ_of_le (List.drop_sublist _ _).length_le

def pieces (c : Char) (t : Text) : List Piece :=
  ((read c none [] t).map (Item.toPiece c)).reverse

end Weave.Markdown.Emphasis
