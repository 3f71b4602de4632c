import Weave.Text

/-!
# Tables of characters

Sets of characters as sorted ranges, mappings as sorted stretches, and tables that are written as
hexadecimal numbers with blanks between them and a semicolon behind every entry.
-/

set_option autoImplicit false

namespace Weave.Unicode

/-! ### Ranges -/

/-- Binary search between `lo` and `hi` for a range that holds `n`. -/
def searchRanges (rs : Array (Nat × Nat)) (n lo hi : Nat) : Bool :=
  if _h : lo < hi then
    let mid := (lo + hi) / 2
    match rs[mid]? with
    | none => false
    | some (a, b) =>
      if n < a then searchRanges rs n lo mid
      else if b < n then searchRanges rs n (mid + 1) hi
      else true
  else false
termination_by hi - lo

/-- Membership in a union of ranges that are sorted and do not meet. -/
def inRanges (rs : Array (Nat × Nat)) (n : Nat) : Bool :=
  searchRanges rs n 0 rs.size

/-! ### Stretches -/

/-- The characters from `first` to `last`, every `step`-th of them, and the image of the first; the
others follow it at the same distances. -/
structure Stretch where
  first : Nat
  last : Nat
  step : Nat
  image : Nat
deriving DecidableEq, Repr, Inhabited

/-- Binary search between `lo` and `hi` for the stretch that holds `n`. -/
def searchStretches (ss : Array Stretch) (n lo hi : Nat) : Option Stretch :=
  if _h : lo < hi then
    let mid := (lo + hi) / 2
    match ss[mid]? with
    | none => none
    | some s =>
      if n < s.first then searchStretches ss n lo mid
      else if s.last < n then searchStretches ss n (mid + 1) hi
      else if (n - s.first) % s.step = 0 then some s else none
  else none
termination_by hi - lo

/-- The image of a character, which is itself outside of the stretches. -/
def mapped (ss : Array Stretch) (c : Char) : Char :=
  match searchStretches ss c.toNat 0 ss.size with
  | some s => Char.ofNat (s.image + (c.toNat - s.first))
  | none => c

/-! ### Written tables -/

def hexDigit (c : Char) : Nat :=
  if c.isDigit then c.toNat - '0'.toNat else c.toNat - 'a'.toNat + 10

/-- The entries of a table, from the number, the entry and the table that have been read so far. -/
def entriesFrom (n : Nat) (entry : List Nat) (table : List (List Nat)) : List Char → List (List Nat)
  | [] => table.reverse
  | c :: r =>
    if c = ';' then entriesFrom 0 [] ((n :: entry).reverse :: table) r
    else if c = ' ' then entriesFrom 0 (n :: entry) table r
    else entriesFrom (16 * n + hexDigit c) entry table r

def entries (lines : List String) : List (List Nat) :=
  entriesFrom 0 [] [] (lines.flatMap String.toList)

example : entries ["a 1f;b", " 2;"] = [[10, 31], [11, 2]] := by decide

end Weave.Unicode
