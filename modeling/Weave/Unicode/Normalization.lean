import Weave.Unicode.Composition
import Weave.Unicode.Variant

/-!
# Normalization of names

Names that differ only in variants of characters, or in how letters with marks are put together, are
one name: every variant is replaced by what it stands for, the marks behind a letter are put in order,
and letters are composed with their marks as far as possible.
-/

set_option autoImplicit false

namespace Weave.Unicode

/-! ### Syllables -/

def syllableBase : Nat := 0xac00
def leadBase : Nat := 0x1100
def vowelBase : Nat := 0x1161
def tailBase : Nat := 0x11a7
def vowelCount : Nat := 21
def tailCount : Nat := 28
def leadCount : Nat := 19

/-- The letters of a syllable; the last one may be missing. -/
def syllable? (n : Nat) : Option (List Nat) :=
  let k := n - syllableBase
  if n < syllableBase || k ≥ leadCount * vowelCount * tailCount then none
  else
    let tail := k % tailCount
    some ([leadBase + k / (vowelCount * tailCount), vowelBase + k / tailCount % vowelCount]
      ++ if tail = 0 then [] else [tailBase + tail])

/-- A syllable of two letters, or one to which a last letter is added. -/
def composedSyllable? (a b : Nat) : Option Nat :=
  if leadBase ≤ a && a < leadBase + leadCount && vowelBase ≤ b && b < vowelBase + vowelCount then
    some (syllableBase + ((a - leadBase) * vowelCount + (b - vowelBase)) * tailCount)
  else if tailBase < b && b < tailBase + tailCount && syllableBase ≤ a
      && a < syllableBase + leadCount * vowelCount * tailCount
      && (a - syllableBase) % tailCount = 0 then
    some (a + (b - tailBase))
  else none

/-! ### Decomposition -/

def decomposed (n : Nat) : List Nat :=
  if n < 0x80 then [n] else ((syllable? n).or (variant? n)).getD [n]

/-- Puts a mark behind all that are not of a higher class. The marks are given from the last one on. -/
def insertMark (m : Nat × Nat) : List (Nat × Nat) → List (Nat × Nat)
  | [] => [m]
  | x :: xs => if m.2 ≠ 0 && x.2 > m.2 then x :: insertMark m xs else m :: x :: xs

/-- Characters with their classes, marks in the order of these. -/
def ordered (ns : List Nat) : List (Nat × Nat) :=
  (ns.foldl (fun acc n => insertMark (n, markClass n) acc) []).reverse

/-! ### Composition -/

def composition? (a b : Nat) : Option Nat := (composedSyllable? a b).or (listedComposition? a b)

/-- A letter with the marks behind it that it is not composed with, the last one first. -/
structure Cluster where
  letter : Nat
  marks : List (Nat × Nat) := []
deriving DecidableEq, Repr

namespace Cluster

def codes (c : Cluster) : List Nat := c.letter :: (c.marks.reverse.map Prod.fst)

/-- Whether nothing of the same or of a higher class stands between the letter and a character. -/
def reaches (c : Cluster) (k : Nat) : Bool :=
  match c.marks with
  | [] => true
  | m :: _ => m.2 ≠ 0 && m.2 < k

/-- A character meets a cluster: it joins the letter, or it stands behind it, or it begins another. -/
def meet (c : Cluster) (n k : Nat) : Cluster × Option Cluster :=
  match if c.reaches k then composition? c.letter n else none with
  | some m => ({ c with letter := m }, none)
  | none => if k = 0 then (c, some ⟨n, []⟩) else ({ c with marks := (n, k) :: c.marks }, none)

end Cluster

def composed : Option Cluster → List (Nat × Nat) → List Nat
  | none, [] => []
  | some c, [] => c.codes
  | none, (n, k) :: r => if k = 0 then composed (some ⟨n, []⟩) r else n :: composed none r
  | some c, (n, k) :: r =>
    match c.meet n k with
    | (c, none) => composed (some c) r
    | (c, some d) => c.codes ++ composed (some d) r

/-- The normal form of a name. -/
def normalize (t : List Char) : List Char :=
  if t.all fun c => c.toNat < 0x80 then t
  else (composed none (ordered (t.flatMap fun c => decomposed c.toNat))).map Char.ofNat

end Weave.Unicode
