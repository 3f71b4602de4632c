import Weave.Text

/-!
# Shortest decimals

A finite binary number is `significand * 2 ^ exponent`. All reals closer to it than to its
neighbours read back as that number; of these the decimal with the fewest digits is chosen, and of
several with that many digits the one nearest to the number.
-/

set_option autoImplicit false

namespace Weave.Decimal

/-- A positive binary number. `narrow` says that the neighbour below is half as far away as the one
above, which happens at the powers of two. -/
structure Binary where
  significand : Nat
  exponent : Int
  narrow : Bool
deriving DecidableEq, Repr

/-- A positive decimal number: `0.d₁d₂…dₙ * 10 ^ point`, with no zero at either end of the digits. -/
structure Digits where
  digits : List Char
  point : Int
deriving DecidableEq, Repr

/-- A positive quotient. -/
structure Ratio where
  num : Nat
  den : Nat
deriving DecidableEq, Repr

/-- The quotient `n * 2 ^ e`. -/
def Ratio.scaled (n : Nat) (e : Int) : Ratio :=
  if e ≥ 0 then ⟨n * Nat.pow 2 e.toNat, 1⟩ else ⟨n, Nat.pow 2 (-e).toNat⟩

/-- The number in quarters of its last binary place, with the ends of its interval. -/
def Binary.quarters (b : Binary) : Nat × Nat × Nat :=
  (4 * b.significand - (if b.narrow then 1 else 2), 4 * b.significand, 4 * b.significand + 2)

/-- How many digits stand before the decimal point; not positive for numbers below one. -/
def Ratio.point (r : Ratio) : Int :=
  if r.den ≤ r.num then (Nat.toDigits 10 (r.num / r.den)).length
  else
    let q := r.den / (if r.num = 0 then 1 else r.num)
    -- `q ≤ den / num < q + 1`, so the number lies just above `1 / (q + 1)`
    let k := (Nat.toDigits 10 q).length
    if r.num * Nat.pow 10 k ≥ r.den then
      (if r.num * Nat.pow 10 (k - 1) ≥ r.den then 2 - (k : Int) else 1 - (k : Int))
    else -(k : Int)

/-- The grid point `n * 10 ^ k` compared with `m` times the unit `2 ^ e`, as two naturals. -/
def gridSides (n : Nat) (k : Int) (m : Nat) (e : Int) : Nat × Nat :=
  let r := Ratio.scaled m e
  if k ≥ 0 then (n * Nat.pow 10 k.toNat * r.den, r.num) else (n * r.den, r.num * Nat.pow 10 (-k).toNat)

/-- Whether a grid point reads back as the number. -/
def Binary.accepts (b : Binary) (n : Nat) (k : Int) : Bool :=
  let (lo, _, hi) := b.quarters
  let e := b.exponent - 2
  let (g, l) := gridSides n k lo e
  let (g', h) := gridSides n k hi e
  if b.significand % 2 = 0 then l ≤ g && g' ≤ h else l < g && g' < h

/-- The grid point below or at the number. -/
def Binary.floorAt (b : Binary) (k : Int) : Nat :=
  let r := Ratio.scaled (4 * b.significand) (b.exponent - 2)
  if k ≥ 0 then r.num / (r.den * Nat.pow 10 k.toNat) else r.num * Nat.pow 10 (-k).toNat / r.den

/-- Whether the grid point above the number is nearer than the one below; a tie goes to the even one. -/
def Binary.upperNearer (b : Binary) (n : Nat) (k : Int) : Bool :=
  let (below, v) := gridSides n k (4 * b.significand) (b.exponent - 2)
  let (above, v') := gridSides (n + 1) k (4 * b.significand) (b.exponent - 2)
  let down := v - below
  let up := above - v'
  up < down || (up = down && n % 2 = 1)

/-- The choice on the grid of spacing `10 ^ k`. -/
def Binary.onGrid? (b : Binary) (k : Int) : Option Nat :=
  let n := b.floorAt k
  match n ≠ 0 && b.accepts n k, b.accepts (n + 1) k with
  | true, true => some (if b.upperNearer n k then n + 1 else n)
  | true, false => some n
  | false, true => some (n + 1)
  | false, false => none

/-- The first grid, from the coarsest on, that holds a decimal that reads back. -/
def Binary.firstGrid (b : Binary) (point : Int) : Nat → Nat → Digits
  | _, 0 => ⟨['0'], 0⟩
  | n, fuel + 1 =>
    let k := point - n
    match b.onGrid? k with
    | some g =>
      let ds := Nat.toDigits 10 g
      ⟨(ds.reverse.dropWhile (· == '0')).reverse, ds.length + k⟩
    | none => b.firstGrid point (n + 1) fuel

/-- No binary number of this size needs more than seventeen digits. -/
def Binary.shortest (b : Binary) : Digits :=
  b.firstGrid (Ratio.scaled b.significand b.exponent).point 1 17

end Weave.Decimal
