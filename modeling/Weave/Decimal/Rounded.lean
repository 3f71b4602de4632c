import Weave.Decimal.Shortest

/-!
# Rounded decimals

A quotient to so many places behind the point, or to so many digits. The exact value is rounded, and
a half goes to the even neighbour.
-/

set_option autoImplicit false

namespace Weave.Decimal

/-- The whole number nearest to a quotient. -/
def roundQuotient (n d : Nat) : Nat :=
  let q := n / d
  let r := n % d
  if 2 * r < d || (2 * r = d && q % 2 = 0) then q else q + 1

/-- The nearest multiple of a power of ten, as the factor of that power. -/
def Ratio.onGrid (r : Ratio) (k : Int) : Nat :=
  if k ≥ 0 then roundQuotient r.num (r.den * Nat.pow 10 k.toNat)
  else roundQuotient (r.num * Nat.pow 10 (-k).toNat) r.den

def Ratio.fixed (r : Ratio) (places : Nat) : Text × Text :=
  let ds := Text.ofNat (r.onGrid (-(places : Int)))
  let ds := List.replicate (places + 1 - ds.length) '0' ++ ds
  (ds.take (ds.length - places), ds.drop (ds.length - places))

/-- So many digits from the first one on that is not zero, and the power of ten that belongs to the
first. -/
def Ratio.leading (r : Ratio) (count : Nat) : Text × Int :=
  if r.num = 0 then (List.replicate count '0', 0)
  else
    let point := r.point
    let ds := Text.ofNat (r.onGrid (point - count))
    -- rounding up may need one more digit in front
    if ds.length > count then (ds.take count, point) else (ds, point - 1)

end Weave.Decimal
