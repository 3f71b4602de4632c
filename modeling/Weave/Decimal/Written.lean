import Weave.Decimal.Shortest

/-!
# Written floating-point numbers

The fewest digits that read back, written positionally from `0.0001` up to below `10 ^ 16` and with
an exponent outside that range; a whole number keeps one zero after the point.
-/

set_option autoImplicit false

namespace Weave.Decimal

/-- The parts of a finite floating-point number other than its sign; `none` for zero. -/
def binary? (bits : UInt64) : Option Binary :=
  let fraction := (bits &&& 0xfffffffffffff).toNat
  let biased := ((bits >>> 52) &&& 0x7ff).toNat
  if biased = 0 then
    if fraction = 0 then none else some ⟨fraction, -1074, false⟩
  else some ⟨fraction + Nat.pow 2 52, (biased : Int) - 1075, fraction = 0 && biased > 1⟩

/-- The exponent form has at least two digits after its sign. -/
def exponentText (e : Int) : Text :=
  let ds := Text.ofNat e.natAbs
  'e' :: (if e < 0 then '-' else '+') :: (if ds.length < 2 then '0' :: ds else ds)

def Digits.written (d : Digits) : Text :=
  let n := d.digits.length
  if -4 < d.point && d.point ≤ 16 then
    if d.point ≤ 0 then '0' :: '.' :: List.replicate (-d.point).toNat '0' ++ d.digits
    else
      let p := d.point.toNat
      if n ≤ p then d.digits ++ List.replicate (p - n) '0' ++ ['.', '0']
      else d.digits.take p ++ '.' :: d.digits.drop p
  else
    d.digits.take 1 ++ (if n = 1 then [] else '.' :: d.digits.drop 1) ++ exponentText (d.point - 1)

def ofFloat (x : Float) : Text :=
  if x.isNaN then "nan".toList
  else
    let bits := x.toBits
    let sign : Text := if bits >>> 63 = 0 then [] else ['-']
    if x.isInf then sign ++ "inf".toList
    else match binary? bits with
      | none => sign ++ "0.0".toList
      | some b => sign ++ b.shortest.written

/-- A run of decimal digits at the front of a text and what follows it. -/
def takeDigits (t : Text) : Text × Text := (t.takeWhile Char.isDigit, t.dropWhile Char.isDigit)

def digitsValue (ds : Text) : Nat := ds.foldl (fun n c => 10 * n + (c.toNat - '0'.toNat)) 0

def signed (t : Text) : Bool × Text :=
  match t with
  | '-' :: r => (true, r)
  | '+' :: r => (false, r)
  | r => (false, r)

/-- The number with these digits before and after the point, times a power of ten. -/
def ofParts (negative : Bool) (whole fraction : Text) (exponent : Int) : Float :=
  let m := digitsValue (whole ++ fraction)
  let e := exponent - fraction.length
  let x := if m = 0 then 0.0 else
    -- beyond these bounds the number is infinite or zero whatever its digits are
    if e > 400 then Float.ofScientific 1 false 400
    else if e < -(400 + (whole ++ fraction).length : Int) then 0.0
    else if e ≥ 0 then Float.ofScientific m false e.toNat
    else Float.ofScientific m true (-e).toNat
  if negative then -x else x

/-- Reads a decimal numeral with an optional fraction and exponent, or the name of a special value. -/
def toFloat? (t : Text) : Option Float :=
  let (neg, body) := signed t
  let lower := body.map Char.toLower
  if lower = "inf".toList || lower = "infinity".toList then
    some (if neg then -(1.0 / 0.0) else 1.0 / 0.0)
  else if lower = "nan".toList then some (0.0 / 0.0)
  else
    let (whole, rest) := takeDigits body
    let (fraction, rest) := match rest with
      | '.' :: r => takeDigits r
      | r => ([], r)
    if whole.isEmpty && fraction.isEmpty then none
    else match rest with
      | [] => some (ofParts neg whole fraction 0)
      | c :: r =>
        if c = 'e' || c = 'E' then
          let (eneg, r) := signed r
          match Text.toNat? r with
          | none => none
          | some n => some (ofParts neg whole fraction (if eneg then -(n : Int) else n))
        else none

end Weave.Decimal
