import Weave.Program.Fault

/-!
# Complex numbers

What a negative number raised to a fraction is, and what can be done with it.
-/

set_option autoImplicit false

namespace Weave.Program

structure Complex where
  re : Float
  im : Float
deriving Inhabited

namespace Complex

def value (a : Complex) : Value := .complex a.re a.im

def one : Complex := ⟨1.0, 0.0⟩

def add (a b : Complex) : Complex := ⟨a.re + b.re, a.im + b.im⟩
def subtract (a b : Complex) : Complex := ⟨a.re - b.re, a.im - b.im⟩
def negate (a : Complex) : Complex := ⟨-a.re, -a.im⟩

def multiply (a b : Complex) : Complex :=
  ⟨a.re * b.re - a.im * b.im, a.re * b.im + a.im * b.re⟩

def isZero (a : Complex) : Bool := a.re == 0.0 && a.im == 0.0

def magnitude (a : Complex) : Float :=
  if a.im == 0.0 then a.re.abs
  else if a.re == 0.0 then a.im.abs
  else (a.re * a.re + a.im * a.im).sqrt

/-- Divides by the larger part of the divisor first. -/
def quotient (a b : Complex) : Complex :=
  if b.re.abs >= b.im.abs then
    let ratio := b.im / b.re
    let d := b.re + b.im * ratio
    ⟨(a.re + a.im * ratio) / d, (a.im - a.re * ratio) / d⟩
  else
    let ratio := b.re / b.im
    let d := b.re * ratio + b.im
    ⟨(a.re * ratio + a.im) / d, (a.im * ratio - a.re) / d⟩

def divide (a b : Complex) : Except Exception Complex :=
  if b.isZero then .error (zeroDivision "complex division by zero") else .ok (a.quotient b)

/-- A whole power, by squaring. The bound is on the number of binary digits of the exponent. -/
def wholePower : Nat → Complex → Nat → Complex → Complex
  | 0, _, _, acc => acc
  | fuel + 1, p, n, acc =>
    if n = 0 then acc
    else wholePower fuel (p.multiply p) (n / 2) (if n % 2 = 1 then acc.multiply p else acc)

def anyPower (a b : Complex) : Complex :=
  if b.isZero then one
  else if a.isZero then ⟨0.0, 0.0⟩
  else
    let size := a.magnitude
    let angle := Float.atan2 a.im a.re
    let length := size.pow b.re
    let phase := angle * b.re
    let (length, phase) :=
      if b.im == 0.0 then (length, phase)
      else (length / (angle * b.im).exp, phase + b.im * size.log)
    ⟨length * phase.cos, length * phase.sin⟩

/-- The exponents for which whole powers are used. -/
def greatestWhole : Float := 100.0

def power (a b : Complex) : Except Exception Complex :=
  if a.isZero && (b.im != 0.0 || b.re < 0.0) then
    .error (zeroDivision "0.0 to a negative or complex power")
  else
    let isWhole := b.im == 0.0 && b.re == b.re.floor && b.re.abs <= greatestWhole
    let r :=
      if isWhole then
        let p := wholePower 8 a b.re.abs.toUInt64.toNat one
        if b.re > 0.0 then p else one.quotient p
      else anyPower a b
    if r.re.isInf || r.im.isInf then .error (overflowError "complex exponentiation") else .ok r

end Complex

end Weave.Program
