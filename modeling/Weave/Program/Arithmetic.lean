import Weave.Program.Complex
import Weave.Value.Order

/-!
# Arithmetic

Whole numbers are exact. Division rounds down, and the remainder has the sign of the divisor. A whole
number that meets a floating-point number has to fit into one.
-/

set_option autoImplicit false

namespace Weave.Program

/-! ### Floating-point numbers -/

/-- The number nearest to a quotient of positive whole numbers. Sixty-six binary digits and a mark for
a remainder settle the rounding. -/
def nearestQuotient (n d : Nat) : Float :=
  let shift : Int := 66 + (Nat.log2 d : Int) - (Nat.log2 n : Int)
  let (a, b) := if shift ≥ 0 then (n * Nat.pow 2 shift.toNat, d) else (n, d * Nat.pow 2 (-shift).toNat)
  let q := a / b
  let q := if a % b = 0 then q else if q % 2 = 0 then q + 1 else q
  Float.scaleB (Float.ofNat q) (-shift)

def divideInts (m n : Int) : Float :=
  if m = 0 then 0.0
  else
    let x := nearestQuotient m.natAbs n.natAbs
    if (m < 0) = (n < 0) then x else -x

def truncatedRemainder (x y : Float) : Float :=
  if x.isInf || x.isNaN || y.isNaN then 0.0 / 0.0
  else if y.isInf then x
  else match Number.ofFloat x, Number.ofFloat y with
    | .finite m e, .finite n f =>
      let (a, b) := Number.align m e n f
      let r := Int.tmod a b
      let z := Float.scaleB (Float.ofInt r) (min e f)
      if r = 0 && (x < 0.0 || (x == 0.0 && x.toBits != 0)) then -0.0 else z
    | _, _ => 0.0 / 0.0

def withSign (x y : Float) : Float :=
  let negative := y.toBits >>> 63 != 0
  if negative then -x.abs else x.abs

def floatModulo (x y : Float) : Float :=
  let r := truncatedRemainder x y
  if r == 0.0 then withSign 0.0 y
  else if (y < 0.0) != (r < 0.0) then r + y else r

def floatFloorDivide (x y : Float) : Float :=
  let r := truncatedRemainder x y
  let q := (x - r) / y
  let q := if r != 0.0 && (y < 0.0) != (r < 0.0) then q - 1.0 else q
  if q == 0.0 then withSign 0.0 (x / y)
  else
    let whole := q.floor
    if q - whole > 0.5 then whole + 1.0 else whole

/-- From here on a number is nearer to the next power of two than to any floating-point number. -/
def overflowBound : Nat := Nat.pow 2 1024 - Nat.pow 2 970

def floatOfInt (n : Int) : Except Exception Float :=
  if n.natAbs ≥ overflowBound then .error (overflowError "int too large to convert to float")
  else .ok (Float.ofInt n)

/-! ### Operands -/

/-- The operands of arithmetic: whole numbers as long as both are, complex numbers if one is. -/
inductive Operands where
  | ints (m n : Int)
  | floats (x y : Float)
  | complexes (a b : Complex)

def int? : Value → Option Int
  | .int n => some n
  | .bool b => some (if b then 1 else 0)
  | _ => none

/-- A real number as a floating-point number, if it is one and fits. -/
def float? : Value → Option (Except Exception Float)
  | .float x => some (.ok x)
  | v => (int? v).map floatOfInt

def complex? : Value → Option (Except Exception Complex)
  | .complex re im => some (.ok ⟨re, im⟩)
  | v => (float? v).map fun r => r.map fun x => ⟨x, 0.0⟩

def operands? (v w : Value) : Option (Except Exception Operands) :=
  match int? v, int? w, float? v, float? w, complex? v, complex? w with
  | some m, some n, _, _, _, _ => some (.ok (.ints m n))
  | _, _, some x, some y, _, _ => some (x.bind fun x => y.map fun y => .floats x y)
  | _, _, _, _, some a, some b => some (a.bind fun a => b.map fun b => .complexes a b)
  | _, _, _, _, _, _ => none

/-! ### Operations -/

/-- A negative number raised to a fraction is complex. -/
def powerFloats (x y : Float) : Except Exception Value :=
  if x == 0.0 && y < 0.0 then
    .error (zeroDivision "0.0 cannot be raised to a negative power")
  else if x < 0.0 && !x.isInf && !y.isInf && !y.isNaN && y.floor != y then
    (Complex.power ⟨x, 0.0⟩ ⟨y, 0.0⟩).map Complex.value
  else
    let r := x.pow y
    if r.isInf && !x.isInf && !y.isInf then
      .error ⟨"OverflowError".toList, [.int 34, .str "Numerical result out of range".toList]⟩
    else .ok (.float r)

/-- A shift by so many places needs more memory than there is. -/
def shiftBound : Nat := Nat.pow 2 64

def intArithmetic (op : BinaryOp) (m n : Int) : Except Exception Value :=
  match op with
  | .add => .ok (.int (m + n))
  | .subtract => .ok (.int (m - n))
  | .multiply => .ok (.int (m * n))
  | .power =>
    if n ≥ 0 then .ok (.int (Int.pow m n.toNat))
    else do
      let x ← floatOfInt m
      let y ← floatOfInt n
      powerFloats x y
  | .divide =>
    if n = 0 then .error (zeroDivision "division by zero")
    else
      let x := divideInts m n
      if x.isInf then .error (overflowError "integer division result too large for a float")
      else .ok (.float x)
  | .floorDivide =>
    if n = 0 then .error (zeroDivision "integer division or modulo by zero")
    else .ok (.int (Int.fdiv m n))
  | .modulo =>
    if n = 0 then .error (zeroDivision "integer modulo by zero") else .ok (.int (Int.fmod m n))
  | .shiftLeft =>
    if n < 0 then .error (valueError "negative shift count".toList)
    else if m = 0 then .ok (.int 0)
    else if n.toNat ≥ shiftBound then .error (overflowError "too many digits in integer")
    else .ok (.int (m * Int.pow 2 n.toNat))
  | .shiftRight =>
    if n < 0 then .error (valueError "negative shift count".toList)
    else if n.toNat ≥ shiftBound then .ok (.int (if m < 0 then -1 else 0))
    else .ok (.int (Int.fdiv m (Int.pow 2 n.toNat)))
  | .bitAnd => .ok (.int (bitwise (· && ·) m n))
  | .bitOr => .ok (.int (bitwise (· || ·) m n))
  | .bitXor => .ok (.int (bitwise (· != ·) m n))
  | .matrixMultiply => .error (unsupported op (.int m) (.int n))
where
  /-- Bit by bit on two's complements of unlimited length. -/
  bitwise (f : Bool → Bool → Bool) (m n : Int) : Int :=
    let size := Nat.log2 m.natAbs + Nat.log2 n.natAbs + 2
    let bit := fun (i : Int) (k : Nat) => Int.fmod (Int.fdiv i (Int.pow 2 k)) 2 = 1
    let low := (List.range size).foldl
      (fun (acc : Int) k => if f (bit m k) (bit n k) then acc + Int.pow 2 k else acc) 0
    if f (m < 0) (n < 0) then low - Int.pow 2 size else low

def floatArithmetic (op : BinaryOp) (x y : Float) : Option (Except Exception Value) :=
  match op with
  | .add => some (.ok (.float (x + y)))
  | .subtract => some (.ok (.float (x - y)))
  | .multiply => some (.ok (.float (x * y)))
  | .power => some (powerFloats x y)
  | .divide =>
    some (if y == 0.0 then .error (zeroDivision "float division by zero") else .ok (.float (x / y)))
  | .floorDivide =>
    some (if y == 0.0 then .error (zeroDivision "float floor division by zero")
      else .ok (.float (floatFloorDivide x y)))
  | .modulo =>
    some (if y == 0.0 then .error (zeroDivision "float modulo")
      else .ok (.float (floatModulo x y)))
  | _ => none

def complexArithmetic (op : BinaryOp) (a b : Complex) : Option (Except Exception Value) :=
  match op with
  | .add => some (.ok (a.add b).value)
  | .subtract => some (.ok (a.subtract b).value)
  | .multiply => some (.ok (a.multiply b).value)
  | .divide => some ((a.divide b).map Complex.value)
  | .power => some ((a.power b).map Complex.value)
  | _ => none

def arithmetic (op : BinaryOp) : Operands → Option (Except Exception Value)
  | .ints m n => some (intArithmetic op m n)
  | .floats x y => floatArithmetic op x y
  | .complexes a b => complexArithmetic op a b

end Weave.Program
