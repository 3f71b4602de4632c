import Weave.Program.Machine

/-!
# Functions of any values

The functions that programs always have and that need nothing but their arguments: lengths, sums and
roundings, and the values of one class that values of another stand for.
-/

set_option autoImplicit false

namespace Weave.Program

def notWhole (v : Value) : Exception :=
  typeError (classQuoted v ++ " object cannot be interpreted as an integer".toList)

def wholeOf (v : Value) : Except Exception Int :=
  match int? v with
  | some n => .ok n
  | none => .error (notWhole v)

/-! ### Sequences -/

def length (i : Interpreter) (v : Value) : Except Exception Nat :=
  let none_ := Except.error (typeError ("object of type ".toList ++ classQuoted v
    ++ " has no len()".toList))
  match i.object? v with
  | some (.range ..) => (items i v).map List.length
  | some (.view name xs) => if Text.startsWith name "dict_".toList then .ok xs.length else none_
  | some _ => none_
  | none => match items i v with
    | .ok xs => .ok xs.length
    | .error _ => none_

def sum (i : Interpreter) (v start : Value) : Except Exception Value :=
  match start with
  | .str _ => .error (typeError "sum() can't sum strings [use ''.join(seq) instead]".toList)
  | .bytes _ => .error (typeError "sum() can't sum bytes [use b''.join(seq) instead]".toList)
  | start => do
    let xs ← items i v
    xs.foldlM (fun acc x => binary .add acc x) start

/-! ### Rounding -/

def roundHalfEven (n : Int) (d : Nat) : Int :=
  let q := Int.fdiv n d
  let r := Int.fmod n d
  if 2 * r < d then q
  else if 2 * r > d then q + 1
  else if q % 2 = 0 then q else q + 1

/-- The nearest multiple of a power of ten. -/
def roundInt (n : Int) (places : Int) : Int :=
  if places ≥ 0 then n
  else
    let unit := Nat.pow 10 (-places).toNat
    roundHalfEven n unit * (unit : Int)

/-- Rounds to so many decimal places. -/
def roundPlaces (x : Float) (places : Int) : Except Exception Float :=
  match Number.ofFloat x with
  | .finite m e =>
    if places > 400 then .ok x
    else if places < -400 then .ok (withSign 0.0 x)
    else
      let n := m * (Nat.pow 10 places.toNat : Nat) * (Nat.pow 2 e.toNat : Nat)
      let k := roundHalfEven n (Nat.pow 2 (-e).toNat * Nat.pow 10 (-places).toNat)
      let y := divideInts (k * (Nat.pow 10 (-places).toNat : Nat)) (Nat.pow 10 places.toNat : Nat)
      if y.isInf then .error (overflowError "rounded value too large to represent")
      else .ok (withSign y.abs x)
  | _ => .ok x

def roundWhole (x : Float) : Except Exception Int :=
  match Number.ofFloat x with
  | .finite m e => .ok (roundHalfEven (m * (Nat.pow 2 e.toNat : Nat)) (Nat.pow 2 (-e).toNat))
  | _ => truncated x

def round (v : Value) (places : Option Value) : Except Exception Value :=
  match int? v, v, (places.filter fun p => match p with | .none => false | _ => true) with
  | some n, _, none => .ok (.int n)
  | some n, _, some p => (wholeOf p).map fun p => .int (roundInt n p)
  | none, .float x, none => (roundWhole x).map .int
  | none, .float x, some p => do
    let p ← wholeOf p
    Value.float <$> roundPlaces x p
  | none, _, _ => .error (typeError ("type ".toList ++ v.className
      ++ " doesn't define __round__ method".toList))

/-! ### Numbers -/

def absolute (v : Value) : Except Exception Value :=
  match int? v, v with
  | some n, _ => .ok (.int n.natAbs)
  | none, .float x => .ok (.float x.abs)
  | none, .complex re im => .ok (.float (Complex.magnitude ⟨re, im⟩))
  | none, _ => .error (typeError ("bad operand type for abs(): ".toList ++ classQuoted v))

/-- The digits of a whole number to a base, behind the mark of the base. -/
def inBase (kind : Char) (v : Value) : Except Exception Value := do
  let n ← wholeOf v
  let t := baseText kind n
  pure (.str ((if t.negative then ['-'] else []) ++ t.base ++ t.whole))

/-- Reads a whole number with an optional sign between blanks. Single underscores may stand between
digits. -/
def readInt (t : Text) : Except Exception Int :=
  let bad := Except.error
    (valueError ("invalid literal for int() with base 10: ".toList ++ Text.quote t))
  let (negative, ds) := Decimal.signed (Text.trim t)
  let groups := Text.splitOn '_' ds
  let digits := groups.flatten
  if groups.any List.isEmpty || !digits.all Char.isDigit then bad
  else if digits.length > Value.digitLimit then .error (.tooLongNumeral digits.length)
  else
    let n : Int := Decimal.digitsValue digits
    .ok (if negative then -n else n)

def toInt (v : Value) : Except Exception Value :=
  match v, int? v with
  | _, some n => .ok (.int n)
  | .float x, _ => (truncated x).map .int
  | .str t, _ => (readInt t).map .int
  | v, _ =>
    .error (typeError
      ("int() argument must be a string, a bytes-like object or a real number, not ".toList
        ++ classQuoted v))

def toFloat (v : Value) : Except Exception Value :=
  match v, float? v with
  | _, some x => x.map .float
  | .str t, _ =>
    match Decimal.toFloat? (Text.trim t) with
    | some x => .ok (.float x)
    | none => .error (valueError ("could not convert string to float: ".toList ++ Text.quote t))
  | v, _ =>
    .error (typeError ("float() argument must be a string or a real number, not ".toList
      ++ classQuoted v))

/-! ### Characters -/

def characterAt (v : Value) : Except Exception Value := do
  let n ← wholeOf v
  if n < 0 || n > 0x10ffff then .error (valueError "chr() arg not in range(0x110000)".toList)
  else pure (.str [Char.ofNat n.toNat])

def codeOf (v : Value) : Except Exception Value :=
  match v with
  | .str [c] => .ok (.int c.toNat)
  | .bytes [b] => .ok (.int b.toNat)
  | .str t => .error (typeError ("ord() expected a character, but string of length ".toList
      ++ Text.ofNat t.length ++ " found".toList))
  | v => .error (typeError ("ord() expected string of length 1, but ".toList ++ v.className
      ++ " found".toList))

/-! ### Collections -/

/-- The entries that a dictionary is made of: those of another one, or pairs. -/
def entriesOf (i : Interpreter) (v : Value) : Except Exception (List (Value × Value)) :=
  match v with
  | .dict es => .ok es
  | v => do
    let xs ← items i v
    let pairs ← (xs.mapIdx fun k x => (k, x)).mapM fun (k, x) =>
      match items i x with
      | .ok [key, w] => .ok (key, w)
      | .ok parts => .error (valueError ("dictionary update sequence element #".toList
          ++ Text.ofNat k ++ " has length ".toList ++ Text.ofNat parts.length
          ++ "; 2 is required".toList))
      | .error _ => .error (typeError ("cannot convert dictionary update sequence element #".toList
          ++ Text.ofNat k ++ " to a sequence".toList))
    checkHashable (pairs.map Prod.fst)
    pure pairs

def isInstance (v : Value) (className : Text) : Bool :=
  v.className = className || className = "object".toList
    || (className = "int".toList && v.className = "bool".toList)
    || Exception.descends className Exception.parents.length v.className

end Weave.Program
