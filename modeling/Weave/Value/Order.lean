import Weave.Value
import Weave.Decimal.Shortest

/-!
# Equality and order of values

Numbers are compared by their exact value whatever their class, truth values counting as zero and
one. Sequences are compared item by item, sets by inclusion. Values of unrelated classes are unequal
and have no order.
-/

set_option autoImplicit false

namespace Weave

/-- A number on the extended real line, as an exact binary fraction. -/
inductive Number where
  | finite (significand : Int) (exponent : Int)
  | infinite (negative : Bool)
  | undefined
deriving DecidableEq, Repr

namespace Number

def ofFloat (x : Float) : Number :=
  if x.isNaN then .undefined
  else
    let bits := x.toBits
    let negative := bits >>> 63 != 0
    if x.isInf then .infinite negative
    else
      let fraction : Int := (bits &&& 0xfffffffffffff).toNat
      let biased := ((bits >>> 52) &&& 0x7ff).toNat
      let (m, e) : Int × Int :=
        if biased = 0 then (fraction, -1074) else (fraction + Int.pow 2 52, (biased : Int) - 1075)
      .finite (if negative then -m else m) e

/-- Both significands over the smaller of the two exponents. -/
def align (m : Int) (e : Int) (m' : Int) (e' : Int) : Int × Int :=
  if e ≤ e' then (m, m' * Int.pow 2 (e' - e).toNat) else (m * Int.pow 2 (e - e').toNat, m')

def equal : Number → Number → Bool
  | .finite m e, .finite m' e' => let (a, b) := align m e m' e'; a = b
  | .infinite s, .infinite s' => s = s'
  | _, _ => false

def less : Number → Number → Bool
  | .finite m e, .finite m' e' => let (a, b) := align m e m' e'; a < b
  | .finite .., .infinite s => !s
  | .infinite s, .finite .. => s
  | .infinite s, .infinite s' => s && !s'
  | _, _ => false

end Number

namespace Value

def number? : Value → Option Number
  | .bool b => some (.finite (if b then 1 else 0) 0)
  | .int n => some (.finite n 0)
  | .float x => some (Number.ofFloat x)
  | _ => Option.none

def isNumber (n : Number) : Value → Bool
  | .complex re im => im == 0.0 && Number.equal n (Number.ofFloat re)
  | v => match number? v with
    | some m => Number.equal n m
    | Option.none => false

mutual

def equal : Value → Value → Bool
  | .none, .none => true
  | .bool b, w => isNumber (.finite (if b then 1 else 0) 0) w
  | .int m, w => isNumber (.finite m 0) w
  | .float x, w => isNumber (Number.ofFloat x) w
  | .complex re im, .complex re' im' => re == re' && im == im'
  | .complex re im, w => match number? w with
    | some n => im == 0.0 && Number.equal n (Number.ofFloat re)
    | Option.none => false
  | .str s, .str t => s = t
  | .bytes a, .bytes b => a = b
  | .list xs, .list ys => equalEach xs ys
  | .tuple xs, .tuple ys => equalEach xs ys
  | .set xs, .set ys => xs.length = ys.length && eachIn xs ys
  | .set xs, .frozenset ys => xs.length = ys.length && eachIn xs ys
  | .frozenset xs, .set ys => xs.length = ys.length && eachIn xs ys
  | .frozenset xs, .frozenset ys => xs.length = ys.length && eachIn xs ys
  | .dict es, .dict fs => es.length = fs.length && entriesIn es fs
  | .object _ i _, .object _ j _ => i = j
  | _, _ => false

def equalEach : List Value → List Value → Bool
  | [], [] => true
  | x :: xs, y :: ys => equal x y && equalEach xs ys
  | _, _ => false

def eachIn : List Value → List Value → Bool
  | [], _ => true
  | x :: xs, ys => ys.any (fun y => equal x y) && eachIn xs ys

def entriesIn : List (Value × Value) → List (Value × Value) → Bool
  | [], _ => true
  | (k, v) :: es, fs => fs.any (fun f => equal k f.1 && equal v f.2) && entriesIn es fs

end

/-- Order of characters or bytes, the shorter of two texts first if one starts the other. -/
def lessText {α : Type} [DecidableEq α] [LT α] [DecidableLT α] : List α → List α → Bool
  | [], [] => false
  | [], _ :: _ => true
  | _ :: _, [] => false
  | x :: xs, y :: ys => if x = y then lessText xs ys else x < y

mutual

/-- The order of two values, if their classes have one. -/
def less? : Value → Value → Option Bool
  | .str s, .str t => some (lessText s t)
  | .bytes a, .bytes b => some (lessText a b)
  | .list xs, .list ys => lessEach? xs ys
  | .tuple xs, .tuple ys => lessEach? xs ys
  | .set xs, .set ys => some (xs.length < ys.length && eachIn xs ys)
  | .set xs, .frozenset ys => some (xs.length < ys.length && eachIn xs ys)
  | .frozenset xs, .set ys => some (xs.length < ys.length && eachIn xs ys)
  | .frozenset xs, .frozenset ys => some (xs.length < ys.length && eachIn xs ys)
  | v, w => match number? v, number? w with
    | some m, some n => some (Number.less m n)
    | _, _ => Option.none

/-- The first items that differ decide. -/
def lessEach? : List Value → List Value → Option Bool
  | [], ys => some !ys.isEmpty
  | _ :: _, [] => some false
  | x :: xs, y :: ys => if equal x y then lessEach? xs ys else less? x y

end

/-- The order in which keys are shown: values without a common order go by the names of their classes. -/
def precedes (v w : Value) : Bool :=
  match less? v w with
  | some b => b
  | Option.none => lessText (classText v.className) (classText w.className)

/-- The entry under a key. -/
def lookup (es : List (Value × Value)) (key : Value) : Option Value :=
  (es.find? fun e => equal e.1 key).map Prod.snd

/-- Sets a key, in its old place if there is one. -/
def put (es : List (Value × Value)) (key v : Value) : List (Value × Value) :=
  if es.any (fun e => equal e.1 key) then
    es.map fun e => if equal e.1 key then (e.1, v) else e
  else es ++ [(key, v)]

def dictOf (es : List (Value × Value)) : Value :=
  .dict (es.foldl (fun acc e => put acc e.1 e.2) [])

def distinct (xs : List Value) : List Value :=
  xs.foldl (fun acc x => if acc.any (fun y => equal y x) then acc else acc ++ [x]) []

end Value

end Weave
