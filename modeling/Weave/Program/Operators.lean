import Weave.Program.Arithmetic
import Weave.Program.Formatting

/-!
# Operators

What the operators of programs do to values: arithmetic on numbers, the algebra of sequences and
sets, filling in texts, and comparisons.
-/

set_option autoImplicit false

namespace Weave.Program

/-! ### Sequences -/

def repeated {α : Type} (xs : List α) (n : Int) : List α := (List.replicate n.toNat xs).flatten

def repeat? (v : Value) (n : Int) : Option Value :=
  match v with
  | .str t => some (.str (repeated t n))
  | .bytes bs => some (.bytes (repeated bs n))
  | .list xs => some (.list (repeated xs n))
  | .tuple xs => some (.tuple (repeated xs n))
  | _ => none

def isSequence (v : Value) : Bool := (repeat? v 0).isSome

def sequenceLength : Value → Nat
  | .str t => t.length
  | .bytes bs => bs.length
  | .list xs => xs.length
  | .tuple xs => xs.length
  | _ => 0

def concatenate (v w : Value) : Except Exception Value :=
  let only := fun (kind : String) =>
    typeError ("can only concatenate ".toList ++ kind.toList ++ " (not \"".toList ++ w.className
      ++ "\") to ".toList ++ kind.toList)
  match v, w with
  | .str s, .str t => .ok (.str (s ++ t))
  | .bytes a, .bytes b => .ok (.bytes (a ++ b))
  | .list xs, .list ys => .ok (.list (xs ++ ys))
  | .tuple xs, .tuple ys => .ok (.tuple (xs ++ ys))
  | .str _, _ => .error (only "str")
  | .list _, _ => .error (only "list")
  | .tuple _, _ => .error (only "tuple")
  | .bytes _, _ => .error (typeError ("can't concat ".toList ++ w.className ++ " to bytes".toList))
  | _, _ => .error (unsupported .add v w)

def repetitionLimit : Nat := Nat.pow 2 32

def repeatSequence (v : Value) (n : Int) : Except Exception Value :=
  if n.natAbs ≥ Nat.pow 2 63 then
    .error (.ofMessage "OverflowError" "cannot fit 'int' into an index-sized integer".toList)
  else if n * sequenceLength v > repetitionLimit then .error ⟨"MemoryError".toList, []⟩
  else .ok ((repeat? v n).getD .none)

def multiplySequence (v w : Value) : Except Exception Value :=
  let no := fun (other : Value) =>
    typeError ("can't multiply sequence by non-int of type ".toList ++ classQuoted other)
  match int? v, int? w with
  | _, some n =>
    if isSequence v then repeatSequence v n else .error (unsupported .multiply v w)
  | some n, none =>
    if isSequence w then repeatSequence w n else .error (unsupported .multiply v w)
  | none, none =>
    if isSequence v then .error (no w)
    else if isSequence w then .error (no v)
    else .error (unsupported .multiply v w)

/-! ### Sets and dictionaries -/

mutual

/-- What of a value keeps it from being a member of a set or a key. -/
def unhashable? : Value → Option Value
  | .list xs => some (.list xs)
  | .dict es => some (.dict es)
  | .set xs => some (.set xs)
  | .tuple xs => firstUnhashable? xs
  | _ => none

def firstUnhashable? : List Value → Option Value
  | [] => none
  | v :: vs => (unhashable? v).or (firstUnhashable? vs)

end

def checkHashable (vs : List Value) : Except Exception Unit :=
  match firstUnhashable? vs with
  | some v => .error (typeError ("unhashable type: ".toList ++ classQuoted v))
  | none => .ok ()

def setItems? : Value → Option (List Value)
  | .set xs => some xs
  | .frozenset xs => some xs
  | _ => none

/-- The class of the first of two sets is the class of the result. -/
def likeSet (v : Value) (xs : List Value) : Value :=
  match v with
  | .frozenset _ => .frozenset xs
  | _ => .set xs

def setOperation (op : BinaryOp) (xs ys : List Value) : Option (List Value) :=
  let holds := fun (zs : List Value) (x : Value) => zs.any fun z => Value.equal z x
  match op with
  | .bitOr => some (xs ++ ys.filter fun y => !holds xs y)
  | .bitAnd => some (xs.filter (holds ys))
  | .subtract => some (xs.filter fun x => !holds ys x)
  | .bitXor => some ((xs.filter fun x => !holds ys x) ++ ys.filter fun y => !holds xs y)
  | _ => none

/-! ### All operators -/

def binary (op : BinaryOp) (v w : Value) : Except Exception Value :=
  if op = .matrixMultiply then .error (unsupported op v w)
  else match operands? v w with
  | some operands =>
    operands.bind fun o => (arithmetic op o).getD (.error (unsupported op v w))
  | none =>
    match setItems? v, setItems? w with
    | some xs, some ys =>
      match setOperation op xs ys with
      | some zs => .ok (likeSet v zs)
      | none => .error (unsupported op v w)
    | _, _ =>
      match op, v, w with
      | .add, _, _ => concatenate v w
      | .multiply, _, _ => multiplySequence v w
      | .modulo, .str t, _ => fillText t w
      | .bitOr, .dict es, .dict fs =>
        .ok (.dict (fs.foldl (fun acc f => Value.put acc f.1 f.2) es))
      | _, _, _ => .error (unsupported op v w)

/-- The operator of an assignment, which messages name with its equals sign. Only the left operand
settles what a product is. -/
def augmented (op : BinaryOp) (v w : Value) : Except Exception Value :=
  let refusal := unsupportedAs (op.symbol ++ ['=']) v w
  let isCollection := match v with
    | .dict _ | .set _ | .frozenset _ => true
    | _ => false
  if op = .multiply && isCollection then .error refusal
  else match binary op v w with
    | .ok r => .ok r
    | .error e => if e.message = (unsupported op v w).message then .error refusal else .error e

def unary (op : UnaryOp) (v : Value) : Except Exception Value :=
  match op, int? v, v with
  | .not, _, _ => .ok (.bool !v.truth)
  | .plus, some n, _ => .ok (.int n)
  | .minus, some n, _ => .ok (.int (-n))
  | .invert, some n, _ => .ok (.int (-n - 1))
  | .plus, none, .float x => .ok (.float x)
  | .minus, none, .float x => .ok (.float (-x))
  | .plus, none, .complex re im => .ok (.complex re im)
  | .minus, none, .complex re im => .ok (Complex.negate ⟨re, im⟩).value
  | op, _, _ =>
    .error (typeError ("bad operand type for unary ".toList ++ op.symbol ++ ": ".toList
      ++ classQuoted v))

/-! ### Comparisons -/

/-- The two values, inside sequences, that have no common order. -/
def incomparable : Value → Value → Value × Value
  | .list xs, .list ys => among (.list xs, .list ys) xs ys
  | .tuple xs, .tuple ys => among (.tuple xs, .tuple ys) xs ys
  | v, w => (v, w)
where
  among (whole : Value × Value) : List Value → List Value → Value × Value
    | x :: xs, y :: ys => if Value.equal x y then among whole xs ys else (x, y)
    | _, _ => whole

def orderError (c : Comparison) (v w : Value) : Exception :=
  let (v, w) := incomparable v w
  typeError ("'".toList ++ c.symbol ++ "' not supported between instances of ".toList
    ++ classQuoted v ++ " and ".toList ++ classQuoted w)

def less (c : Comparison) (v w : Value) : Except Exception Bool :=
  match Value.less? v w with
  | some b => .ok b
  | none => .error (orderError c v w)

/-- Whether one text occurs in another, or a value among others. -/
def holds (v container : Value) : Except Exception Bool :=
  let amid := fun (xs : List Value) => Except.ok (xs.any fun x => Value.equal x v)
  match container, v with
  | .str t, .str part => .ok (Text.hasPart t part)
  | .str _, _ =>
    .error (typeError ("'in <string>' requires string as left operand, not ".toList ++ v.className))
  | .list xs, _ => amid xs
  | .tuple xs, _ => amid xs
  | .set xs, _ => checkHashable [v] *> amid xs
  | .frozenset xs, _ => checkHashable [v] *> amid xs
  | .dict es, _ => checkHashable [v] *> amid (es.map Prod.fst)
  | _, _ =>
    .error (typeError ("argument of type ".toList ++ classQuoted container
      ++ " is not iterable".toList))

/-- Small values are one object wherever they occur. -/
def identical : Value → Value → Bool
  | .none, .none => true
  | .bool a, .bool b => a = b
  | .int m, .int n => m = n
  | .str s, .str t => s = t
  | .object _ i _, .object _ j _ => i = j
  | _, _ => false

def compare (c : Comparison) (v w : Value) : Except Exception Bool :=
  match c with
  | .equal => .ok (Value.equal v w)
  | .unequal => .ok !Value.equal v w
  | .less => less c v w
  | .greater => do
    match Value.less? w v with
    | some b => pure b
    | none => .error (orderError c v w)
  | .lessEqual => do
    let b ← less c v w
    pure (b || Value.equal v w)
  | .greaterEqual => do
    match Value.less? w v with
    | some b => pure (b || Value.equal v w)
    | none => .error (orderError c v w)
  | .within => holds v w
  | .without => (holds v w).map not
  | .same => .ok (identical v w)
  | .different => .ok !identical v w

end Weave.Program
