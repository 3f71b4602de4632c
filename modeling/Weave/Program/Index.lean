import Weave.Program.Machine

/-!
# Indices

Items of sequences by their numbers, which count from the end if they are negative, entries of
dictionaries by their keys, and slices. What a slice holds is a matter of the places it goes through:
`Slice.places` lists them in order.
-/

set_option autoImplicit false

namespace Weave.Program

def itemAt {α : Type} (what : String) (xs : List α) (n : Int) : Except Exception α :=
  let k := if n < 0 then n + xs.length else n
  match if k < 0 then none else xs[k.toNat]? with
  | some x => .ok x
  | none => .error (.ofMessage "IndexError" (what.toList ++ " index out of range".toList))

def badIndex (what : String) (v : Value) : Exception :=
  typeError (what.toList ++ " indices must be integers or slices, not ".toList ++ v.className)

/-! ### Slices -/

/-- The places `start`, `start + step` and so on, as far as they lie before `stop`. -/
structure Slice where
  start : Int
  stop : Int
  step : Int
deriving DecidableEq, Repr, Inhabited

namespace Slice

/-- A bound within a sequence: it counts from the end if it is negative, and beyond an end it is that
end. -/
def bound (length : Nat) (step n : Int) : Int :=
  let n := if n < 0 then n + length else n
  if n < 0 then (if step < 0 then -1 else 0)
  else if n ≥ length then (if step < 0 then length - 1 else length)
  else n

/-- A slice of a sequence, where bounds may be left out. -/
def ofBounds (length : Nat) (start stop : Option Int) (step : Int) : Slice where
  start := (start.map (bound length step)).getD (if step < 0 then length - 1 else 0)
  stop := (stop.map (bound length step)).getD (if step < 0 then -1 else length)
  step := step

def count (s : Slice) : Nat :=
  if s.step > 0 then (Int.fdiv (s.stop - s.start + s.step - 1) s.step).toNat
  else (Int.fdiv (s.start - s.stop - s.step - 1) (-s.step)).toNat

def places (s : Slice) : List Int :=
  (List.range s.count).map fun (k : Nat) => s.start + s.step * k

def select {α : Type} (s : Slice) (xs : List α) : List α :=
  let items := xs.toArray
  s.places.filterMap fun k => if k < 0 then none else items[k.toNat]?

end Slice

def sliceBound : Value → Except Exception (Option Int)
  | .none => .ok none
  | v => match int? v with
    | some n => .ok (some n)
    | none => .error (typeError
        "slice indices must be integers or None or have an __index__ method".toList)

def readSlice (length : Nat) (start stop step : Value) : Except Exception Slice := do
  let step ← sliceBound step
  if step = some 0 then .error (valueError "slice step cannot be zero".toList)
  else
    let start ← sliceBound start
    let stop ← sliceBound stop
    pure (.ofBounds length start stop (step.getD 1))

def sliceOf (i : Interpreter) (v start stop step : Value) : Except Exception Value :=
  match v, i.object? v with
  | .list xs, _ => (readSlice xs.length start stop step).map fun s => .list (s.select xs)
  | .tuple xs, _ => (readSlice xs.length start stop step).map fun s => .tuple (s.select xs)
  | .str t, _ => (readSlice t.length start stop step).map fun s => .str (s.select t)
  | .bytes bs, _ => (readSlice bs.length start stop step).map fun s => .bytes (s.select bs)
  | .dict _, _ => .error (typeError "unhashable type: 'slice'".toList)
  | _, _ => .error (typeError (classQuoted v ++ " object is not subscriptable".toList))

/-! ### Subscripts -/

def subscript (i : Interpreter) (v k : Value) : Except Exception Value :=
  match i.object? k with
  | some (.slice a b c) => sliceOf i v a b c
  | _ =>
    match v, int? k, i.object? v with
    | .list xs, some n, _ => itemAt "list" xs n
    | .tuple xs, some n, _ => itemAt "tuple" xs n
    | .str t, some n, _ => (itemAt "string" t n).map fun c => .str [c]
    | .bytes bs, some n, _ => (itemAt "index" bs n).map fun b => .int b.toNat
    | .dict es, _, _ => do
      checkHashable [k]
      match Value.lookup es k with
      | some w => pure w
      | none => .error ⟨"KeyError".toList, [k]⟩
    | _, some n, some (.range a b c) => itemAt "range object" (rangeItems a b c) n
    | .list _, none, _ => .error (badIndex "list" k)
    | .tuple _, none, _ => .error (badIndex "tuple" k)
    | .bytes _, none, _ => .error (badIndex "byte" k)
    | .str _, none, _ =>
      .error (typeError ("string indices must be integers, not ".toList ++ classQuoted k))
    | _, _, _ =>
      .error (typeError (classQuoted v ++ " object is not subscriptable".toList))

end Weave.Program
