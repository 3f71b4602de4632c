import Weave.Value.Order

/-!
# Sorting

Stable merge sort of natural runs by a test that may fail and need not be a total order, so that which
items are compared and when is part of the result. Short runs are extended by binary insertion; merges
look ahead when one side wins often; which runs are merged first follows from their places.
-/

set_option autoImplicit false

namespace Weave.Sorted

variable {m : Type → Type} [Monad m] {α : Type}

/-! ### Runs -/

/-- Goes on with an ascending run that ends with `x`; the run is given back to front. -/
def ascending (lt : α → α → m Bool) : List α → α → List α → m (List α × List α)
  | run, x, [] => pure ((x :: run).reverse, [])
  | run, x, y :: ys => do
    if ← lt y x then pure ((x :: run).reverse, y :: ys) else ascending lt (x :: run) y ys

/-- Goes on with a strictly descending run that ends with `x`. -/
def descending (lt : α → α → m Bool) : List α → α → List α → m (List α × List α)
  | run, x, [] => pure (x :: run, [])
  | run, x, y :: ys => do
    if ← lt y x then descending lt (x :: run) y ys else pure (x :: run, y :: ys)

/-- The longest run at the front that ascends, or strictly descends and is reversed, and what follows. -/
def firstRun (lt : α → α → m Bool) : List α → m (List α × List α)
  | [] => pure ([], [])
  | [x] => pure ([x], [])
  | x :: y :: ys => do
    if ← lt y x then descending lt [x] y ys else ascending lt [x] y ys

/-! ### Searching -/

/-- The position between `lo` and `hi` up to which the test holds, by halving. -/
def halve (holds : α → m Bool) (xs : Array α) : Nat → Nat → Nat → m Nat
  | 0, lo, _ => pure lo
  | fuel + 1, lo, hi =>
    if lo < hi then
      let mid := lo + (hi - lo) / 2
      match xs[mid]? with
      | none => pure lo
      | some y => do
        if ← holds y then halve holds xs fuel (mid + 1) hi else halve holds xs fuel lo mid
    else pure lo

/-- Strides of 1, 3, 7 and so on below `limit`, as long as the test gives `wanted` there: the last
stride for which it did and the first for which it did not. -/
def stride (wanted : Bool) (test : Nat → m Bool) (limit : Nat) : Nat → Nat → Nat → m (Nat × Nat)
  | 0, last, n => pure (last, min n limit)
  | fuel + 1, last, n =>
    if n < limit then do
      if (← test n) = wanted then stride wanted test limit fuel n (2 * n + 1) else pure (last, n)
    else pure (last, limit)

/-- The number of items at the front for which the test holds, looked for from a position on. -/
def boundary (holds : α → m Bool) (xs : Array α) (start : Nat) : m Nat := do
  let test := fun i => match xs[i]? with
    | some x => holds x
    | none => pure false
  let fuel := xs.size + 1
  if ← test start then
    let (last, n) ← stride true (fun n => test (start + n)) (xs.size - start) fuel 0 1
    halve holds xs fuel (start + last + 1) (start + n)
  else
    let (last, n) ← stride false (fun n => test (start - n)) (start + 1) fuel 0 1
    halve holds xs fuel (start + 1 - n) (start - last)

def insert (lt : α → α → m Bool) (xs : List α) (x : α) : m (List α) := do
  let i ← halve (fun y => return !(← lt x y)) xs.toArray (xs.length + 1) 0 xs.length
  pure (xs.take i ++ x :: xs.drop i)

/-! ### Merging -/

/-- Two runs that are merged into `out`, which is latest first. `patience` is how often one side has
to win in a row before it is searched ahead. -/
structure Merge (α : Type) where
  left : List α
  right : List α
  out : List α
  patience : Nat

/-- The test of a merge: whether the first item of `left` comes before the first of `right`. A merge
from the back has its runs reversed. -/
structure Direction (m : Type → Type) (α : Type) where
  before : α → α → m Bool
  fromBack : Bool

namespace Merge

/-- With nothing on the left, or one item on the right, what is left is in place. -/
def isDone (s : Merge α) : Bool :=
  match s.left, s.right with
  | [], _ | _, [] | _, [_] => true
  | _, _ => false

def result (s : Merge α) : List α := s.out.reverse ++ s.left ++ s.right

def takeLeft (n : Nat) (s : Merge α) : Merge α :=
  { s with left := s.left.drop n, out := (s.left.take n).reverse ++ s.out }

def takeRight (n : Nat) (s : Merge α) : Merge α :=
  { s with right := s.right.drop n, out := (s.right.take n).reverse ++ s.out }

/-- Item by item, until one side has won too often in a row. -/
def alternate (d : Direction m α) : Nat → Nat → Nat → Merge α → m (Merge α)
  | 0, _, _, s => pure s
  | fuel + 1, lefts, rights, s =>
    match s.left, s.right with
    | x :: _, y :: _ => do
      if ← d.before x y then
        let s := s.takeLeft 1
        if s.isDone || lefts + 1 ≥ s.patience then pure s else alternate d fuel (lefts + 1) 0 s
      else
        let s := s.takeRight 1
        if s.isDone || rights + 1 ≥ s.patience then pure s else alternate d fuel 0 (rights + 1) s
    | _, _ => pure s

/-- How many items at the front of a run the test holds for. -/
def ahead (d : Direction m α) (holds : α → m Bool) (xs : List α) : m Nat := do
  if d.fromBack then
    let n ← boundary (fun x => return !(← holds x)) xs.reverse.toArray (xs.length - 1)
    pure (xs.length - n)
  else boundary holds xs.toArray 0

/-- Takes everything on the left that comes before the right side, and one item from there. -/
def leapLeft (d : Direction m α) (s : Merge α) : m (Nat × Merge α) :=
  match s.right with
  | [] => pure (0, s)
  | y :: _ => do
    let n ← ahead d (fun x => d.before x y) s.left
    let s := s.takeLeft n
    pure (n, if s.left.isEmpty then s else s.takeRight 1)

def leapRight (d : Direction m α) (s : Merge α) : m (Nat × Merge α) :=
  match s.left with
  | [] => pure (0, s)
  | x :: _ => do
    let n ← ahead d (fun y => return !(← d.before x y)) s.right
    let s := s.takeRight n
    pure (n, if s.isDone then s else s.takeLeft 1)

def leastLeap : Nat := 7

/-- Searches ahead on both sides as long as that takes many items at once. -/
def leap (d : Direction m α) : Nat → Merge α → m (Merge α)
  | 0, s => pure s
  | fuel + 1, s => do
    let s := { s with patience := if s.patience > 1 then s.patience - 1 else s.patience }
    let (n, s) ← if d.fromBack then leapLeft d s else leapRight d s
    if s.isDone then pure s
    else
      let (k, s) ← if d.fromBack then leapRight d s else leapLeft d s
      if s.isDone then pure s
      else if n ≥ leastLeap || k ≥ leastLeap then leap d fuel s
      else pure { s with patience := s.patience + 1 }

def run (d : Direction m α) : Nat → Merge α → m (Merge α)
  | 0, s => pure s
  | fuel + 1, s =>
    if s.isDone then pure s
    else do
      let size := s.left.length + s.right.length + 1
      let s ← alternate d size 0 0 s
      if s.isDone then pure s
      else
        let s ← leap d size { s with patience := s.patience + 1 }
        run d fuel s

end Merge

/-- Merges two sorted runs, the shorter one aside. What is in place on either end stays there. -/
def merge (lt : α → α → m Bool) (patience : Nat) (as bs : List α) : m (List α × Nat) :=
  match bs with
  | [] => pure (as, patience)
  | b :: _ => do
    let k ← boundary (fun x => return !(← lt b x)) as.toArray 0
    match (as.drop k).getLast? with
    | none => pure (as ++ bs, patience)
    | some a => do
      let n ← boundary (fun x => lt x a) bs.toArray (bs.length - 1)
      let front := as.take k
      let back := bs.drop n
      let as := as.drop k
      let bs := bs.take n
      let size := as.length + bs.length + 1
      if bs.isEmpty then pure (front ++ as ++ back, patience)
      else if as.length ≤ bs.length then
        let s ← Merge.run ⟨lt, false⟩ size (Merge.takeLeft 1 ⟨bs, as, [], patience⟩)
        pure (front ++ s.result ++ back, s.patience)
      else
        let s ← Merge.run ⟨fun x y => lt y x, true⟩ size
          (Merge.takeLeft 1 ⟨as.reverse, bs.reverse, [], patience⟩)
        pure (front ++ s.result.reverse ++ back, s.patience)

/-! ### The order of merges -/

/-- A run at a place, and how soon it is merged with the next one: the higher, the sooner. -/
structure Pending (α : Type) where
  start : Nat
  items : List α
  power : Nat := 0

/-- The depth at which a balanced division of `n` places separates the middles of two neighbours,
given as twice their distances from the start. -/
def power (n : Nat) : Nat → Nat → Nat → Nat
  | 0, _, _ => 0
  | fuel + 1, a, b =>
    if a ≥ n then power n fuel (2 * (a - n)) (2 * (b - n)) + 1
    else if b ≥ n then 1
    else power n fuel (2 * a) (2 * b) + 1

def join (lt : α → α → m Bool) (patience : Nat) (p q : Pending α) : m (Pending α × Nat) := do
  let (items, patience) ← merge lt patience p.items q.items
  pure (⟨p.start, items, p.power⟩, patience)

/-- Merges the latest runs as long as the one below the top has a higher power. -/
def settle (lt : α → α → m Bool) (limit : Nat) : Nat → List (Pending α) → Nat →
    m (List (Pending α) × Nat)
  | 0, ps, patience => pure (ps, patience)
  | fuel + 1, ps, patience =>
    match ps with
    | top :: below :: ps' =>
      if below.power > limit then do
        let (p, patience) ← join lt patience below top
        settle lt limit fuel (p :: ps') patience
      else pure (ps, patience)
    | _ => pure (ps, patience)

def finish (lt : α → α → m Bool) : Nat → List (Pending α) → Nat → m (List α)
  | 0, ps, _ => pure (ps.reverse.flatMap Pending.items)
  | fuel + 1, ps, patience =>
    match ps with
    | [] => pure []
    | [p] => pure p.items
    | top :: below :: ps' =>
      match ps' with
      | third :: rest =>
        if third.items.length < top.items.length then do
          let (p, patience) ← join lt patience third below
          finish lt fuel (top :: p :: rest) patience
        else do
          let (p, patience) ← join lt patience below top
          finish lt fuel (p :: ps') patience
      | [] => do
        let (p, patience) ← join lt patience below top
        finish lt fuel [p] patience

/-- The length up to which runs are extended: the first six bits of `n`, rounded up. -/
def leastRun (n : Nat) : Nat :=
  if n < 64 then n else go n false n
where
  go : Nat → Bool → Nat → Nat
    | 0, _, n => n
    | fuel + 1, lost, n =>
      if n < 64 then n + (if lost then 1 else 0) else go fuel (lost || n % 2 = 1) (n / 2)

/-- Reads the runs of the rest of a list of `n` items and merges some of them. -/
def collect (lt : α → α → m Bool) (n : Nat) : Nat → List (Pending α) → Nat → List α → m (List α)
  | 0, ps, patience, _ => finish lt (ps.length + 1) ps patience
  | fuel + 1, ps, patience, xs =>
    if xs.isEmpty then finish lt (ps.length + 1) ps patience
    else do
      let (run, rest) ← firstRun lt xs
      let more := leastRun n - run.length
      let run ← (rest.take more).foldlM (insert lt) run
      let rest := rest.drop more
      match ps with
      | [] => collect lt n fuel [⟨0, run, 0⟩] patience rest
      | top :: _ =>
        let a := 2 * top.start + top.items.length
        let b := a + top.items.length + run.length
        let limit := power n (n + 2) a b
        let start := top.start + top.items.length
        let (ps, patience) ← settle lt limit (ps.length + 1) ps patience
        let ps := match ps with
          | top :: ps => { top with power := limit } :: ps
          | [] => []
        collect lt n fuel (⟨start, run, 0⟩ :: ps) patience rest

def sortM (lt : α → α → m Bool) (xs : List α) : m (List α) :=
  collect lt xs.length (xs.length + 1) [] Merge.leastLeap xs

def sort (lt : α → α → Bool) (xs : List α) : List α :=
  Id.run (sortM (fun x y => pure (lt x y)) xs)

end Weave.Sorted
