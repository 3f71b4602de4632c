import Weave.Program.Misreading
import Weave.Program.Tree

/-!
# Statements out of place

What can be read and still means nothing: a return outside a routine, the end of a loop outside a
loop, an argument that is named twice, and stars where there can be only one value.
-/

set_option autoImplicit false

namespace Weave.Program

namespace Expr

def clauseParts (clauses : List (Expr × Expr × List Expr)) : List Expr :=
  clauses.flatMap fun c => c.2.1 :: c.1 :: c.2.2

def children : Expr → List Expr
  | literal .. => []
  | ellipsis _ => []
  | name .. => []
  | items _ _ es => es
  | starred _ e => [e]
  | mapping _ es => es.flatMap fun e => e.1.toList ++ [e.2]
  | template _ ps => ps
  | field _ e _ f => e :: f
  | unary _ _ e => [e]
  | binary _ _ l r => [l, r]
  | compare _ e es => e :: es.map Prod.snd
  | both _ l r => [l, r]
  | either _ l r => [l, r]
  | choice _ c y n => [c, y, n]
  | member _ e _ => [e]
  | subscript _ e i => [e, i]
  | slice _ a b c => a.toList ++ b.toList ++ c.toList
  | call _ f as ns => f :: as ++ ns.map fun n => n.2.2
  | comprehension _ _ e cs => clauseParts cs ++ [e]
  | mappingComprehension _ k v cs => clauseParts cs ++ [k, v]
  | function _ ps e => ps.filterMap Prod.snd ++ [e]

end Expr

namespace Misreading

def misplaced (s : Span) (c : Complaint) : Misreading := ⟨c, .ofBareSpan s⟩

end Misreading

/-- The first argument that has the name of an earlier one. -/
def repeatedName? : List (Option Text × Span × Expr) → Option Misreading
  | [] => none
  | (n, _) :: ns =>
    let again := ns.find? fun m => m.1.isSome && m.1 = n
    (again.map fun m => .misplaced m.2.1 (.repeatedArgument (m.1.getD []))).or (repeatedName? ns)

def isStarred : Expr → Bool
  | .starred .. => true
  | _ => false

/-- What is wrong with the stars of a target. -/
def targetFault? : Expr → Option Misreading
  | .starred s _ => some (.misplaced s (.starredTarget false))
  | .items s _ es =>
    if (es.filter isStarred).length > 1 then some (.misplaced s (.starredTarget true)) else none
  | _ => none

def clausesFault? (clauses : List (Expr × Expr × List Expr)) : Option Misreading :=
  clauses.findSome? fun c => targetFault? c.1

/-- What is wrong with an expression itself. -/
def ownFault? : Expr → Option Misreading
  | .call _ _ _ ns => repeatedName? ns
  | .comprehension _ _ _ cs => clausesFault? cs
  | .mappingComprehension _ _ _ cs => clausesFault? cs
  | _ => none

/-- The first thing that means nothing within an expression, as far down as the bound goes. -/
def Expr.fault? : Nat → Expr → Option Misreading
  | 0, _ => none
  | fuel + 1, e => (ownFault? e).or (e.children.findSome? (Expr.fault? fuel))

/-- An expression that has to be one value. -/
def valueFault? (fuel : Nat) : Expr → Option Misreading
  | .starred s _ => some (.misplaced s .starredValue)
  | e => e.fault? fuel

def targetsFault? (fuel : Nat) (ts : List Expr) : Option Misreading :=
  ts.findSome? fun t => (targetFault? t).or (t.fault? fuel)

mutual

/-- The first thing that means nothing within a statement, which stands in a routine or in a loop. -/
def Stmt.fault? (fuel : Nat) (inRoutine inLoop : Bool) : Stmt → Option Misreading
  | .expr _ e => valueFault? fuel e
  | .assign _ ts e => (valueFault? fuel e).or (targetsFault? fuel ts)
  | .augment _ t _ e => (t.fault? fuel).or (valueFault? fuel e)
  | .delete _ ts => ts.findSome? (Expr.fault? fuel)
  | .pass _ => none
  | .leave s => if inLoop then none else some (.misplaced s (.misplaced "'break' outside loop"))
  | .proceed s =>
    if inLoop then none else some (.misplaced s (.misplaced "'continue' not properly in loop"))
  | .branch _ c yes no =>
    (valueFault? fuel c).or ((Stmt.faultOfEach? fuel inRoutine inLoop yes).or
      (Stmt.faultOfEach? fuel inRoutine inLoop no))
  | .repeatWhile _ c body no =>
    (valueFault? fuel c).or ((Stmt.faultOfEach? fuel inRoutine true body).or
      (Stmt.faultOfEach? fuel inRoutine inLoop no))
  | .forEach _ t source body no =>
    (valueFault? fuel source).or ((targetsFault? fuel [t]).or
      ((Stmt.faultOfEach? fuel inRoutine true body).or (Stmt.faultOfEach? fuel inRoutine inLoop no)))
  | .define _ _ ps body =>
    ((ps.filterMap Prod.snd).findSome? (Expr.fault? fuel)).or (Stmt.faultOfEach? fuel true false body)
  | .give s e =>
    if inRoutine then e.bind (valueFault? fuel)
    else some (.misplaced s (.misplaced "'return' outside function"))
  | .raise _ e cause => (e.bind (valueFault? fuel)).or (cause.bind (valueFault? fuel))
  | .load .. => none
  | .loadFrom .. => none
  | .share .. => none
  | .borrow .. => none
  | .check _ c m => (c.fault? fuel).or (m.bind (Expr.fault? fuel))

def Stmt.faultOfEach? (fuel : Nat) (inRoutine inLoop : Bool) : List Stmt → Option Misreading
  | [] => none
  | s :: ss => (Stmt.fault? fuel inRoutine inLoop s).or (Stmt.faultOfEach? fuel inRoutine inLoop ss)

end

/-- The first thing that means nothing within a whole program. -/
def programFault? (fuel : Nat) (ss : List Stmt) : Option Misreading :=
  Stmt.faultOfEach? fuel false false ss

end Weave.Program
