import Weave.Program.Place
import Weave.Value

/-!
# Programs

The trees of expressions and statements. Every node knows the piece of the source it was read from.
-/

set_option autoImplicit false

namespace Weave.Program

inductive UnaryOp where
  | plus
  | minus
  | invert
  | not
deriving DecidableEq, Repr, Inhabited

inductive BinaryOp where
  | add
  | subtract
  | multiply
  | power
  | divide
  | floorDivide
  | modulo
  | shiftLeft
  | shiftRight
  | bitAnd
  | bitOr
  | bitXor
  | matrixMultiply
deriving DecidableEq, Repr, Inhabited

inductive Comparison where
  | equal
  | unequal
  | less
  | lessEqual
  | greater
  | greaterEqual
  | within
  | without
  | same
  | different
deriving DecidableEq, Repr, Inhabited

inductive Brackets where
  | list
  | tuple
  | set
deriving DecidableEq, Repr, Inhabited

/-- How the value of a field becomes a text before it is formatted, if it does. -/
inductive Conversion where
  | none
  | plain
  | written
  | ascii
deriving DecidableEq, Repr, Inhabited

inductive Expr where
  | literal (s : Span) (v : Value)
  | ellipsis (s : Span)
  | name (s : Span) (n : Text)
  | items (s : Span) (b : Brackets) (es : List Expr)
  /-- Several items in the place of one. -/
  | starred (s : Span) (e : Expr)
  /-- Entries, of which those without a key stand for all entries of another mapping. -/
  | mapping (s : Span) (entries : List (Option Expr × Expr))
  /-- A text put together of its parts. -/
  | template (s : Span) (parts : List Expr)
  /-- A field of such a text, with the parts of its format. -/
  | field (s : Span) (e : Expr) (c : Conversion) (format : List Expr)
  | unary (s : Span) (op : UnaryOp) (e : Expr)
  | binary (s : Span) (op : BinaryOp) (l r : Expr)
  | compare (s : Span) (first : Expr) (others : List (Comparison × Expr))
  | both (s : Span) (l r : Expr)
  | either (s : Span) (l r : Expr)
  | choice (s : Span) (condition yes no : Expr)
  | member (s : Span) (e : Expr) (n : Text)
  | subscript (s : Span) (e i : Expr)
  | slice (s : Span) (start stop step : Option Expr)
  /-- A call, whose named arguments without a name stand for all entries of a mapping. -/
  | call (s : Span) (f : Expr) (arguments : List Expr) (named : List (Option Text × Span × Expr))
  /-- Values for the items of sources, each with a target and conditions. -/
  | comprehension (s : Span) (b : Brackets) (element : Expr)
      (clauses : List (Expr × Expr × List Expr))
  | mappingComprehension (s : Span) (key value : Expr) (clauses : List (Expr × Expr × List Expr))
  | function (s : Span) (parameters : List (Text × Option Expr)) (body : Expr)
deriving Inhabited

namespace Expr

def span : Expr → Span
  | literal s _ => s
  | ellipsis s => s
  | name s _ => s
  | items s _ _ => s
  | starred s _ => s
  | mapping s _ => s
  | template s _ => s
  | field s _ _ _ => s
  | unary s _ _ => s
  | binary s _ _ _ => s
  | compare s _ _ => s
  | both s _ _ => s
  | either s _ _ => s
  | choice s _ _ _ => s
  | member s _ _ => s
  | subscript s _ _ => s
  | slice s _ _ _ => s
  | call s _ _ _ => s
  | comprehension s _ _ _ => s
  | mappingComprehension s _ _ _ => s
  | function s _ _ => s

end Expr

inductive Stmt where
  | expr (s : Span) (e : Expr)
  | assign (s : Span) (targets : List Expr) (e : Expr)
  | augment (s : Span) (target : Expr) (op : BinaryOp) (e : Expr)
  | delete (s : Span) (targets : List Expr)
  | pass (s : Span)
  | leave (s : Span)
  | proceed (s : Span)
  | branch (s : Span) (condition : Expr) (yes no : List Stmt)
  | repeatWhile (s : Span) (condition : Expr) (body no : List Stmt)
  | forEach (s : Span) (target source : Expr) (body no : List Stmt)
  | define (s : Span) (n : Text) (parameters : List (Text × Option Expr)) (body : List Stmt)
  | give (s : Span) (e : Option Expr)
  /-- Raises an exception, which may have a cause. -/
  | raise (s : Span) (e cause : Option Expr)
  | load (s : Span) (modules : List (Text × Option Text))
  | loadFrom (s : Span) (moduleName : Text) (names : List (Text × Option Text))
  /-- Names that belong to the module. -/
  | share (s : Span) (names : List Text)
  /-- Names that belong to a routine around. -/
  | borrow (s : Span) (names : List Text)
  | check (s : Span) (condition : Expr) (message : Option Expr)
deriving Inhabited

namespace Stmt

mutual

def boundBy : Expr → List Text
  | .name _ n => [n]
  | .starred _ e => boundBy e
  | .items _ _ es => boundByEach es
  | _ => []

def boundByEach : List Expr → List Text
  | [] => []
  | e :: es => boundBy e ++ boundByEach es

end

def firstName (t : Text) : Text := t.takeWhile (· ≠ '.')

mutual

def binds : Stmt → List Text
  | .assign _ ts _ => boundByEach ts
  | .augment _ t _ _ => boundBy t
  | .delete _ ts => boundByEach ts
  | .branch _ _ yes no => bindsEach yes ++ bindsEach no
  | .repeatWhile _ _ body no => bindsEach body ++ bindsEach no
  | .forEach _ t _ body no => boundBy t ++ bindsEach body ++ bindsEach no
  | .define _ n _ _ => [n]
  | .load _ ms => ms.map fun m => m.2.getD (firstName m.1)
  | .loadFrom _ _ ns => ns.map fun n => n.2.getD n.1
  | _ => []

def bindsEach : List Stmt → List Text
  | [] => []
  | s :: ss => binds s ++ bindsEach ss

end

mutual

/-- The names that statements take from the module around. -/
def shares : Stmt → List Text
  | .share _ ns => ns
  | .branch _ _ yes no => sharesEach yes ++ sharesEach no
  | .repeatWhile _ _ body no => sharesEach body ++ sharesEach no
  | .forEach _ _ _ body no => sharesEach body ++ sharesEach no
  | _ => []

def sharesEach : List Stmt → List Text
  | [] => []
  | s :: ss => shares s ++ sharesEach ss

end

mutual

/-- The names that statements take from a routine around. -/
def borrows : Stmt → List Text
  | .borrow _ ns => ns
  | .branch _ _ yes no => borrowsEach yes ++ borrowsEach no
  | .repeatWhile _ _ body no => borrowsEach body ++ borrowsEach no
  | .forEach _ _ _ body no => borrowsEach body ++ borrowsEach no
  | _ => []

def borrowsEach : List Stmt → List Text
  | [] => []
  | s :: ss => borrows s ++ borrowsEach ss

end

end Stmt

/-! ### What can be assigned -/

namespace Expr

/-- What an expression is called where it must not stand. -/
def label : Expr → String
  | literal _ .none => "None"
  | literal _ (.bool b) => if b then "True" else "False"
  | literal .. => "literal"
  | ellipsis _ => "ellipsis"
  | name .. => "name"
  | items _ .list _ => "list"
  | items _ .tuple _ => "tuple"
  | items _ .set _ => "set display"
  | starred .. => "starred"
  | mapping .. => "dict literal"
  | template .. => "f-string expression"
  | field .. => "f-string expression"
  | unary .. => "expression"
  | binary .. => "expression"
  | both .. => "expression"
  | either .. => "expression"
  | compare .. => "comparison"
  | choice .. => "conditional expression"
  | member .. => "attribute"
  | subscript .. => "subscript"
  | slice .. => "slice"
  | call .. => "function call"
  | comprehension _ .list _ _ => "list comprehension"
  | comprehension _ .tuple _ _ => "generator expression"
  | comprehension _ .set _ _ => "set comprehension"
  | mappingComprehension .. => "dict comprehension"
  | function .. => "lambda"

mutual

/-- What of an expression keeps it from being assigned to, or deleted. A star in front of a target does
not keep it from being assigned to. -/
def obstacle? (isDeletion : Bool) : Expr → Option Expr
  | name .. => none
  | member .. => none
  | subscript .. => none
  | starred s e => if isDeletion then some (starred s e) else obstacle? isDeletion e
  | items s b es => if b = .set then some (items s b es) else firstObstacle? isDeletion es
  | e => some e

def firstObstacle? (isDeletion : Bool) : List Expr → Option Expr
  | [] => none
  | e :: es => (obstacle? isDeletion e).or (firstObstacle? isDeletion es)

end

def isTarget (e : Expr) : Bool := (obstacle? false e).isNone

/-- Names, members and subscripts. -/
def isSingleTarget : Expr → Bool
  | name .. => true
  | member .. => true
  | subscript .. => true
  | _ => false

/-- An expression that operators can stand around without parentheses and that can be compared with
something else, where an assignment makes no sense. -/
def isOperand : Expr → Bool
  | unary _ .not _ => false
  | both .. => false
  | either .. => false
  | compare .. => false
  | choice .. => false
  | function .. => false
  | starred .. => false
  | _ => true

/-- Several values, or a constant with a name: no hint is given about comparing it. -/
def isPlural : Expr → Bool
  | items _ .list _ => true
  | items _ .tuple _ => true
  | comprehension _ .tuple _ _ => true
  | literal _ .none => true
  | literal _ (.bool _) => true
  | _ => false

end Expr

end Weave.Program
