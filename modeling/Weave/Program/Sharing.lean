import Weave.Program.Misplacement

/-!
# Shared and borrowed names

A name that a routine shares with the module, or borrows from a routine around, must not be used
before it says so, and a routine names every parameter once. What a routine does with names is listed
in order by `Stmt.notes`; `firstFault?` finds the first declaration that comes too late, and
`unboundBorrow?` the first name that no routine around binds.
-/

set_option autoImplicit false

namespace Weave.Program

/-- What is done with names, in the order of the source. -/
inductive Note where
  | uses (names : List Text)
  | binds (names : List Text)
  /-- Names are bound to modules or to what modules hold, which a later declaration may still share. -/
  | loads (names : List Text)
  | shares (s : Span) (names : List Text)
  | borrows (s : Span) (names : List Text)
  /-- All names of a module are bound. -/
  | bindsAll (s : Span)
  | routine (s : Span) (parameters : List Text) (notes : List Note)
deriving Inhabited

/-! ### What is done with names -/

namespace Expr

/-- The names that an expression uses where it stands, as far down as the bound goes. A comprehension
uses only those of its first source there. -/
def uses : Nat → Expr → List Text
  | 0, _ => []
  | fuel + 1, e =>
    match e with
    | .name _ n => [n]
    | .function _ ps _ => (ps.filterMap Prod.snd).flatMap (uses fuel)
    | .comprehension _ _ _ cs => (cs.take 1).flatMap fun c => uses fuel c.2.1
    | .mappingComprehension _ _ _ cs => (cs.take 1).flatMap fun c => uses fuel c.2.1
    | e => e.children.flatMap (uses fuel)

/-- The names that a target uses, apart from those that it binds. -/
def targetUses : Nat → Expr → List Text
  | 0, _ => []
  | fuel + 1, e =>
    match e with
    | .name .. => []
    | .starred _ e => targetUses fuel e
    | .items _ _ es => es.flatMap (targetUses fuel)
    | e => uses fuel e

end Expr

namespace Stmt

def valueNote (fuel : Nat) (es : List Expr) : Note := .uses (es.flatMap (Expr.uses fuel))

def targetNotes (fuel : Nat) (ts : List Expr) : List Note :=
  [.uses (ts.flatMap (Expr.targetUses fuel)), .binds (boundByEach ts)]

mutual

def notes (fuel : Nat) : Stmt → List Note
  | .expr _ e => [valueNote fuel [e]]
  | .assign _ ts e => targetNotes fuel ts ++ [valueNote fuel [e]]
  | .augment _ t _ e => targetNotes fuel [t] ++ [valueNote fuel [e]]
  | .delete _ ts => targetNotes fuel ts
  | .pass _ => []
  | .leave _ => []
  | .proceed _ => []
  | .branch _ c yes no => valueNote fuel [c] :: (notesOfEach fuel yes ++ notesOfEach fuel no)
  | .repeatWhile _ c body no =>
    valueNote fuel [c] :: (notesOfEach fuel body ++ notesOfEach fuel no)
  | .forEach _ t source body no =>
    targetNotes fuel [t] ++ valueNote fuel [source] :: (notesOfEach fuel body ++ notesOfEach fuel no)
  | .define s n ps body =>
    [.binds [n], valueNote fuel (ps.filterMap Prod.snd),
      .routine s (ps.map Prod.fst) (notesOfEach fuel body)]
  | .give _ e => [valueNote fuel e.toList]
  | .raise _ e cause => [valueNote fuel (e.toList ++ cause.toList)]
  | .load s ms => [.loads (binds (.load s ms))]
  | .loadFrom s m ns =>
    if ns.any fun n => n.1 = ['*'] then [.bindsAll s] else [.loads (binds (.loadFrom s m ns))]
  | .share s ns => [.shares s ns]
  | .borrow s ns => [.borrows s ns]
  | .check _ c m => [valueNote fuel (c :: m.toList)]

def notesOfEach (fuel : Nat) : List Stmt → List Note
  | [] => []
  | s :: ss => notes fuel s ++ notesOfEach fuel ss

end

end Stmt

/-! ### Declarations that come too late -/

/-- What has been done with names so far. -/
structure Seen where
  inRoutine : Bool := true
  parameters : List Text := []
  used : List Text := []
  bound : List Text := []

/-- Why a name can no longer be declared. -/
def Seen.late? (seen : Seen) (declaration : String) (n : Text) : Option Text :=
  let name := "name ".toList ++ Text.quote n
  let before := " prior to ".toList ++ declaration.toList ++ " declaration".toList
  if n ∈ seen.parameters then some (name ++ " is parameter and ".toList ++ declaration.toList)
  else if n ∈ seen.used then some (name ++ " is used".toList ++ before)
  else if n ∈ seen.bound then
    some (name ++ " is assigned to before ".toList ++ declaration.toList ++ " declaration".toList)
  else none

def undeclarable (s : Span) (t : Text) : Misreading := .misplaced s (.undeclarable t)

def lateFault? (seen : Seen) (s : Span) (declaration : String) (names : List Text) :
    Option Misreading :=
  (names.findSome? (seen.late? declaration)).map (undeclarable s)

def repeatedParameter? (s : Span) : List Text → Option Misreading
  | [] => none
  | p :: ps =>
    if p ∈ ps then some (undeclarable s
      ("duplicate argument ".toList ++ Text.quote p ++ " in function definition".toList))
    else repeatedParameter? s ps

/-- What has been done with names behind a note. -/
def Seen.after (seen : Seen) : Note → Seen
  | .uses ns => { seen with used := seen.used ++ ns }
  | .binds ns => { seen with bound := seen.bound ++ ns }
  | _ => seen

mutual

/-- The first declaration of a note that comes too late. -/
def Note.fault? (seen : Seen) : Note → Option Misreading
  | .uses _ => none
  | .binds _ => none
  | .loads _ => none
  | .shares s ns => lateFault? seen s "global" ns
  | .borrows s ns => lateFault? seen s "nonlocal" ns
  | .bindsAll s =>
    if seen.inRoutine then some (undeclarable s "import * only allowed at module level".toList)
    else none
  | .routine s ps notes => (repeatedParameter? s ps).or (firstFault? { parameters := ps } notes)

def firstFault? (seen : Seen) : List Note → Option Misreading
  | [] => none
  | n :: ns => (n.fault? seen).or (firstFault? (seen.after n) ns)

end

/-! ### Names that cannot be borrowed -/

/-- The names that the notes of a routine bind. -/
def namesBoundBy (notes : List Note) : List Text :=
  notes.flatMap fun n => match n with
    | .binds ns => ns
    | .loads ns => ns
    | _ => []

/-- The names that the notes of a routine share with the module. -/
def namesSharedBy (notes : List Note) : List Text :=
  notes.flatMap fun n => match n with
    | .shares _ ns => ns
    | _ => []

/-- The names that the notes of a routine borrow. -/
def namesBorrowedBy (notes : List Note) : List Text :=
  notes.flatMap fun n => match n with
    | .borrows _ ns => ns
    | _ => []

/-- What routines inside of one may borrow: what it may borrow itself and what it binds, unless it shares
that with the module. -/
def lentBy (parameters around : List Text) (notes : List Note) : List Text :=
  (around ++ parameters ++ namesBoundBy notes).filter (· ∉ namesSharedBy notes)

/-- A name cannot be both shared and borrowed. -/
def doublyDeclared (s : Span) (n : Text) : Misreading :=
  undeclarable s ("name ".toList ++ Text.quote n ++ " is nonlocal and global".toList)

/-- Why a declaration among some notes of a routine cannot be, if the routines around lend certain names.
The module, for which there is no such list, cannot borrow. -/
def borrowFault? (around : Option (List Text)) (notes : List Note) : Note → Option Misreading
  | .shares s ns => (ns.find? (· ∈ namesBorrowedBy notes)).map (doublyDeclared s)
  | .borrows s ns =>
    match around with
    | none => some (undeclarable s "nonlocal declaration not allowed at module level".toList)
    | some lent => ns.findSome? fun n =>
      if n ∈ namesSharedBy notes then some (doublyDeclared s n)
      else if n ∈ lent then none
      else some (undeclarable s ("no binding for nonlocal ".toList ++ Text.quote n ++ " found".toList))
  | _ => none

mutual

/-- The first name that a routine borrows although none of the routines around lends it; the routine
comes before those inside of it. -/
def Note.unboundBorrow? (lent : List Text) : Note → Option Misreading
  | .routine _ ps notes =>
    (notes.findSome? (borrowFault? (some lent) notes)).or (innerBorrow? (lentBy ps lent notes) notes)
  | _ => none

/-- The first such name in the routines among some notes. -/
def innerBorrow? (lent : List Text) : List Note → Option Misreading
  | [] => none
  | n :: ns => (n.unboundBorrow? lent).or (innerBorrow? lent ns)

end

/-- The first name of a program that is borrowed where nothing lends it. -/
def unboundBorrow? (notes : List Note) : Option Misreading :=
  (notes.findSome? (borrowFault? none notes)).or (innerBorrow? [] notes)

/-- What is wrong with the declarations of a program. -/
def declarationFault? (fuel : Nat) (ss : List Stmt) : Option Misreading :=
  let notes := Stmt.notesOfEach fuel ss
  (firstFault? { inRoutine := false } notes).or (unboundBorrow? notes)

/-- What is wrong with a program as a whole; the declarations of names come first. -/
def wholeFault? (fuel : Nat) (ss : List Stmt) : Option Misreading :=
  (declarationFault? fuel ss).or (programFault? fuel ss)

end Weave.Program
