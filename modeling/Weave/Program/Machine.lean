import Weave.Action
import Weave.Program.Operators
import Weave.Repl
import Weave.World

/-!
# Machines

What a running program has around it: the names that snippets have bound, the modules loaded so far,
the objects that values refer to, and the source of everything that has been run.
-/

set_option autoImplicit false

namespace Weave.Program

/-- The names of a routine, and the room in which they are bound. -/
structure Locals where
  own : List Text
  /-- The names that belong to the module all the same. -/
  shared : List Text := []
  room : Nat
deriving Repr, Inhabited

/-- A function that a program has defined. -/
structure Routine where
  name : Text
  /-- The name behind those of the routines around. -/
  label : Text
  /-- The parameters, with the defaults of some. -/
  parameters : List (Text × Option Value)
  body : List Stmt
  source : Text
  /-- The module, unless it is the session's own. -/
  home : Option Text
  /-- The names of the routines around, the innermost first. -/
  around : List Locals
deriving Inhabited

/-- What a value that is no plain data stands for. -/
inductive Object where
  | builtin (name : Text)
  | kind (name : Text)
  /-- A value that is known by its name alone. -/
  | constant (className name : Text)
  | routine (r : Routine)
  /-- A function of a value. -/
  | method (self : Value) (name : Text)
  | moduleNamed (name : Text)
  | exception (e : Exception)
  | stream (s : Stream)
  | file (content : Text)
  | range (start stop step : Int)
  | slice (start stop step : Value)
  | view (className : Text) (items : List Value)
  | thread (target : Value) (arguments : List Value)
  | repl
  | eventLoop
  | replMember (m : ReplMember Value)
deriving Inhabited

/-- Where a program is: the source, the routine and its own names. -/
structure Scope where
  source : Text
  routine : Text := "<module>".toList
  /-- What stands in the labels of routines that are defined here, in front of their names. -/
  labelStart : Text := []
  /-- The names of the routine and of those around it, the innermost first. -/
  locals : List Locals := []
  /-- The module, unless it is the session's own. -/
  home : Option Text := none
  thread : Nat := 0
deriving Inhabited

/-- A routine that had not ended when an exception was raised, and where it was. -/
structure Frame where
  source : Text
  routine : Text
  span : Span
deriving DecidableEq, Repr, Inhabited

/-- Why a statement or an expression does not come to its end. -/
inductive Stop where
  /-- The frames from the outermost to the innermost. -/
  | raised (e : Exception) (trace : List Frame)
  | given (v : Value)
  | left
  | proceeded
  /-- The bound on the number of steps has been reached. -/
  | exhausted
deriving Inhabited

/-! ### The objects there are from the beginning -/

def builtinNames : List Text :=
  [ "print", "len", "sum", "sorted", "min", "max", "repr", "ascii", "format", "abs", "divmod", "pow",
    "round", "open", "any", "all", "isinstance", "chr", "ord", "bin", "oct", "hex",
    "callable" ].map String.toList

/-- The classes that can be called, apart from those of exceptions. -/
def kindNames : List Text :=
  [ "str", "int", "float", "bool", "list", "tuple", "dict", "set", "frozenset", "bytes", "range",
    "type", "object", "enumerate", "zip", "map", "filter", "reversed",
    "slice" ].map String.toList

def moduleFunctions : List Text :=
  [ "sys.exit", "os.chdir", "os.getcwd", "os.path.join", "os.path.exists", "os.path.basename",
    "json.dumps", "json.loads", "threading.Thread" ].map String.toList

def constants : List (String × String) :=
  [("NotImplemented", "NotImplementedType"), ("Ellipsis", "ellipsis")]

def firstObjects : List Object :=
  builtinNames.map .builtin ++ kindNames.map .kind ++ Exception.kinds.map .kind
    ++ moduleFunctions.map .builtin
    ++ constants.map (fun c => .constant c.2.toList c.1.toList)
    ++ [.stream .output, .stream .error, .repl, .eventLoop]

def Object.className : Object → Text
  | .builtin _ => "builtin_function_or_method".toList
  | .kind _ => "type".toList
  | .constant c _ => c
  | .routine _ => "function".toList
  | .method .. => "builtin_function_or_method".toList
  | .moduleNamed _ => "module".toList
  | .exception e => e.kind
  | .stream _ => "TextIOWrapper".toList
  | .file _ => "TextIOWrapper".toList
  | .range .. => "range".toList
  | .slice .. => "slice".toList
  | .view name _ => name
  | .thread .. => "Thread".toList
  | .repl => "NoOpReplObject".toList
  | .eventLoop => "NoOpEventLoop".toList
  | .replMember _ => "method".toList

def Object.written : Object → Text
  | .builtin n =>
    "<built-in function ".toList ++ ((Text.splitOn '.' n).getLast?.getD []) ++ ['>']
  | .kind n => Value.classText n
  | .constant _ n => n
  | .exception e => e.written
  | .range a b c =>
    "range(".toList ++ Text.ofInt a ++ ", ".toList ++ Text.ofInt b
      ++ (if c = 1 then [] else ", ".toList ++ Text.ofInt c) ++ [')']
  | .slice a b c => "slice".toList ++ (Value.tuple [a, b, c]).written
  | .view name items =>
    if Text.startsWith name "dict_".toList then
      name ++ '(' :: (Value.list items).written ++ [')']
    else Value.objectText name
  | o => Value.objectText o.className

def Object.value (o : Object) (id : Nat) : Value := .object o.className id o.written

/-- The value of the first object that satisfies a test. -/
def firstObject? (p : Object → Bool) : Option Value :=
  match firstObjects.findIdx? p with
  | some i => (firstObjects[i]?).map fun o => o.value i
  | none => none

def builtin? (name : Text) : Option Value :=
  let name := ((Exception.aliases.find? fun a => a.1.toList = name).map fun a => a.2.toList).getD name
  firstObject? fun o => match o with
    | .builtin n => n = name
    | .kind n => n = name
    | .constant _ n => n = name
    | _ => false

def stream (s : Stream) : Value :=
  (firstObject? fun o => match o with
    | .stream t => t = s
    | _ => false).getD .none

def replObject : Value :=
  (firstObject? fun o => match o with
    | .repl => true
    | _ => false).getD .none

def eventLoop : Value :=
  (firstObject? fun o => match o with
    | .eventLoop => true
    | _ => false).getD .none

/-! ### Interpreters -/

/-- The lines of a source. -/
structure Listing where
  /-- The lines that are shown, with what ends them. -/
  shown : List Text
  /-- The lines in which columns are counted. -/
  read : List Text
deriving Repr, Inhabited

/-- The lines of a text of which a part has been read. -/
def Listing.ofText (shown read : Text) : Listing :=
  ⟨Text.linesWithEnds shown, (Text.cutLines Text.isProgramLineEnd read).map Text.Line.body⟩

structure Interpreter where
  /-- How many snippets have been run. -/
  count : Nat := 0
  /-- What the session's names are bound to. -/
  names : Dictionary Value := {}
  repl : Repl Value := Repl.initial id
  objects : Array Object := firstObjects.toArray
  /-- What the names of routines are bound to, for every time one was begun. -/
  rooms : Array (Dictionary Value) := #[]
  modules : Dictionary (Dictionary Value) := {}
  /-- The lines of every source. -/
  listings : Dictionary Listing := {}
  scope : Scope := { source := [] }
deriving Inhabited

abbrev Machine := World × Interpreter

abbrev Run (α : Type) := Action Machine Stop α

namespace Interpreter

def object? (i : Interpreter) : Value → Option Object
  | .object _ n _ => i.objects[n]?
  | _ => none

/-- A new object and the value that refers to it. -/
def alloc (i : Interpreter) (o : Object) : Value × Interpreter :=
  (o.value i.objects.size, { i with objects := i.objects.push o })

/-- A new room with some names bound. -/
def addRoom (i : Interpreter) (d : Dictionary Value) : Nat × Interpreter :=
  (i.rooms.size, { i with rooms := i.rooms.push d })

/-- The names around a routine. -/
def globals (i : Interpreter) : Dictionary Value :=
  match i.scope.home with
  | some m => (i.modules.get? m).getD {}
  | none => i.names

def setGlobals (i : Interpreter) (d : Dictionary Value) : Interpreter :=
  match i.scope.home with
  | some m => { i with modules := i.modules.set m d }
  | none => { i with names := d }

end Interpreter

namespace Run

variable {α : Type}

def frameAt (s : Span) (i : Interpreter) : Frame := ⟨i.scope.source, i.scope.routine, s⟩

def raiseAt (s : Span) (e : Exception) : Run α := fun m =>
  (.error (.raised e [frameAt s m.2]), m)

def orRaise (s : Span) : Except Exception α → Run α
  | .ok a => pure a
  | .error e => raiseAt s e

def interpreter : Run Interpreter := fun m => (.ok m.2, m)

def changeInterpreter (f : Interpreter → Interpreter) : Run Unit := Action.change fun m => (m.1, f m.2)

def alloc (o : Object) : Run Value := fun m =>
  let (v, i) := m.2.alloc o
  (.ok v, m.1, i)

/-- Acts in another scope and comes back. -/
def inScope (scope : Scope) (p : Run α) : Run α := fun m =>
  let (r, t) := p (m.1, { m.2 with scope })
  (r, t.1, { t.2 with scope := m.2.scope })

/-- Acts on behalf of a routine that is at a piece of the source. -/
def under (f : Frame) (p : Run α) : Run α :=
  Action.mapError (fun stop => match stop with
    | .raised e trace => .raised e (f :: trace)
    | other => other) p

def write (s : Stream) (t : Text) : Run Unit := fun m =>
  (.ok (), { m.1 with console := m.1.console.write m.2.scope.thread ⟨s, t⟩ }, m.2)

end Run

/-! ### Names -/

def nameError (n : Text) : Exception :=
  .ofMessage "NameError" ("name ".toList ++ Text.quote n ++ " is not defined".toList)

def unboundError (n : Text) : Exception :=
  .ofMessage "UnboundLocalError" ("cannot access local variable ".toList ++ Text.quote n
    ++ " where it is not associated with a value".toList)

def unboundAround (n : Text) : Exception :=
  .ofMessage "NameError" ("cannot access free variable ".toList ++ Text.quote n
    ++ " where it is not associated with a value in enclosing scope".toList)

/-- The room that a name belongs to, unless it is the module's. -/
def roomOf? (n : Text) : List Locals → Option Nat
  | [] => none
  | l :: ls => if n ∈ l.own then some l.room else if n ∈ l.shared then none else roomOf? n ls

/-- Why a name is not bound in its room. -/
def unbound (i : Interpreter) (n : Text) : Exception :=
  if i.scope.locals.head?.any fun l => n ∈ l.own then unboundError n else unboundAround n

def lookUp (i : Interpreter) (n : Text) : Except Exception Value :=
  match roomOf? n i.scope.locals with
  | some r =>
    match (i.rooms[r]?).bind fun d => d.get? n with
    | some v => .ok v
    | none => .error (unbound i n)
  | none =>
    match i.globals.get? n with
    | some v => .ok v
    | none => match builtin? n with
      | some v => .ok v
      | none => .error (nameError n)

def bind (n : Text) (v : Value) (i : Interpreter) : Interpreter :=
  match roomOf? n i.scope.locals with
  | some r => { i with rooms := i.rooms.modify r fun d => d.set n v }
  | none => i.setGlobals (i.globals.set n v)

def unbind (n : Text) (i : Interpreter) : Except Exception Interpreter :=
  match roomOf? n i.scope.locals with
  | some r =>
    match (i.rooms[r]?).bind fun d => d.get? n with
    | some _ => .ok { i with rooms := i.rooms.modify r fun d => d.erase n }
    | none => .error (unbound i n)
  | none =>
    match i.globals.get? n with
    | some _ => .ok (i.setGlobals (i.globals.erase n))
    | none => .error (nameError n)

/-! ### Items -/

def rangeItems (start stop step : Int) : List Value :=
  let count := if step > 0 then Int.fdiv (stop - start + step - 1) step
    else Int.fdiv (start - stop - step - 1) (-step)
  (List.range count.toNat).map fun (k : Nat) => .int (start + step * k)

/-- What a loop over a value goes through. -/
def items (i : Interpreter) (v : Value) : Except Exception (List Value) :=
  match v, i.object? v with
  | .list xs, _ => .ok xs
  | .tuple xs, _ => .ok xs
  | .set xs, _ => .ok xs
  | .frozenset xs, _ => .ok xs
  | .str t, _ => .ok (t.map fun c => .str [c])
  | .bytes bs, _ => .ok (bs.map fun b => .int b.toNat)
  | .dict es, _ => .ok (es.map Prod.fst)
  | _, some (.range a b c) => .ok (rangeItems a b c)
  | _, some (.view _ xs) => .ok xs
  | _, some (.file t) => .ok ((Text.linesWithEnds t).map .str)
  | _, _ => .error (typeError (classQuoted v ++ " object is not iterable".toList))

def truth (i : Interpreter) (v : Value) : Bool :=
  match i.object? v with
  | some (.range a b c) => !(rangeItems a b c).isEmpty
  | some (.view name xs) => !(Text.startsWith name "dict_".toList && xs.isEmpty)
  | _ => v.truth

def plain (i : Interpreter) (v : Value) : Except Exception Text :=
  match i.object? v with
  | some (.exception e) => if e.isWritable then .ok e.message else .error .tooManyDigits
  | _ => v.tryPlain

end Weave.Program
