import Weave.Build
import Weave.Engine
import Weave.Program.Execution
import Weave.Program.Traceback

/-!
# Sessions that run programs

The engine that runs programs. A source is read as a whole before anything of it is run, its last
expression is looked at only when its turn comes, and what cannot be read or means nothing is refused.

The language is the part of the snippets' language that documents were found to use. It has no classes,
no guarded blocks (`try`, `with`), no generators, decorators or annotations, no assignments within
expressions, no `match` and nothing asynchronous: these are refused as what cannot be read. Nor can a
program run a text, and of the modules and the functions of values only some are there. Lists,
dictionaries and sets are values, so what is changed under one name is not changed under another, and
what they hold is compared by equality alone. A program that goes too deep or goes on too long comes to
a bound on nesting or on rounds. What holds of snippets whatever their language does is therefore stated
of an arbitrary `Engine`, of which this one is an instance.
-/

set_option autoImplicit false

namespace Weave.Program

/-! ### Running and evaluating -/

/-- How deep expressions, statements and calls may be nested. -/
def depth : Nat := 10000

/-- Fails before anything is run. -/
def refuse {α : Type} (e : Exception) : Run α := Action.fail (.raised e [])

/-- The place of a misreading that the exception does not hold, as if it were that of a routine without a
name. -/
def Misreading.trace (source : Text) (f : Misreading) : List Frame :=
  let spot : Spot := ⟨f.place.line, 0⟩
  if f.isBare then [⟨source, [], ⟨spot, spot⟩⟩] else []

/-- Fails on a program that cannot be read, or means nothing. -/
def refuseReading {α : Type} (source : Text) (f : Misreading) : Run α :=
  Action.fail (.raised (f.exception source) (f.trace source))

/-- What has been read from a source, or the exception that says why nothing could be. -/
def readOrRaise {α : Type} (source : Text) : Except Misreading α → Run α
  | .ok a => pure a
  | .error f => refuseReading source f

def check (source : Text) : Option Misreading → Run Unit
  | none => pure ()
  | some f => refuseReading source f

def nullCharacter : Exception :=
  .ofMessage "ValueError" "source code string cannot contain null bytes".toList

/-- A source with a null character cannot be read at all. -/
def checkCharacters (text : Text) : Run Unit :=
  if text.contains (Char.ofNat 0) then refuse nullCharacter else pure ()

def read (source text : Text) : Run (List Stmt) :=
  Run.inScope { source } do
    checkCharacters text
    readOrRaise source (readStatements text)

def execute (source : Text) (body : List Stmt) : Run Unit :=
  Run.inScope { source } do
    check source (wholeFault? depth body)
    Run.execEach depth body

/-- An expression is looked at as a whole before it is evaluated. -/
def evalWhole (source : Text) (e : Expr) : Run Value := do
  check source (valueFault? depth e)
  Run.eval depth e

def value (source : Text) (e : Expr) : Run Value := Run.inScope { source } (evalWhole source e)

def expression (source text : Text) : Run Value :=
  Run.inScope { source } do
    checkCharacters text
    evalWhole source (← readOrRaise source (readExpression text))

/-- The expression that a statement is, if it is one. -/
def expression? : Stmt → Option Expr
  | .expr _ e => some e
  | _ => none

/-- A blank that may stand in front of an expression. -/
def isIndent (c : Char) : Bool := c = ' ' || c = '\t'

namespace Stop

def exception : Stop → Exception
  | .raised e _ => e
  | _ => .ofMessage "RecursionError" "maximum recursion depth exceeded".toList

def trace : Stop → List Frame
  | .raised _ trace => trace
  | _ => []

end Stop

/-- Whether an exception is a failure of the snippet; the others end more than that. -/
def isFailure (e : Exception) : Bool :=
  Exception.isKind "Exception" e.kind || Exception.isKind "SystemExit" e.kind

def shown (source : Text) (stop : Stop) : Run Text := fun m =>
  match Traceback.unshowable? stop.exception with
  | some e => (.error (.raised e []), m)
  | none => (.ok (Traceback.ofFailure m.2.listings source stop.exception stop.trace), m)

/-- The written form of an exception. One with a number of too many digits in it has none. -/
def written (stop : Stop) : Run Text :=
  if stop.exception.isWritable then pure stop.exception.written
  else Action.fail (.raised .tooManyDigits [])

def engine : Engine Interpreter Stmt Expr Value Stop where
  read := read
  expression? := expression?
  execute := execute
  value := value
  evaluate := expression
  evaluateText text := expression "<string>".toList (text.dropWhile isIndent)
  isNothing
    | .none => true
    | _ => false
  typed _ v := TypedValue.of v
  keep v i := { i with names := i.names.set lastName v }
  last? i := i.names.get? lastName
  count i := i.count
  note count source text read i := { i with count, listings := i.listings.set source (.ofText text read) }
  isFailure stop := isFailure stop.exception
  isDropped stop := Exception.isKind "Exception" stop.exception.kind
  shown := shown
  written := written
  exception := Stop.exception
  escape stop := .raised stop.exception

def run (text : Text) (file : Option Path) : Action Machine Halt Text := engine.run text file

def eval (text : Text) (file : Option Path) : Action Machine Halt (Text × TypedValue) :=
  engine.eval text file

def tryEval (text : Text) : Action Machine Exception (Option TypedValue) :=
  Action.mapError Stop.exception (engine.tryEval text)

def session : Session Interpreter := engine.session

def lastValue (i : Interpreter) : Option TypedValue := (session.lastValue i).1

def boundNames (i : Interpreter) : List Text :=
  i.names.names.mergeSort fun a b => !Value.lessText b a

/-! ### Starting a session -/

def replName : Text := "repl".toList

/-- A session in which nothing has been run. Modules that have been loaded stay loaded. -/
def fresh (repl : Value) (i : Interpreter) : Interpreter :=
  let (builtins, i) := i.alloc (.moduleNamed "builtins".toList)
  { i with
    count := 0
    names := Dictionary.ofList [("__name__".toList, .str "__main__".toList),
      ("__builtins__".toList, builtins), (replName, repl)]
    repl := Repl.initial id }

def directoryOf (w : World) (path : Text) : Except PathFault Text :=
  if path.contains (Char.ofNat 0) then .error .nullCharacter
  else .ok (World.nameOf (w.absolute (Path.ofText path)))

/-- Puts a directory in front of the others that are searched, unless it is one of them. -/
def addPath (path : Text) (w : World) : Except Exception World :=
  match directoryOf w path with
  | .ok d => .ok { w with searchPath := w.searchPath.insert d }
  | .error f => .error (f.exception path)

/-- Loads a module and binds it, or the package it lies in. -/
def startImport (name : Text) : Run Unit :=
  if name.isEmpty then
    Action.fail (.raised (.ofMessage "ValueError" "Empty module name".toList) [])
  else if ['.'].isPrefixOf name then
    Action.fail (.raised (.ofMessage "TypeError"
      ("the 'package' argument is required to perform a relative import for ".toList
        ++ Text.quote name)) [])
  else do
    let _ ← Run.importNamed depth ⟨⟨0, 0⟩, ⟨0, 0⟩⟩ name
    let top := Stmt.firstName name
    let v ← Run.alloc (.moduleNamed top)
    Run.changeInterpreter (bind top v)

/-- Runs a script before any snippet. -/
def startLoad (script : Text) : Action Machine Halt Unit := fun m =>
  let p := Path.ofText script
  let w := m.1.print ("Loading startup script ".toList ++ p.text)
  match w.read p with
  | .ok t => ((fun _ => ()) <$> run t (some p)) (w, m.2)
  | .error e => (.error (.raised e), w, m.2)

def applyOptions (o : SessionOptions) : Action Machine Halt Unit := do
  let _ ← Action.each (fun path =>
    Action.mapError .raised (Action.onFirst (Action.tryChange (addPath path)))) o.paths.reverse
  let _ ← Action.each (fun name =>
    Action.mapError (fun stop => .raised stop.exception) (startImport name)) o.imports
  Action.change fun m => (m.1,
    { m.2 with names := o.defines.entries.foldl (fun d e => d.set e.1 (.str e.2)) m.2.names })
  let _ ← Action.each startLoad o.loads

def restart (args : List Text) (repl : Value) : Action Machine SessionFault Unit :=
  match SessionOptions.read args with
  | .error f => Action.fail (.options f)
  | .ok o => do
    Action.change fun m => (m.1, fresh repl m.2)
    Action.mapError .halted (applyOptions o)

def start (args : List Text) : Action World SessionFault Interpreter := fun w =>
  match restart args replObject (w, {}) with
  | (.ok _, m) => (.ok m.2, m.1)
  | (.error f, m) => (.error f, m.1)

end Weave.Program
