import Weave.Session

/-!
# Engines

An engine knows how to read a text, to execute statements, to evaluate an expression and to ask an
exception how it is shown. On top of that, every snippet is a source with a name of its own. What it
prints is captured, and what it binds stays bound for the next. If its last statement is an
expression, the value of that is kept as the last value, unless it is nothing.
-/

set_option autoImplicit false

namespace Weave

variable {τ κ χ ν ε α : Type}

/-- The name of the last value. -/
def lastName : Text := ['_']

def sourceName (count : Nat) : Option Path → Text
  | some p => '<' :: p.text ++ "#snippet-".toList ++ Text.ofNat count ++ ['>']
  | none => "<snippet-".toList ++ Text.ofNat count ++ ['>']

def openCapture (m : World × τ) : World × τ := ({ m.1 with console := m.1.console.openCapture 0 }, m.2)

def closeCapture (m : World × τ) : Capture × World × τ :=
  let (c, k) := m.1.console.closeCapture
  (c, { m.1 with console := k }, m.2)

/-- What programs do to the world and to a state of their own, and what is known of their values and
exceptions. Programs consist of statements `κ` and of expressions `χ`, which have values `ν`. Whatever is
asked may raise an exception `ε`, be it how another one is shown. -/
structure Engine (τ κ χ ν ε : Type) where
  /-- Reads the text of a source as statements. -/
  read : (source text : Text) → Action (World × τ) ε (List κ)
  /-- The expression that a statement is, if it is one. -/
  expression? : κ → Option χ
  execute : (source : Text) → List κ → Action (World × τ) ε Unit
  value : (source : Text) → χ → Action (World × τ) ε ν
  /-- Reads the text of a source as an expression and evaluates it. -/
  evaluate : (source text : Text) → Action (World × τ) ε ν
  /-- Evaluates a text that is no source of its own. -/
  evaluateText : (text : Text) → Action (World × τ) ε ν
  isNothing : ν → Bool
  /-- What a value is in a state; it may be changed. -/
  typed : τ → ν → TypedValue
  /-- Binds the last value. -/
  keep : ν → τ → τ
  last? : τ → Option ν
  /-- How many snippets there have been. -/
  count : τ → Nat
  /-- Counts a snippet and keeps its lines, which tracebacks show, with those of the part that is read. -/
  note : (count : Nat) → (source text read : Text) → τ → τ
  /-- Whether an exception is a failure of the snippet; the others end more than that. -/
  isFailure : ε → Bool
  /-- Whether an expression that is evaluated on the quiet may end with an exception. -/
  isDropped : ε → Bool
  /-- How an exception of a snippet is shown, from the routine of this source on. -/
  shown : (source : Text) → ε → Action (World × τ) ε Text
  written : ε → Action (World × τ) ε Text
  exception : ε → Exception
  /-- As what an exception leaves the session that it makes no failure of. -/
  escape : ε → Halt

namespace Engine

variable (E : Engine τ κ χ ν ε)

def nextSource (file : Option Path) (t : τ) : Text := sourceName (E.count t + 1) file

def register (text read : Text) (file : Option Path) (t : τ) : τ :=
  E.note (E.count t + 1) (E.nextSource file t) text read t

/-! ### Running and evaluating -/

def executeAll (source : Text) : List κ → Action (World × τ) ε Unit
  | [] => pure ()
  | body => E.execute source body

/-- Executes statements, apart from the last one if that is an expression: it is evaluated when its turn
comes. -/
def conclude (source : Text) (body : List κ) : Action (World × τ) ε (Option ν) :=
  match body.getLast?.bind E.expression? with
  | some e => do
    E.executeAll source body.dropLast
    some <$> E.value source e
  | none => do
    E.executeAll source body
    pure none

/-- The value that statements end with, if their last one is an expression. -/
def conclusion (source text : Text) : Action (World × τ) ε (Option ν) := do
  E.conclude source (← E.read source text)

/-- Keeps a value as the last one, unless it is nothing. -/
def keepIn (t : τ) : Option ν → τ
  | some v => if E.isNothing v then t else E.keep v t
  | none => t

def statements (source text : Text) : Action (World × τ) ε Unit := do
  let v ← E.conclusion source text
  Action.change fun m => (m.1, E.keepIn m.2 v)

/-! ### Captured output -/

/-- Shows below what a snippet has written how it failed, and says both. -/
def report (text source : Text) (e : ε) : Action (World × τ) ε Halt := do
  let shown ← E.shown source e
  Action.change fun m => ({ m.1 with console := m.1.console.write 0 ⟨.error, shown⟩ }, m.2)
  let m ← Action.state
  let _ ← E.written e
  pure (.failed text (E.exception e) (closeCapture m).1.merged)

/-- How the session halts when a snippet has raised an exception. What is raised while that is
reported goes on in its place. -/
def halt (text source : Text) (e : ε) (m : World × τ) : Halt × World × τ :=
  if E.isFailure e then
    match E.report text source e m with
    | (.ok h, n) => (h, n)
    | (.error x, n) => (E.escape x, n)
  else (E.escape e, m)

/-- Acts for a snippet with its output captured. -/
def captured (text source : Text) (p : Action (World × τ) ε α) : Action (World × τ) Halt (Text × α) :=
  fun m =>
    match p (openCapture m) with
    | (.ok a, n) =>
      let (c, n) := closeCapture n
      (.ok (c.onStream .output, a), n)
    | (.error e, n) =>
      let (h, n) := E.halt text source e n
      (.error h, (closeCapture n).2)

def run (text : Text) (file : Option Path) : Action (World × τ) Halt Text := fun m =>
  let source := E.nextSource file m.2
  (Prod.fst <$> E.captured text source (E.statements source text)) (m.1, E.register text text file m.2)

def eval (text : Text) (file : Option Path) : Action (World × τ) Halt (Text × TypedValue) := fun m =>
  let read := Text.trim text
  let source := E.nextSource file m.2
  match E.captured text source (E.evaluate source read) (m.1, E.register text read file m.2) with
  | (.ok (output, v), n) => (.ok (output, E.typed n.2 v), n)
  | (.error h, n) => (.error h, n)

/-- Evaluates an expression on the quiet: what it prints is dropped, and so is an exception, unless it
ends more than a snippet. -/
def tryEval (text : Text) : Action (World × τ) ε (Option TypedValue) := fun m =>
  match E.evaluateText text (openCapture m) with
  | (.ok v, n) => (.ok (some (E.typed n.2 v)), (closeCapture n).2)
  | (.error e, n) => (if E.isDropped e then .ok none else .error e, (closeCapture n).2)

def session : Session τ where
  run := E.run
  eval := E.eval
  lastValue t := ((E.last? t).map (E.typed t), t)

end Engine

end Weave
