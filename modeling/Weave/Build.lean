import Weave.Configuration
import Weave.Document.Script
import Weave.Document.Sections
import Weave.Evaluator
import Weave.Output
import Weave.Session.Options

/-!
# Building documents

A document or a literate script is read, rendered and written. Whatever fails does so before anything
is written.
-/

set_option autoImplicit false

namespace Weave

/-- Why a session cannot be started. -/
inductive SessionFault where
  | options (fault : SessionOptionsFault)
  /-- What a startup script or an import ended with. -/
  | halted (halt : Halt)

inductive BuildFault where
  | document (fault : Document.Fault)
  | session (fault : SessionFault)
  | rendering (fault : RenderingFault EvaluationFault)
  /-- Snippets failed, and the configuration does not tolerate it. -/
  | failedSnippets (file : Path) (failures : List Failure)
  | output (fault : OutputFault)
  | raised (e : Exception)

namespace BuildFault

def message : BuildFault → Text
  | .document f => f.message
  | .session (.options f) => f.message
  | .session (.halted h) => h.message
  | .rendering (.raised (.raised e)) => e.message
  | .rendering (.raised (.unpresentable e)) => e.message
  | .rendering f => f.message
  | .failedSnippets file fs =>
    Text.ofNat fs.length ++ " snippet(s) failed while rendering ".toList ++ file.text
  | .output f => f.message
  | .raised e => e.message

end BuildFault

/-- What the source of a document is. -/
inductive SourceForm where
  | document
  | script
deriving DecidableEq, Repr, Inhabited

namespace SourceForm

def ofPath (p : Path) : SourceForm := if p.suffix = ".py".toList then .script else .document

def sections [Libraries] : SourceForm → Text → Except Document.Fault (List Section)
  | .document, t => Document.sections t
  | .script, t => Document.Script.sections t

end SourceForm

/-- Who may listen for failures while documents are built. -/
inductive Listener where
  /-- Prints a failure. -/
  | report
  /-- Keeps the failures of the document that is being built. -/
  | collect
  | other (name : Text)
deriving DecidableEq, Repr, Inhabited

namespace Listener

def printFailure (f : Failure) (w : World) : World :=
  let place := match f.file with
    | some p => p.text
    | none => "<no file>".toList
  (w.print ("Snippet in ".toList ++ place ++ " failed to evaluate".toList)).print f.message

/-- What the listeners do, given what the others do. -/
def listening (others : Text → Failure → World → Reaction Listener Exception × World) :
    Listening Listener
  | .report, f, w => (.finish, printFailure f w)
  | .collect, _, w => (.finish, w)
  | .other name, f, w => others name f w

/-- There are no others. -/
def alone : Listening Listener := listening fun _ _ w => (.finish, w)

end Listener

/-- A document to be built. -/
structure Job where
  input : Path
  output : Option Path := none
  config : Configuration := {}
  form : SourceForm := SourceForm.ofPath input
deriving Inhabited

namespace Job

variable {τ : Type}

def read [Libraries] (j : Job) : Action World BuildFault (List Section) := do
  Action.change fun w => w.print ("Rendering ".toList ++ j.input.text)
  let w ← Action.state
  let t ← Action.mapError .raised (Action.ofExcept (w.read j.input))
  Action.mapError .document (Action.ofExcept (j.form.sections t))

def blocks {σ : Type} (r : Renderer σ EvaluationFault) (ss : List Section) :
    Action σ BuildFault (List Block) := fun s =>
  match r.sections ss ({}, s) with
  | (.ok bs, _, t) => (.ok bs, t)
  | (.error f, _, t) => (.error (.rendering f), t)

/-- The failures that `collect` has been told since there were `count` announcements. -/
def collected (count : Nat) (e : Evaluator τ Listener) : List Failure :=
  ((e.told.drop count).filter fun t => t.1 = .collect).map Prod.snd

def stopCollecting : Action (Workshop τ Listener) BuildFault Unit := fun s =>
  match s.2.unsubscribe? .collect with
  | some e => (.ok (), s.1, e)
  | none => (.error (.raised (.ofMessage "ValueError" notSubscribed)), s)

/-- Renders with an evaluator, which is left unused unless the configuration asks for evaluation. -/
def render (session : Session τ) (listening : Listening Listener) (j : Job) (ss : List Section) :
    Action (Workshop τ Listener) BuildFault (List Block × List Failure) := do
  let before ← Action.state
  let renderer : Renderer (Workshop τ Listener) EvaluationFault :=
    { say := fun line s => (s.1.print line, s.2)
      evaluating :=
        if j.config.evaluate then some (Evaluator.evaluating session listening) else none
      file := some j.input }
  Action.change fun s => (s.1, s.2.subscribe .collect)
  let bs ← Action.andFinally (blocks renderer ss) stopCollecting
  let after ← Action.state
  pure (bs, collected before.2.told.length after.2)

def renderWithout (j : Job) (ss : List Section) : Action World BuildFault (List Block) :=
  blocks { say := fun line w => w.print line, evaluating := none, file := some j.input } ss

/-- Where a title is missing, the name of the document stands in. -/
def title (j : Job) : Text :=
  match j.config.title with
  | some (c :: t) => c :: t
  | _ => j.input.stem

/-- Writes with the help of others, who may raise exceptions. -/
def writer [Libraries] : Writer BuildFault where
  toHtml t := (Libraries.toHtml t).mapError .raised
  fill := Libraries.fill
  fault := .output

/-- The text of the document, unless failures forbid it. -/
def finish [Libraries] (j : Job) (bs : List Block) (fs : List Failure) (w : World) : Except BuildFault Text :=
  if !fs.isEmpty && j.config.failOnError then .error (.failedSnippets j.input fs)
  else writer.document (fun p => (w.read p).toOption) j.config.outputKind j.config.template j.title bs

def write (j : Job) (t : Text) : Action World BuildFault Unit :=
  match j.output with
  | none => pure ()
  | some p => Action.mapError .raised do
    Action.change fun w => w.print ("Writing ".toList ++ p.text)
    World.makeDirectories p.parent
    Action.tryChange fun w => w.write p t

def complete [Libraries] (j : Job) (bs : List Block) (fs : List Failure) : Action World BuildFault Text := do
  let w ← Action.state
  let t ← Action.ofExcept (j.finish bs fs w)
  j.write t
  pure t

/-- Builds a document with an evaluator that stays in use. -/
def buildWith [Libraries] (session : Session τ) (listening : Listening Listener) (j : Job) :
    Action (Workshop τ Listener) BuildFault Text := do
  let ss ← Action.onFirst j.read
  let (bs, fs) ← render session listening j ss
  Action.onFirst (j.complete bs fs)

/-- The evaluator that a configuration asks for. -/
def evaluator (config : Configuration) (t : τ) : Evaluator τ Listener :=
  let e : Evaluator τ Listener := { session := t }
  let e := if config.tabulateRecords then e.register Transformation.tabulate else e
  e.subscribe .report

/-- Builds a document with an evaluator of its own, for which `start` starts the session. -/
def build [Libraries] (session : Session τ) (start : List Text → Action World SessionFault τ) (j : Job) :
    Action World BuildFault Text := do
  let ss ← j.read
  if j.config.evaluate then do
    let t ← Action.mapError .session (start j.config.interpreterOptions)
    let (bs, fs) ← fun w =>
      let (r, s) := render session Listener.alone j ss (w, evaluator j.config t)
      (r, s.1)
    j.complete bs fs
  else do
    let bs ← j.renderWithout ss
    j.complete bs []

end Job

end Weave
