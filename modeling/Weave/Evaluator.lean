import Weave.Event
import Weave.Failure
import Weave.Outcome.Presentation
import Weave.Rendering
import Weave.Session

/-!
# Evaluators

An evaluator runs snippets in one session, each in the directory of its document. A snippet that
fails leaves an empty outcome and is announced to those who listen for failures; the session stays
usable.
-/

set_option autoImplicit false

namespace Weave

/-- An evaluator with a session of state `τ`, among whose listeners are members of `η`. -/
structure Evaluator (τ η : Type) where
  session : τ
  presenter : Presenter := {}
  /-- Who is told about failures. -/
  failed : Event η := {}
  /-- Who has been told what, in order. -/
  told : List (η × Failure) := []

/-- What a listener does when it is told about a failure. -/
abbrev Listening (η : Type) := η → Failure → World → Reaction η Exception × World

/-- The world with an evaluator in it. -/
abbrev Workshop (τ η : Type) := World × Evaluator τ η

inductive EvaluationFault where
  | raised (e : Exception)
  | unpresentable (e : PresentationError)

namespace Evaluator

variable {τ η α : Type} [DecidableEq η]

def inSession (p : Action (World × τ) Halt α) : Action (Workshop τ η) Halt α := fun s =>
  let (r, w, t) := p (s.1, s.2.session)
  (r, w, { s.2 with session := t })

/-- Where a snippet of a document runs, and one of no document stays. -/
def directory (file : Option Path) (w : World) : List Text :=
  match file with
  | some p => (w.absolute p).dropLast
  | none => w.here

def lookUp (session : Session τ) : Action (World × τ) Halt (Option TypedValue) := fun s =>
  let (v, t) := session.lastValue s.2
  (.ok v, s.1, t)

/-- Runs a snippet in the current directory. After statements, the last value is looked up. -/
def work (session : Session τ) (text : Text) (asExpression : Bool) (file : Option Path) :
    Action (World × τ) Halt Outcome :=
  if asExpression then do
    let (output, v) ← session.eval text file
    pure { output, result := some v }
  else do
    let output ← session.run text file
    let itValue ← lookUp session
    pure { output, itValue }

/-- Runs a snippet in its directory. -/
def workInDirectory (session : Session τ) (text : Text) (asExpression : Bool)
    (file : Option Path) : Action (World × τ) Halt Outcome := fun s =>
  Session.inDirectory (directory file s.1) (work session text asExpression file) s

/-- Tells the listeners about a failure, up to the first that raises. -/
def announce (listening : Listening η) (f : Failure) : Action (Workshop τ η) Exception Unit :=
  fun s =>
    let call := fun h f (t : World × List (η × Failure)) =>
      let (r, w) := listening h f t.1
      (r, w, t.2 ++ [(h, f)])
    let (r, failed, w, told) := s.2.failed.trigger call f (s.1, s.2.told)
    (r, w, { s.2 with failed, told })

def evaluate (session : Session τ) (listening : Listening η) (text : Text) (asExpression : Bool)
    (file : Option Path) : Action (Workshop τ η) Exception Outcome := do
  match ← Action.attempt (inSession (workInDirectory session text asExpression file)) with
  | .ok o => pure o
  | .error (.raised e) => Action.fail e
  | .error (.failed _ cause errorText) => do
    announce listening ⟨text, asExpression, file, cause, errorText⟩
    pure Outcome.empty

def present (o : Outcome) (kind : EmbedKind) : Action (Workshop τ η) PresentationError (List Block) :=
  fun s => (s.2.presenter.present o kind, s)

def register (e : Evaluator τ η) (t : Transformation) : Evaluator τ η :=
  { e with presenter := e.presenter.register t }

def subscribe (e : Evaluator τ η) (h : η) : Evaluator τ η :=
  { e with failed := e.failed.subscribe h }

def unsubscribe? (e : Evaluator τ η) (h : η) : Option (Evaluator τ η) :=
  (e.failed.unsubscribe? h).map fun failed => { e with failed }

def evaluating (session : Session τ) (listening : Listening η) :
    Evaluating (Workshop τ η) EvaluationFault where
  evaluate text asExpression file :=
    Action.mapError .raised (evaluate session listening text asExpression file)
  present o kind := Action.mapError .unpresentable (present o kind)

end Evaluator

end Weave
