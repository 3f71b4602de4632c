import Weave.Action
import Weave.Block
import Weave.Path
import Weave.Section

/-!
# Rendering

Rendering goes through the sections of a document in order and leaves blocks. A definition is
composed, and evaluated if its header asks for it, where it stands; the other commands refer to the
latest definition of a name.
-/

set_option autoImplicit false

namespace Weave

/-- Evaluates snippets and presents outcomes in a state `σ`, or fails for a reason `ε`. -/
structure Evaluating (σ ε : Type) where
  evaluate : (text : Text) → (asExpression : Bool) → (file : Option Path) → Action σ ε Outcome
  present : Outcome → EmbedKind → Action σ ε (List Block)

/-- What a document is rendered with. -/
structure Renderer (σ ε : Type) where
  /-- Prints a line. -/
  say : Text → σ → σ
  evaluating : Option (Evaluating σ ε)
  /-- The document, beside which its snippets run. -/
  file : Option Path

/-- What rendering keeps of the sections it has gone through. -/
structure Rendering where
  definitions : Definitions := {}
  /-- The composed text of every snippet, settled when it is defined. -/
  texts : Dictionary Text := {}
  results : Dictionary Outcome := {}
deriving Inhabited

inductive RenderingFault (ε : Type) where
  | undefinedName (name : Text)
  /-- The names that lead from a snippet to itself. -/
  | selfEmbedding (path : List Text)
  | foreignCommand (command : Text)
  | raised (e : ε)

namespace RenderingFault

variable {ε : Type}

/-- What is said about a fault that lies in the document. -/
def message : RenderingFault ε → Text
  | .undefinedName name => "Snippet \"".toList ++ name ++ "\" is used before it is defined".toList
  | .selfEmbedding path => Snippet.cycleMessage path
  | .foreignCommand command => "Don't know how to render a ".toList ++ command
  | .raised _ => []

end RenderingFault

/-- A rendering, and the state of the evaluator beside it. -/
abbrev RenderingAction (σ ε α : Type) := Action (Rendering × σ) (RenderingFault ε) α

namespace Renderer

variable {σ ε α : Type}

def print (r : Renderer σ ε) (line : Text) : RenderingAction σ ε Unit :=
  Action.change fun s => (s.1, r.say line s.2)

def outside (p : Action σ ε α) : RenderingAction σ ε α :=
  Action.mapError .raised (Action.onSecond p)

def defined (name : Text) : RenderingAction σ ε Snippet := fun s =>
  match s.1.definitions.get? name with
  | some d => (.ok d, s)
  | none => (.error (.undefinedName name), s)

/-- The text of a snippet, composed of the definitions so far, of which it is one. -/
def compose (r : Renderer σ ε) (d : Snippet) : RenderingAction σ ε Text := do
  let s ← Action.state
  let e := Snippet.expand s.1.definitions d
  let _ ← Action.each (fun name => r.print (Snippet.missingNotice name)) e.missing
  match e.outcome with
  | .ok t => pure (Text.trimNewlines t)
  | .error path => Action.fail (.selfEmbedding path)

/-- Evaluates a snippet if there is an evaluator and its header asks for it. -/
def evaluate (r : Renderer σ ε) (d : Snippet) (t : Text) : RenderingAction σ ε Unit :=
  match r.evaluating with
  | none => pure ()
  | some e =>
    if d.header.shouldEvaluate then do
      r.print ("Evaluating snippet ".toList ++ d.name)
      let o ← outside (e.evaluate t d.header.expression r.file)
      Action.change fun s => ({ s.1 with results := s.1.results.set d.name o }, s.2)
    else pure ()

def define (r : Renderer σ ε) (d : Snippet) : RenderingAction σ ε (List Block) := do
  Action.change fun s => ({ s.1 with definitions := s.1.definitions.set d.name d }, s.2)
  let t ← r.compose d
  Action.change fun s => ({ s.1 with texts := s.1.texts.set d.name t }, s.2)
  r.print ("Defined and tracked snippet ".toList ++ d.name)
  r.evaluate d t
  pure []

/-- The text of a snippet as a listing in its language. -/
def listing (name : Text) : RenderingAction σ ε (List Block) := do
  let d ← defined name
  let s ← Action.state
  pure [.code ((s.1.texts.get? name).getD []) d.header.lang.name]

def embed (r : Renderer σ ε) (name : Text) (kind : EmbedKind) :
    RenderingAction σ ε (List Block) := do
  let _ ← defined name
  match r.evaluating with
  | none => pure []
  | some e => do
    let s ← Action.state
    match s.1.results.get? name with
    | some o => outside (e.present o kind)
    | none => do
      r.print ("Snippet ".toList ++ name
        ++ " was not evaluated, so there's nothing to embed".toList)
      pure []

def proseBlocks (t : Text) : List Block := if Text.isBlankText t then [] else [.prose t]

/-- The blocks of one section. -/
def section_ (r : Renderer σ ε) : Section → RenderingAction σ ε (List Block)
  | .text t => pure (proseBlocks t)
  | .define d => r.define d
  | .show name => listing name
  | .embed name kind => r.embed name kind
  | .foreign command => Action.fail (.foreignCommand command)

/-- The blocks of all sections in order, up to the first that fails. -/
def sections (r : Renderer σ ε) (ss : List Section) : RenderingAction σ ε (List Block) := do
  let bs ← Action.each r.section_ ss
  pure bs.flatten

end Renderer

end Weave
