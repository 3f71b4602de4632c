import Weave.Action
import Weave.Block
import Weave.Exception
import Weave.Outcome
import Weave.Outcome.Table
import Weave.Value.Layout
import Weave.Value.Order

/-!
# Presentation of outcomes

Values are presented by the first transformation that accepts them, the most recently registered one
being tried first. The default transformation lays the value out as a listing.
-/

set_option autoImplicit false

namespace Weave

/-- Refuses a value by `none`; may raise. -/
abbrev Transformation := TypedValue → Except Exception (Option (List Block))

/-- A transformation that reads and changes a state while it is at it. -/
abbrev TransformationOn (σ : Type) := TypedValue → Action σ Exception (Option (List Block))

namespace Transformation

/-- A transformation leaves every state alone. -/
def on {σ : Type} (t : Transformation) : TransformationOn σ := fun v => Action.ofExcept (t v)

def layout : Transformation := fun v =>
  if v.value.isWritable then .ok (some [.code (Value.layout v.value) []])
  else .error .tooManyDigits

/-- A part of a value, known by its place: every part is an object of its own. -/
structure Part where
  place : List Nat
  value : Value

/-- The parts of plain values. They compare without ado, so it does not matter which keys share a
hash. -/
def parts : Objects Part Exception where
  items?
    | ⟨place, .list xs⟩ => some (xs.mapIdx fun i v => ⟨place ++ [i], v⟩)
    | _ => none
  entries?
    | ⟨place, .dict es⟩ =>
      some (es.mapIdx fun i e => ⟨⟨place ++ [i, 0], e.1⟩, 0, ⟨place ++ [i, 1], e.2⟩⟩)
    | _ => none
  same a b := a.place == b.place
  equal a b := .ok (Value.equal a.value b.value)
  hash _ := .ok 0
  str a := if a.value.isWritable then .ok a.value.plain else .error .tooManyDigits
  missing a := .ofMessage "KeyError" a.value.written

def tabulate : Transformation := fun v => do
  match ← parts.tabulate ⟨[], v.value⟩ with
  | some b => pure (some [b])
  | none => pure none

def table? (v : Value) : Option Block := (parts.tabulate ⟨[], v⟩).toOption.join

end Transformation

/-- Why an outcome cannot be presented. -/
inductive PresentationError where
  | notAnOutcome (className : Text)
  | unknownKind (name : Text)
  | exhausted (className : Text)
  | raised (e : Exception)

def PresentationError.message : PresentationError → Text
  | .notAnOutcome name =>
    "Expected an EvaluationResult to format, but found ".toList ++ Value.classText name
  | .unknownKind name => "Unknown embed kind ".toList ++ name
  | .exhausted name =>
    "No value transformation accepted a value of type ".toList ++ Value.classText name
  | .raised e => e.message

/-- The transformations in the order in which they are tried. -/
structure PresenterOn (σ : Type) where
  transformations : List (TransformationOn σ) := [Transformation.layout.on]

namespace PresenterOn

variable {σ : Type}

def register (p : PresenterOn σ) (t : TransformationOn σ) : PresenterOn σ := ⟨t :: p.transformations⟩

def clear (_ : PresenterOn σ) : PresenterOn σ := ⟨[]⟩

/-- The blocks of the first transformation that accepts the value. -/
def transform : List (TransformationOn σ) → TypedValue → Action σ PresentationError (List Block)
  | [], v => Action.fail (.exhausted v.className)
  | t :: ts, v => fun s =>
    match t v s with
    | (.error e, u) => (.error (.raised e), u)
    | (.ok (some blocks), u) => (.ok blocks, u)
    | (.ok none, u) => transform ts v u

theorem transform_nil (v : TypedValue) (s : σ) :
    transform [] v s = (.error (.exhausted v.className), s) := rfl

theorem transform_cons (t : TransformationOn σ) (ts : List (TransformationOn σ)) (v : TypedValue) (s : σ) :
    transform (t :: ts) v s = match t v s with
      | (.error e, u) => (.error (.raised e), u)
      | (.ok (some blocks), u) => (.ok blocks, u)
      | (.ok none, u) => transform ts v u := rfl

def noOutput : Text := "No output has been produced.".toList
def noValue : Text := "No value has been returned".toList

def presentValue (p : PresenterOn σ) : Option TypedValue → Action σ PresentationError (List Block)
  | some v => transform p.transformations v
  | none => pure [.code noValue []]

/-- What a document shows for one side of an outcome. -/
def present (p : PresenterOn σ) (o : Outcome) : EmbedKind → Action σ PresentationError (List Block)
  | .output => pure [.code (Text.trim (o.output.getD noOutput)) []]
  | .itValue => p.presentValue o.itValue
  | .value => p.presentValue o.result

end PresenterOn

/-- A presenter whose transformations know no state. -/
abbrev Presenter := PresenterOn Unit

namespace Presenter

def register (p : Presenter) (t : Transformation) : Presenter := PresenterOn.register p t.on

def present (p : Presenter) (o : Outcome) (kind : EmbedKind) : Except PresentationError (List Block) :=
  (PresenterOn.present p o kind ()).1

/-- Presents what a caller says is an outcome, for a kind known by its name only. -/
def presentNamed (p : Presenter) (subject : Except Value Outcome) (kind : Text) :
    Except PresentationError (List Block) :=
  match subject, EmbedKind.ofName? kind with
  | .error v, _ => .error (.notAnOutcome v.className)
  | .ok o, some k => p.present o k
  | .ok _, none => .error (.unknownKind kind)

end Presenter

end Weave
