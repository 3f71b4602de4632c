import Weave.Value.Order
import Weave.Block

/-!
# Schemas

Checks of the fields of a mapping against the types that a header or a configuration asks for. Every
field is checked, so that all issues are reported together.
-/

set_option autoImplicit false

namespace Weave.Schema

/-- A step on the way to the value that has an issue. -/
inductive Step where
  | key (name : Text)
  | index (n : Nat)
deriving DecidableEq, Repr, Inhabited

inductive IssueKind where
  | choice
  | boolWord
  | boolType
  | textType
  /-- Bytes or code points that stand for no text. -/
  | textCoding
  | listType
  | pathType
  | mappingType
deriving DecidableEq, Repr, Inhabited

def IssueKind.name : IssueKind → Text
  | .choice => "enum".toList
  | .boolWord => "bool_parsing".toList
  | .boolType => "bool_type".toList
  | .textType => "string_type".toList
  | .textCoding => "string_unicode".toList
  | .listType => "list_type".toList
  | .pathType => "path_type".toList
  | .mappingType => "model_type".toList

structure Issue where
  place : List Step
  kind : IssueKind
deriving DecidableEq, Repr, Inhabited

abbrev Checked (α : Type) := Except (List Issue) α

def issue {α : Type} (kind : IssueKind) : Checked α := .error [⟨[], kind⟩]

def issues {α : Type} : Checked α → List Issue
  | .ok _ => []
  | .error is => is

/-- Places the issues of a part below a step. -/
def below {α : Type} (s : Step) : Checked α → Checked α
  | .ok a => .ok a
  | .error is => .error (is.map fun i => { i with place := s :: i.place })

/-- Applies a checked function to a checked argument; the issues of both count. -/
def andThen {α β : Type} (f : Checked (α → β)) (x : Checked α) : Checked β :=
  match f, x with
  | .ok f, .ok a => .ok (f a)
  | f, x => .error (issues f ++ issues x)

/-! ### Types of fields -/

/-- Whether a whole number fits a machine word. -/
def isWord (n : Int) : Bool := -Int.pow 2 63 ≤ n && n < Int.pow 2 63

def isText (v : Value) : Bool := v.className = "str".toList

def bool (v : Value) : Checked Bool :=
  let word := fun (t : Text) =>
    let lower := t.map Char.toLower
    if ["1", "on", "t", "true", "y", "yes"].any fun w => w.toList = lower then .ok true
    else if ["0", "off", "f", "false", "n", "no"].any fun w => w.toList = lower then .ok false
    else issue .boolWord
  match v with
  | .bool b => .ok b
  | .int n =>
    if n = 1 then .ok true
    else if n = 0 then .ok false
    else issue (if isWord n then .boolWord else .boolType)
  | .float x => if x == 1.0 then .ok true else if x == 0.0 then .ok false else issue .boolType
  | .str t => word t
  | .bytes bs =>
    match String.fromUTF8? ⟨bs.toArray⟩ with
    | some s => word s.toList
    | none => issue .boolWord
  | v => issue (if isText v then .textCoding else .boolType)

def text (v : Value) : Checked Text :=
  match v with
  | .str t => .ok t
  | .bytes bs =>
    match String.fromUTF8? ⟨bs.toArray⟩ with
    | some s => .ok s.toList
    | none => issue .textCoding
  | v => issue (if isText v then .textCoding else .textType)

def path (v : Value) : Checked Text :=
  match v with
  | .str t => .ok t
  | _ => issue .pathType

def optional {α : Type} (check : Value → Checked α) : Value → Checked (Option α)
  | .none => .ok none
  | v => (check v).map some

/-- One of the texts that `ofName?` knows. -/
def choice {α : Type} (ofName? : Text → Option α) : Value → Checked α
  | .str t => match ofName? t with
    | some a => .ok a
    | none => issue .choice
  | _ => issue .choice

def itemsFrom {α : Type} (check : Value → Checked α) : Nat → List Value → Checked (List α)
  | _, [] => .ok []
  | n, v :: vs =>
    andThen ((below (.index n) (check v)).map List.cons) (itemsFrom check (n + 1) vs)

def list {α : Type} (check : Value → Checked α) : Value → Checked (List α)
  | .list xs => itemsFrom check 0 xs
  | .tuple xs => itemsFrom check 0 xs
  | .set xs => itemsFrom check 0 xs
  | .frozenset xs => itemsFrom check 0 xs
  | _ => issue .listType

/-- The field under the first of its names that the mapping has, or its default. -/
def field {α : Type} (entries : List (Value × Value)) (names : List Text) (default : α)
    (check : Value → Checked α) : Checked α :=
  match names with
  | [] => .ok default
  | name :: others =>
    match Value.lookup entries (.str name) with
    | some v => below (.key name) (check v)
    | none => field entries others default check

end Weave.Schema
