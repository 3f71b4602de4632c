import Weave.Text

/-!
# Dictionaries

Finite maps from names in the order in which the names were first set. Setting a name again keeps
its place.
-/

set_option autoImplicit false

namespace Weave

structure Dictionary (α : Type) where
  entries : List (Text × α) := []
deriving Repr

namespace Dictionary

variable {α : Type}

instance : Inhabited (Dictionary α) := ⟨{}⟩

def names (d : Dictionary α) : List Text := d.entries.map Prod.fst

def find? (name : Text) : List (Text × α) → Option α
  | [] => none
  | (n, v) :: es => if n = name then some v else find? name es

def get? (d : Dictionary α) (name : Text) : Option α := find? name d.entries

/-- The entries after setting a name. -/
def put (name : Text) (v : α) : List (Text × α) → List (Text × α)
  | [] => [(name, v)]
  | (n, w) :: es => if n = name then (n, v) :: es else (n, w) :: put name v es

def set (d : Dictionary α) (name : Text) (v : α) : Dictionary α := ⟨put name v d.entries⟩

def erase (d : Dictionary α) (name : Text) : Dictionary α := ⟨d.entries.filter fun e => e.1 ≠ name⟩

def ofList (es : List (Text × α)) : Dictionary α := es.foldl (fun d e => d.set e.1 e.2) {}

theorem find?_put (name other : Text) (v : α) (es : List (Text × α)) :
    find? other (put name v es) = if name = other then some v else find? other es := by
  induction es with
  | nil => simp [put, find?]
  | cons e es ih =>
    obtain ⟨n, w⟩ := e
    by_cases hn : n = name <;> by_cases ho : n = other <;> by_cases hno : name = other <;>
      simp_all [put, find?]

@[simp] theorem get?_set (d : Dictionary α) (name other : Text) (v : α) :
    (d.set name v).get? other = if name = other then some v else d.get? other :=
  find?_put name other v d.entries

@[simp] theorem get?_empty (name : Text) : ({} : Dictionary α).get? name = none := rfl

end Dictionary

end Weave
