import Weave.Block

/-!
# Tables of records

A non-empty list of records with the same keys in the same order is a table. Which objects are lists
and records, when two of them are equal, what their hashes are and how they are written is up to the
objects. Two keys also agree if they are one object, whatever it says of itself; and a value is looked
up in a record by the hash of its key first.
-/

set_option autoImplicit false

namespace Weave

/-- An entry of a record, with the hash that its key had when it was set. -/
structure Entry (ν : Type) where
  key : ν
  hash : Int
  value : ν

/-- What is known of objects `ν`. To compare, to hash or to write one may raise an exception `ε`. -/
structure Objects (ν ε : Type) where
  /-- The items of a list. -/
  items? : ν → Option (List ν)
  /-- The entries of a record in the order in which their keys were first set. -/
  entries? : ν → Option (List (Entry ν))
  /-- Whether two are one object. -/
  same : ν → ν → Bool
  equal : ν → ν → Except ε Bool
  hash : ν → Except ε Int
  str : ν → Except ε Text
  /-- That a record has no such key. -/
  missing : ν → ε

namespace Objects

variable {ν ε : Type} (O : Objects ν ε)

def agree (x y : ν) : Except ε Bool := if O.same x y then .ok true else O.equal x y

/-- Item by item, up to the first two that do not agree. -/
def agreeEach : List ν → List ν → Except ε Bool
  | x :: xs, y :: ys => do if ← O.agree x y then agreeEach xs ys else pure false
  | _, _ => pure true

/-- Lists of different lengths are not looked into. -/
def agreeLists (xs ys : List ν) : Except ε Bool :=
  if xs.length = ys.length then O.agreeEach xs ys else pure false

/-- Whether the keys of every record agree with the headers. -/
def fit (headers : List ν) : List (List (Entry ν)) → Except ε Bool
  | [] => pure true
  | r :: rs => do if ← O.agreeLists (r.map Entry.key) headers then fit headers rs else pure false

/-- The first entry with this hash whose key agrees. -/
def find? (hash : Int) (key : ν) : List (Entry ν) → Except ε (Option (Entry ν))
  | [] => pure none
  | e :: es =>
    if e.hash = hash then do if ← O.agree e.key key then pure (some e) else find? hash key es
    else find? hash key es

def lookUp (record : List (Entry ν)) (key : ν) : Except ε ν := do
  let hash ← O.hash key
  match ← O.find? hash key record with
  | some e => pure e.value
  | none => .error (O.missing key)

def row (headers : List ν) (record : List (Entry ν)) : Except ε (List Text) :=
  headers.mapM fun key => do O.str (← O.lookUp record key)

/-- The table of these records, if they fit the keys of the first. -/
def table? (first : List (Entry ν)) (others : List (List (Entry ν))) : Except ε (Option Block) := do
  let headers := first.map Entry.key
  if ← O.fit headers (first :: others) then
    let rows ← (first :: others).mapM (O.row headers)
    let texts ← headers.mapM O.str
    pure (some (.table texts rows))
  else pure none

/-- Presents a non-empty list of records that fit each other as a table, and nothing else. -/
def tabulate (v : ν) : Except ε (Option Block) :=
  match (O.items? v).bind (List.mapM O.entries?) with
  | some (first :: others) => O.table? first others
  | _ => pure none

end Objects

end Weave
