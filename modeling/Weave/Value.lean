import Weave.Text

/-!
# Values

What a snippet can leave behind: plain data, and objects that are known by their class and identity
alone. A dictionary keeps its entries in the order in which their keys were first set.
-/

set_option autoImplicit false

namespace Weave

inductive Value where
  | none
  | bool (b : Bool)
  | int (n : Int)
  | float (x : Float)
  | complex (re im : Float)
  | str (t : Text)
  | bytes (bs : List UInt8)
  | list (items : List Value)
  | tuple (items : List Value)
  | set (items : List Value)
  | frozenset (items : List Value)
  | dict (entries : List (Value × Value))
  /-- What is known of it is its class, its identity and its written form. -/
  | object (className : Text) (id : Nat) (shown : Text)
deriving Inhabited

namespace Value

def className : Value → Text
  | .none => "NoneType".toList
  | .bool _ => "bool".toList
  | .int _ => "int".toList
  | .float _ => "float".toList
  | .complex .. => "complex".toList
  | .str _ => "str".toList
  | .bytes _ => "bytes".toList
  | .list _ => "list".toList
  | .tuple _ => "tuple".toList
  | .set _ => "set".toList
  | .frozenset _ => "frozenset".toList
  | .dict _ => "dict".toList
  | .object name _ _ => name

def classText (name : Text) : Text := "<class '".toList ++ name ++ "'>".toList

/-- How an object is shown that has no text of its own. -/
def objectText (className : Text) : Text := '<' :: className ++ " object>".toList

/-- Empty, zero, false and nothing count as false; everything else counts as true. -/
def truth : Value → Bool
  | .none => false
  | .bool b => b
  | .int n => n != 0
  | .float x => x != 0.0
  | .complex re im => re != 0.0 || im != 0.0
  | .str t => !t.isEmpty
  | .bytes bs => !bs.isEmpty
  | .list xs => !xs.isEmpty
  | .tuple xs => !xs.isEmpty
  | .set xs => !xs.isEmpty
  | .frozenset xs => !xs.isEmpty
  | .dict es => !es.isEmpty
  | .object .. => true

end Value

/-- A value together with the class it had when it was produced. -/
structure TypedValue where
  value : Value
  className : Text
deriving Inhabited

def TypedValue.of (v : Value) : TypedValue := ⟨v, v.className⟩

end Weave
