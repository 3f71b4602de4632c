import Weave.Value

/-!
# Outcomes

What evaluating a snippet leaves for the document to embed. A failed evaluation leaves nothing at
all; a snippet of statements has no result, and an expression no last value.
-/

set_option autoImplicit false

namespace Weave

/-- What a document wants pulled out of an outcome. -/
inductive EmbedKind where
  | output
  | itValue
  | value
deriving DecidableEq, Repr, Inhabited

namespace EmbedKind

def name : EmbedKind → Text
  | .output => "Output".toList
  | .itValue => "ItValue".toList
  | .value => "Value".toList

def ofName? (t : Text) : Option EmbedKind :=
  [EmbedKind.output, .itValue, .value].find? fun k => k.name = t

end EmbedKind

structure Outcome where
  output : Option Text := none
  itValue : Option TypedValue := none
  result : Option TypedValue := none
deriving Inhabited

def Outcome.empty : Outcome := {}

end Weave
