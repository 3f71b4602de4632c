import Weave.Exception
import Weave.Path

/-!
# Failed evaluations
-/

set_option autoImplicit false

namespace Weave

/-- A snippet that could not be evaluated, and why. -/
structure Failure where
  text : Text
  asExpression : Bool
  file : Option Path
  exception : Exception
  /-- What the snippet had written and how it ended. -/
  errorText : Text
deriving Inhabited

namespace Failure

def indent (t : Text) : Text :=
  Text.join ['\n'] (((Text.lines t).filter fun l => !l.isEmpty).map fun l => Text.spaces 4 ++ l)

def message (f : Failure) : Text :=
  "Error evaluating expression \nExpression:\n".toList ++ indent f.text ++ "\nError:\n".toList
    ++ indent f.errorText

end Failure

end Weave
