import Weave.Action
import Weave.Outcome
import Weave.World

/-!
# Sessions

A session runs snippets one after the other in a world that it shares with the rest of the program.
What one snippet binds is there for the next.
-/

set_option autoImplicit false

namespace Weave

/-- How a snippet ended that did not come to its end. -/
inductive Halt where
  /-- It does not compile or raised `cause`. -/
  | failed (text : Text) (cause : Exception) (errorText : Text)
  /-- Something that is not the snippet's own failure. -/
  | raised (e : Exception)
deriving Inhabited

namespace Halt

def message : Halt → Text
  | .failed _ cause _ => "Evaluating snippet failed: ".toList ++ cause.written
  | .raised e => e.message

end Halt

/-- What an evaluator asks of a session with the state `τ`. -/
structure Session (τ : Type) where
  /-- Runs statements and returns what they print. -/
  run : (text : Text) → (file : Option Path) → Action (World × τ) Halt Text
  /-- Evaluates an expression, and returns also what it prints. -/
  eval : (text : Text) → (file : Option Path) → Action (World × τ) Halt (Text × TypedValue)
  /-- The value of the last expression that stood as a statement, if there is any. -/
  lastValue : τ → Option TypedValue × τ

namespace Session

variable {τ α : Type}

/-- Acts in a directory and comes back, however the action ends. -/
def inDirectory (names : List Text) (p : Action (World × τ) Halt α) :
    Action (World × τ) Halt α := fun s =>
  match s.1.visit names with
  | .error e => (.error (.raised e), s)
  | .ok w =>
    Action.andFinally p
      (Action.mapError .raised (Action.onFirst (World.depart names s.1.here))) (w, s.2)

end Session

end Weave
