import Weave.Session

/-!
# Sessions that play back

A session that answers every call with the next of some prepared entries and notes the calls.
-/

set_option autoImplicit false

namespace Weave.Playback

/-- The answer to one call. -/
structure Entry where
  output : Text := []
  /-- The value of an expression. -/
  value : Value := .none
  /-- The last value from this call on. -/
  last : Option Value := none
  error : Option Exception := none
  errorText : Text := []
deriving Inhabited

inductive Call where
  /-- The directory that is gone to, as seen from the current one. -/
  | directory (path : Text)
  | run (text : Text) (file : Option Path)
  | eval (text : Text) (file : Option Path)
  | lastValue

structure State where
  entries : List Entry := []
  last : Option TypedValue := none
  calls : List Call := []
deriving Inhabited

namespace State

def note (s : State) (c : Call) : State := { s with calls := s.calls ++ [c] }

/-- The next entry, and the state after it. -/
def next (s : State) : Entry × State :=
  let e := s.entries.head?.getD {}
  (e, { s with entries := s.entries.tail, last := (e.last.map TypedValue.of).or s.last })

end State

def answer (call : Call) (text : Text) : Action (World × State) Halt Entry := fun s =>
  let (e, t) := (s.2.note call).next
  match e.error with
  | some x => (.error (.failed text x e.errorText), s.1, t)
  | none => (.ok e, s.1, t)

def session : Session State where
  run text file := do
    let e ← answer (.run text file) text
    pure e.output
  eval text file := do
    let e ← answer (.eval text file) text
    pure (e.output, TypedValue.of e.value)
  lastValue s := (s.last, s.note .lastValue)

end Weave.Playback
