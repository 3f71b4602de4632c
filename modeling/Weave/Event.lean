import Weave.Text

/-!
# Events

Handlers subscribe to an event and are called, in the order of their subscriptions, whenever it is
triggered. While being called a handler may subscribe and unsubscribe handlers; who is called by a
trigger is settled when it begins.
-/

set_option autoImplicit false

namespace Weave

/-- What a handler goes on to do to the event that called it. -/
inductive Reaction (η ε : Type) where
  | finish
  | raise (e : ε)
  | subscribe (h : η) (next : Reaction η ε)
  /-- The handler is told whether there was a subscription to end. -/
  | unsubscribe (h : η) (next : Bool → Reaction η ε)

/-- The subscribed handlers, in order; a handler may be subscribed repeatedly. -/
structure Event (η : Type) where
  handlers : List η := []
deriving Repr, Inhabited

namespace Event

variable {η ε α σ : Type} [DecidableEq η]

def subscribe (e : Event η) (h : η) : Event η := ⟨e.handlers ++ [h]⟩

/-- Ends the earliest subscription of a handler, if it has one. -/
def unsubscribe? (e : Event η) (h : η) : Option (Event η) :=
  if h ∈ e.handlers then some ⟨e.handlers.erase h⟩ else none

def react (e : Event η) : Reaction η ε → Except ε Unit × Event η
  | .finish => (.ok (), e)
  | .raise x => (.error x, e)
  | .subscribe h next => (e.subscribe h).react next
  | .unsubscribe h next =>
    match e.unsubscribe? h with
    | some e' => e'.react (next true)
    | none => e.react (next false)

/-- Calls these handlers one after the other, up to the first that raises. -/
def callEach (call : η → α → σ → Reaction η ε × σ) (a : α) :
    List η → Event η → σ → Except ε Unit × Event η × σ
  | [], e, s => (.ok (), e, s)
  | h :: hs, e, s =>
    let (r, s) := call h a s
    match e.react r with
    | (.ok (), e) => callEach call a hs e s
    | (.error x, e) => (.error x, e, s)

def trigger (e : Event η) (call : η → α → σ → Reaction η ε × σ) (a : α) (s : σ) :
    Except ε Unit × Event η × σ :=
  callEach call a e.handlers e s

end Event

/-- What is said when a handler that is not subscribed is unsubscribed. -/
def notSubscribed : Text := "list.remove(x): x not in list".toList

end Weave
