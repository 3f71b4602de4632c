import Weave.Text

/-!
# Captured output

Output goes to the innermost open capture of the thread that writes it, and to the base streams if
that thread has none. A capture keeps its two streams apart and also together.
-/

set_option autoImplicit false

namespace Weave

inductive Stream where
  | output
  | error
deriving DecidableEq, Repr, Inhabited

structure Write where
  stream : Stream
  text : Text
deriving DecidableEq, Repr, Inhabited

/-- What one thread has written since the capture was opened, the latest first. -/
structure Capture where
  owner : Nat
  latest : List Write := []
deriving DecidableEq, Repr, Inhabited

namespace Capture

def writes (c : Capture) : List Write := c.latest.reverse

def add (c : Capture) (w : Write) : Capture := { c with latest := w :: c.latest }

theorem writes_add (c : Capture) (w : Write) : (c.add w).writes = c.writes ++ [w] := by
  simp [add, writes]

def textOf (ws : List Write) : Text := ws.flatMap Write.text

def onStream (c : Capture) (s : Stream) : Text := textOf (c.writes.filter fun w => w.stream = s)

/-- What went to either stream. -/
def merged (c : Capture) : Text := textOf c.writes

end Capture

/-- What has reached the base streams, the latest first, and the open captures, the innermost first. -/
structure Console where
  landed : List Write := []
  captures : List Capture := []
deriving DecidableEq, Repr, Inhabited

namespace Console

/-- What has reached the base streams, in order. -/
def base (k : Console) : List Write := k.landed.reverse

def land (thread : Nat) (w : Write) : List Capture → Option (List Capture)
  | [] => none
  | c :: cs =>
    if c.owner = thread then some (c.add w :: cs)
    else (land thread w cs).map (c :: ·)

def write (k : Console) (thread : Nat) (w : Write) : Console :=
  match land thread w k.captures with
  | some cs => { k with captures := cs }
  | none => { k with landed := w :: k.landed }

def openCapture (k : Console) (thread : Nat) : Console :=
  { k with captures := ⟨thread, []⟩ :: k.captures }

/-- Closes the innermost capture and returns what it holds. -/
def closeCapture (k : Console) : Capture × Console :=
  match k.captures with
  | [] => (⟨0, []⟩, k)
  | c :: cs => (c, { k with captures := cs })

/-- A line that the program itself prints. -/
def printLine (k : Console) (t : Text) : Console := k.write 0 ⟨.output, t ++ ['\n']⟩

def log (k : Console) : Text := Capture.textOf (k.base.filter fun w => w.stream = .output)

end Console

end Weave
