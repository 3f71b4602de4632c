import Weave.Text

/-!
# Places in programs

Lines count from one, columns from zero.
-/

set_option autoImplicit false

namespace Weave.Program

structure Spot where
  line : Nat
  column : Nat
deriving DecidableEq, Repr, Inhabited

structure Span where
  start : Spot
  stop : Spot
deriving DecidableEq, Repr, Inhabited

namespace Spot

def past (p : Spot) : Text → Spot
  | [] => p
  | c :: r => past (if c = '\n' then ⟨p.line + 1, 0⟩ else ⟨p.line, p.column + 1⟩) r

/-- A place that is counted from another one, with so many columns added in the first line. -/
def within (q p : Spot) (columns : Nat) : Spot :=
  if q.line = 1 then ⟨p.line, p.column + columns + q.column⟩ else ⟨p.line + q.line - 1, q.column⟩

end Spot

/-- A span that is counted from a place. -/
def Span.within (s : Span) (p : Spot) (columns : Nat) : Span :=
  ⟨s.start.within p columns, s.stop.within p columns⟩

end Weave.Program
