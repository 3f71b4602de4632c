import Weave.Engine
import Weave.Proofs.Session.Directories

/-!
# Evaluations

What a session is asked for, one after the other: to run statements, to evaluate an expression, to
evaluate one on the quiet, and any of these in a directory.
-/

set_option autoImplicit false

namespace Weave

variable {τ κ χ ν ε : Type}

/-- What a session is asked for. -/
inductive Errand where
  | run (text : Text) (file : Option Path)
  | eval (text : Text) (file : Option Path)
  | tryEval (text : Text)
  /-- In a directory, and back again. -/
  | inside (names : List Text) (e : Errand)

namespace Engine

variable (E : Engine τ κ χ ν ε)

def after : Errand → World × τ → World × τ
  | .run text file, m => (E.run text file m).2
  | .eval text file, m => (E.eval text file m).2
  | .tryEval text, m => (E.tryEval text m).2
  | .inside names e, m =>
    (Session.inDirectory names (fun m => (.ok (), after e m) : Action (World × τ) Halt Unit) m).2

def afterAll (es : List Errand) (m : World × τ) : World × τ := es.foldl (fun m e => E.after e m) m

variable {E} {names : List Text} {e : Errand} {m : World × τ}

theorem after_inside {w : World} (hvisit : m.1.visit names = .ok w) :
    E.after (.inside names e) m =
      (((E.after e (w, m.2)).1.depart names m.1.here).2, (E.after e (w, m.2)).2) := by
  have hleave := Session.inDirectory_of_visit (s := m)
    (p := fun m => (.ok (), E.after e m)) (r := .ok ()) hvisit rfl
  rw [after, hleave]
  split
  next h => rw [h]
  next h => rw [h]

theorem after_inside_of_error {f : Exception} (hvisit : m.1.visit names = .error f) :
    E.after (.inside names e) m = m := by
  simp only [after, Session.inDirectory, hvisit]

end Engine

end Weave
