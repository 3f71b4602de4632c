import Weave.Proofs.Program.Snippets

/-!
# Captured output

Every write lands in the innermost open capture of its thread, and a snippet reports what its capture
holds. Whether a failure is reported hangs on its exception, which has to be shown and written for
that.
-/

set_option autoImplicit false

namespace Weave

variable {τ κ χ ν ε : Type}

/-- However captures are nested and writes interleaved, every write lands in the innermost open
capture of its thread, and what a capture holds when it closes is what has landed in it. As long as an
engine does nothing to captures but write, a snippet that fails reports what its capture holds with
the exception below it, if and only if the exception can be shown and written. -/
theorem Engine.output_captured (E : Engine τ κ χ ν ε) (hE : E.Does Wrote) (l : List Write)
    (es : List Console.Event) (text : Text) (file : Option Path) (m : World × τ) :
    Console.Routes l es ∧
      E.Reports text (E.nextSource file m.2) (E.statements (E.nextSource file m.2) text)
        (m.1, E.register text text file m.2) (E.run text file m) ∧
      E.Reports text (E.nextSource file m.2) (E.evaluate (E.nextSource file m.2) (Text.trim text))
        (m.1, E.register text (Text.trim text) file m.2) ((Prod.fst <$> E.eval text file) m) := by
  refine ⟨Console.routes l es, ?_, ?_⟩
  · exact reports_captured hE (does_statements Wrote.refl (fun _ _ _ => .trans) hE _ text) text _ _
  · have h := reports_captured hE (hE.evaluate (E.nextSource file m.2) (Text.trim text)) text
      (E.nextSource file m.2) (m.1, E.register text (Text.trim text) file m.2)
    have heval : (Prod.fst <$> E.eval text file) m = (Prod.fst <$> E.captured text (E.nextSource file m.2)
        (E.evaluate (E.nextSource file m.2) (Text.trim text)))
        (m.1, E.register text (Text.trim text) file m.2) := by
      rw [Action.map_apply, Action.map_apply, Engine.eval]
      rcases E.captured text (E.nextSource file m.2) (E.evaluate (E.nextSource file m.2) (Text.trim text))
        (m.1, E.register text (Text.trim text) file m.2) with ⟨h | a, n⟩ <;> rfl
    rw [heval]
    exact h

namespace Program

def hugeNumber : Text := "raise ValueError(10 ** 5000)".toList

def failsUnwritably {α : Type} : Except Stop α → Bool
  | .error stop => isFailure stop.exception && !stop.exception.isWritable
  | .ok _ => false

theorem not_reported {α : Type} {text source : Text} {p : Run α} {m : Machine}
    {answer : Except Halt Text × Machine} (h : engine.Reports text source p m answer)
    (hp : failsUnwritably (p (openCapture m)).1 = true) :
    ∃ stop n, p (openCapture m) = (.error stop, n) ∧ engine.isFailure stop ∧
      ∀ errorText, answer.1 ≠ .error (.failed text (engine.exception stop) errorText) := by
  have hends : ∀ {r n}, p (openCapture m) = (r, n) → failsUnwritably r = true := by
    intro r n hr
    rwa [hr] at hp
  cases h with
  | output hok hn => cases hends hok
  | unshown herror hf hs hk => exact ⟨_, _, herror, hf, fun _ => nofun⟩
  | unwritten herror hf hs hw hl => exact ⟨_, _, herror, hf, fun _ => nofun⟩
  | failure herror hf hs hk hw hl =>
    obtain ⟨-, hwritable⟩ := Bool.and_eq_true_iff.mp (hends herror)
    exact absurd (written_eq_ok hw).1 (by simpa using hwritable)
  | other herror hf hn => exact absurd (Bool.and_eq_true_iff.mp (hends herror)).1 hf

theorem output_captured_hugeNumber :
    engine.Does Wrote ∧ ∃ stop n,
      statements (engine.nextSource none {}) hugeNumber
        (openCapture ({}, engine.register hugeNumber hugeNumber none {})) = (.error stop, n) ∧
      engine.isFailure stop ∧
      ∀ errorText, (engine.run hugeNumber none ({}, {})).1 ≠
        .error (.failed hugeNumber (engine.exception stop) errorText) :=
  ⟨engine_wrote, not_reported (Engine.output_captured engine engine_wrote [] [] hugeNumber none ({}, {})).2.1
    (by decide +kernel)⟩

end Program

end Weave
