import Weave.Proofs.Engine.Captures
import Weave.Proofs.Program.Renaming
import Weave.Proofs.World.Tree

/-!
# Programs as snippets

Programs are tame, so whatever a snippet does and however it ends, it only adds to what its capture
holds. What it reports then is what it has written and how it ended, unless its exception cannot be
shown or written. To show and to write an exception runs nothing.
-/

set_option autoImplicit false

namespace Weave.Program

variable {α : Type}

/-- What the engine does to the world is what tame actions do. -/
theorem engine_worked : engine.Does World.Worked where
  read source text m := (tame_read source text).worked m
  execute source body m := (tame_execute source body).worked m
  value source e m := (tame_value source e).worked m
  evaluate source text m := (tame_expression source text).worked m
  evaluateText text m := (tame_expression _ _).worked m
  shown source stop m := by
    show World.Worked m.1 (shown source stop m).2.1
    unfold shown
    split <;> exact .refl m.1
  written stop m := by
    show World.Worked m.1 (written stop m).2.1
    unfold written
    split <;> exact .refl m.1

theorem engine_wrote : engine.Does Wrote := engine_worked.imp fun _ _ h => h.console

/-! ### The last value -/

def lastSpan : Span := ⟨⟨1, 0⟩, ⟨1, 1⟩⟩

theorem builtin?_lastName : builtin? lastName = none := by decide +kernel

theorem lookUp_lastName (i : Interpreter) (source : Text) :
    lookUp { i with scope := { source } } lastName = match i.names.get? lastName with
      | some v => .ok v
      | none => .error (nameError lastName) := by
  show (match i.names.get? lastName with
    | some v => Except.ok v
    | none => match builtin? lastName with
      | some v => .ok v
      | none => .error (nameError lastName)) = _
  rw [builtin?_lastName]

theorem evaluateText_lastName (m : Machine) :
    engine.evaluateText lastName m = match m.2.names.get? lastName with
      | some v => (.ok v, m)
      | none => (.error (.raised (nameError lastName)
          [Run.frameAt lastSpan { m.2 with scope := { source := "<string>".toList } }]), m) := by
  have hwhole : evalWhole "<string>".toList (.name lastSpan lastName) =
      Run.interpreter >>= fun i => Run.orRaise lastSpan (lookUp i lastName) := by
    unfold evalWhole
    rw [show depth = 9999 + 1 from rfl, Run.eval]
    rfl
  have hexpression : expression "<string>".toList lastName =
      Run.inScope { source := "<string>".toList }
        (Run.interpreter >>= fun i => Run.orRaise lastSpan (lookUp i lastName)) := by
    rw [← hwhole]
    rfl
  show expression "<string>".toList lastName m = _
  rw [hexpression, Run.inScope, Action.bind_apply]
  dsimp only [Run.interpreter, Action.state, Action.map_apply]
  rw [lookUp_lastName]
  cases m.2.names.get? lastName <;> rfl

theorem engine_looksUp : engine.LooksUp where
  bound {m v} h := by
    have hget : m.2.names.get? lastName = some v := h
    rw [evaluateText_lastName, hget]
  unbound {m} h := by
    have hget : m.2.names.get? lastName = none := h
    rw [evaluateText_lastName, hget]
    have hdropped : Exception.isKind "Exception" (nameError lastName).kind = true := by decide +kernel
    exact ⟨.raised (nameError lastName) _, hdropped, rfl⟩

/-! ### How snippets are halted -/

/-- A snippet is halted by the exceptions that are its failures, with what it has written and how it
ended; other exceptions go on, and so does one that is raised when a failure is to be shown or
written. -/
def halted (text source : Text) (stop : Stop) (n : Machine) : Halt :=
  match stop.escaping with
  | none => .failed text stop.exception
      ((held n).merged ++ Traceback.ofFailure n.2.listings source stop.exception stop.trace)
  | some e => .raised e

section Halts

variable {text source : Text} {stop : Stop} {n : Machine}

theorem shown_eq_ok {t : Text} {k : Machine} (h : engine.shown source stop n = (.ok t, k)) :
    Traceback.unshowable? stop.exception = none ∧
      t = Traceback.ofFailure n.2.listings source stop.exception stop.trace ∧ k = n := by
  change shown source stop n = _ at h
  unfold shown at h
  split at h
  · cases h
  · next hu =>
    cases h
    exact ⟨hu, rfl, rfl⟩

theorem shown_eq_error {x : Stop} {k : Machine} (h : engine.shown source stop n = (.error x, k)) :
    ∃ e, Traceback.unshowable? stop.exception = some e ∧ x = .raised e [] ∧ k = n := by
  change shown source stop n = _ at h
  unfold shown at h
  split at h
  · next e hu =>
    cases h
    exact ⟨e, hu, rfl, rfl⟩
  · cases h

theorem written_eq_ok {t : Text} {k : Machine} (h : engine.written stop n = (.ok t, k)) :
    stop.exception.isWritable = true ∧ k = n := by
  change written stop n = _ at h
  unfold written at h
  split at h
  · next hw =>
    cases h
    exact ⟨hw, rfl⟩
  · cases h

theorem written_eq_error {x : Stop} {k : Machine} (h : engine.written stop n = (.error x, k)) :
    ¬ stop.exception.isWritable = true ∧ x = .raised .tooManyDigits [] ∧ k = n := by
  change written stop n = _ at h
  unfold written at h
  split at h
  · cases h
  · next hw =>
    cases h
    exact ⟨hw, rfl, rfl⟩

/-- With its capture open, a session halts as the exception says, and nothing else becomes of the machine. -/
theorem eq_halted {k : Machine} {h : Halt} {v : World} {ws : List (Nat × Write)} (hn : Captures v n.1 ws)
    (hhalts : engine.Halts text source stop n h k) : h = halted text source stop n ∧ closed k = closed n := by
  cases hhalts with
  | reported hf hs hw =>
    have hfails : isFailure stop.exception = true := hf
    obtain ⟨hu, rfl, rfl⟩ := shown_eq_ok hs
    obtain ⟨hwritable, rfl⟩ := written_eq_ok hw
    rw [hn.closed_wrote, hn.merged_wrote, halted, Stop.escaping, if_pos hfails, hu, if_pos hwritable]
    exact ⟨rfl, rfl⟩
  | unshown hf hs =>
    have hfails : isFailure stop.exception = true := hf
    obtain ⟨e, hu, rfl, rfl⟩ := shown_eq_error hs
    rw [halted, Stop.escaping, if_pos hfails, hu]
    exact ⟨rfl, rfl⟩
  | unwritten hf hs hw =>
    have hfails : isFailure stop.exception = true := hf
    obtain ⟨hu, rfl, rfl⟩ := shown_eq_ok hs
    obtain ⟨hwritable, rfl, rfl⟩ := written_eq_error hw
    rw [hn.closed_wrote, halted, Stop.escaping, if_pos hfails, hu, if_neg hwritable]
    exact ⟨rfl, rfl⟩
  | other hf =>
    have hfails : ¬ isFailure stop.exception = true := hf
    rw [halted, Stop.escaping, if_neg hfails]
    exact ⟨rfl, rfl⟩

end Halts

/-- An action of programs begins with its capture open, and ends with it open. -/
theorem halt_of_worked {p : Run α} (hp : ∀ m, World.Worked m.1 (p m).2.1) {text source : Text} {stop : Stop}
    {m n : Machine} (hn : p (openCapture m) = (.error stop, n)) :
    (engine.halt text source stop n).1 = halted text source stop n ∧
      closed (engine.halt text source stop n).2 = closed n := by
  obtain ⟨ws, hws⟩ := Wrote.of_eq (fun m => (hp m).console) hn
  exact eq_halted (captures_iff.mpr hws) (Engine.halts_halt engine text source stop n)

theorem run_apply (text : Text) (file : Option Path) (m : Machine) :
    run text file m =
      match statements (engine.nextSource file m.2) text
        (openCapture (m.1, engine.register text text file m.2)) with
      | (.ok _, n) => (.ok ((held n).onStream .output), closed n)
      | (.error stop, n) => (.error (halted text (engine.nextSource file m.2) stop n), closed n) := by
  rcases h : statements (engine.nextSource file m.2) text
    (openCapture (m.1, engine.register text text file m.2)) with ⟨stop | u, n⟩
  · obtain ⟨hhalt, hclosed⟩ := halt_of_worked
      (tame_statements (engine.nextSource file m.2) text).worked h
    rw [run, Engine.run_of_error h, hhalt, hclosed]
  · exact Engine.run_of_ok h

theorem eval_apply (text : Text) (file : Option Path) (m : Machine) :
    eval text file m =
      match expression (engine.nextSource file m.2) (Text.trim text)
        (openCapture (m.1, engine.register text (Text.trim text) file m.2)) with
      | (.ok v, n) => (.ok ((held n).onStream .output, TypedValue.of v), closed n)
      | (.error stop, n) => (.error (halted text (engine.nextSource file m.2) stop n), closed n) := by
  rcases h : expression (engine.nextSource file m.2) (Text.trim text)
    (openCapture (m.1, engine.register text (Text.trim text) file m.2)) with ⟨stop | v, n⟩
  · obtain ⟨hhalt, hclosed⟩ := halt_of_worked
      (engine_worked.evaluate (engine.nextSource file m.2) (Text.trim text)) h
    rw [eval, Engine.eval_of_error h, hhalt, hclosed]
  · exact Engine.eval_of_ok h

end Weave.Program
