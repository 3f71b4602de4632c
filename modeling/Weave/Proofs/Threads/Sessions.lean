import Weave.Build
import Weave.Proofs.Program.Snippets
import Weave.Proofs.Threads.Home

/-!
# Sessions that threads share

A session that runs programs does not notice what is printed between them, so that listeners that do
nothing else, as those of a build, make no difference to it. Programs never take a directory away; a
program may change the search path.
-/

set_option autoImplicit false

namespace Weave.Threads

variable {τ η : Type} {same : World → World → Prop} {listening : Listening η} {home : List Text}

/-! ### Programs -/

/-- What is reported of a program does not depend on what has been printed before it. -/
theorem alike_of_heedless {α : Type} {p : Program.Run α} (hp : Program.Heedless p) {v : World} (k : Console)
    (i : Program.Interpreter) {r : Except Program.Stop α} {n : Program.Machine}
    (h : p (openCapture (v, i)) = (r, n)) :
    ∃ n', p (openCapture (v.withConsole k, i)) = (r, n') ∧ n'.2 = n.2 ∧ held n' = held n ∧
      Alike World.Said (closed n) (closed n') := by
  obtain ⟨ws, hconsole, happly⟩ := hp (openCapture (v, i)) (k.openCapture 0)
  rw [h] at hconsole happly
  dsimp only at hconsole happly
  refine ⟨_, happly, rfl, ?_, ⟨_, rfl⟩, rfl⟩
  have hn : Captures v n.1 ws := captures_iff.mpr hconsole
  have hn' : Captures (v.withConsole k) (n.1.withConsole ((k.openCapture 0).writeAll ws)) ws :=
    captures_iff.mpr rfl
  exact (Captures.held (m := (_, n.2)) hn').trans hn.held.symm

theorem respects_run (text : Text) (file : Option Path) :
    Respects World.Said (Program.session.run text file) := by
  rintro ⟨v, i⟩ ⟨w, j⟩ ⟨⟨k, hw⟩, hj⟩
  obtain rfl : w = v.withConsole k := hw
  obtain rfl : j = i := hj
  have hp := (Program.tame_statements (Program.engine.nextSource file j) text).heedless
  rw [show Program.session.run text file (v, j) = _ from Program.run_apply text file (v, j),
    show Program.session.run text file (v.withConsole k, j) = _ from
      Program.run_apply text file (v.withConsole k, j)]
  rcases h : Program.statements (Program.engine.nextSource file j) text
    (openCapture (v, Program.engine.register text text file j)) with ⟨stop | u, n⟩
  all_goals
    obtain ⟨n', hn', hstate, hheld, halike⟩ := alike_of_heedless hp k _ h
    simp only [hn', Program.halted, hheld, hstate]
    exact ⟨rfl, halike⟩

theorem respects_eval (text : Text) (file : Option Path) :
    Respects World.Said (Program.session.eval text file) := by
  rintro ⟨v, i⟩ ⟨w, j⟩ ⟨⟨k, hw⟩, hj⟩
  obtain rfl : w = v.withConsole k := hw
  obtain rfl : j = i := hj
  have hp := (Program.tame_expression (Program.engine.nextSource file j) (Text.trim text)).heedless
  rw [show Program.session.eval text file (v, j) = _ from Program.eval_apply text file (v, j),
    show Program.session.eval text file (v.withConsole k, j) = _ from
      Program.eval_apply text file (v.withConsole k, j)]
  rcases h : Program.expression (Program.engine.nextSource file j) (Text.trim text)
    (openCapture (v, Program.engine.register text (Text.trim text) file j)) with ⟨stop | u, n⟩
  all_goals
    obtain ⟨n', hn', hstate, hheld, halike⟩ := alike_of_heedless hp k _ h
    simp only [hn', Program.halted, hheld, hstate]
    exact ⟨rfl, halike⟩

theorem stands_run (text : Text) (file : Option Path) (m : Program.Machine) (hs : m.1.Stands home) :
    (Program.session.run text file m).2.1.Stands home := by
  have h := (Program.tame_statements (Program.engine.nextSource file m.2) text).worked
    (openCapture (m.1, Program.engine.register text text file m.2))
  rw [show Program.session.run text file m = _ from Program.run_apply text file m]
  split
  · next hn => exact hs.congr (hn ▸ h).files (hn ▸ h).directories
  · next hn => exact hs.congr (hn ▸ h).files (hn ▸ h).directories

theorem stands_eval (text : Text) (file : Option Path) (m : Program.Machine) (hs : m.1.Stands home) :
    (Program.session.eval text file m).2.1.Stands home := by
  have h := (Program.tame_expression (Program.engine.nextSource file m.2) (Text.trim text)).worked
    (openCapture (m.1, Program.engine.register text (Text.trim text) file m.2))
  rw [show Program.session.eval text file m = _ from Program.eval_apply text file m]
  split
  · next hn => exact hs.congr (hn ▸ h).files (hn ▸ h).directories
  · next hn => exact hs.congr (hn ▸ h).files (hn ▸ h).directories

def Crew.KeepsPath (session : Session τ) (crew : Crew τ η) : Prop :=
  ∀ (k : Nat) (t : Thread) (names previous : List Text),
    crew.threads[k]? = some t → t.stage = .run names previous →
      (runStep session t.call names previous crew.workshop).2.1.searchPath = crew.workshop.1.searchPath

instance (session : Session τ) (crew : Crew τ η) : Decidable (crew.KeepsPath session) :=
  decidable_of_iff (crew.threads.all fun t => match t.stage with
    | .run names previous => decide ((runStep session t.call names previous crew.workshop).2.1.searchPath =
        crew.workshop.1.searchPath)
    | _ => true) <| by
    rw [List.all_eq_true]
    constructor
    · intro h k t names previous hk hstage
      have ht := h t (List.mem_of_getElem? hk)
      rw [hstage] at ht
      exact of_decide_eq_true ht
    · intro h t ht
      obtain ⟨k, hk⟩ := List.getElem?_of_mem ht
      split
      next names previous hstage => exact decide_eq_true (h k t names previous hk hstage)
      next => rfl

theorem calm_program {crew : Crew Program.Interpreter η} (h : crew.KeepsPath Program.session) :
    crew.Calm Program.session home := by
  intro k t names previous hk hstage
  have hstands := runStep_world (fun v w => v.Stands home → w.Stands home) stands_run stands_eval
    t.call names previous crew.workshop
  exact ⟨h k t names previous hk hstage, hstands⟩

/-- A session that runs programs takes no notice of listeners that do nothing but print. -/
theorem unnoticed_program (h : ∀ x f w, World.Said w (listening x f w).2) :
    Unnoticed World.Said Program.session listening where
  equivalence := ⟨World.Said.refl, World.Said.symm, World.Said.trans⟩
  here := by
    rintro v _ ⟨k, rfl⟩
    rfl
  searchPath := by
    rintro v _ ⟨k, rfl⟩
    rfl
  files := by
    rintro v _ ⟨k, rfl⟩
    rfl
  directories := by
    rintro v _ ⟨k, rfl⟩
    rfl
  moved := by
    rintro v _ ⟨k, rfl⟩ here searchPath
    exact ⟨k, rfl⟩
  run := respects_run
  eval := respects_eval
  heard := h

theorem said_alone (x : Listener) (f : Failure) (w : World) : World.Said w (Listener.alone x f w).2 := by
  cases x with
  | report => exact (World.said_print w _).trans (World.said_print _ _)
  | collect => exact .refl w
  | other name => exact .refl w

end Weave.Threads
