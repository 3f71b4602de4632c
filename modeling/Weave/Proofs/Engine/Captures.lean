import Weave.Engine
import Weave.Proofs.Console.Routes

/-!
# What snippets report

A snippet runs with its output captured. What it reports is what the capture holds: of the output, or,
if the snippet has failed, of both streams with the exception shown below. To show an exception is to
run programs again, and so is to write it; if that fails, nothing is reported, and what has been
raised then goes on.
-/

set_option autoImplicit false

namespace Weave

variable {τ κ χ ν ε α β : Type}

/-! ### Captures -/

/-- What the innermost capture of a machine holds. -/
def held (m : World × τ) : Capture := m.1.console.closeCapture.1

/-- The machine without its innermost capture. -/
def closed (m : World × τ) : World × τ := ({ m.1 with console := m.1.console.closeCapture.2 }, m.2)

/-- The machine once a text has been written for a snippet that has failed. -/
def wrote (t : Text) (m : World × τ) : World × τ :=
  ({ m.1 with console := m.1.console.write 0 ⟨.error, t⟩ }, m.2)

/-! ### How a session halts -/

namespace Engine

variable {E : Engine τ κ χ ν ε} {text source : Text} {e : ε} {p : Action (World × τ) ε α}
  {m n : World × τ}

/-- How a session halts on an exception that a snippet has raised in the machine `n`, and in which
machine. A failure is reported if it can be shown and written, with what the capture holds once it has
been shown. -/
inductive Halts (E : Engine τ κ χ ν ε) (text source : Text) (e : ε) (n : World × τ) :
    Halt → World × τ → Prop where
  | reported {shown written : Text} {k l : World × τ} (hf : E.isFailure e)
      (hs : E.shown source e n = (.ok shown, k)) (hw : E.written e (wrote shown k) = (.ok written, l)) :
      Halts E text source e n (.failed text (E.exception e) (held (wrote shown k)).merged) l
  | unshown {x : ε} {k : World × τ} (hf : E.isFailure e) (hs : E.shown source e n = (.error x, k)) :
      Halts E text source e n (E.escape x) k
  | unwritten {shown : Text} {x : ε} {k l : World × τ} (hf : E.isFailure e)
      (hs : E.shown source e n = (.ok shown, k)) (hw : E.written e (wrote shown k) = (.error x, l)) :
      Halts E text source e n (E.escape x) l
  | other (hf : ¬ E.isFailure e) : Halts E text source e n (E.escape e) n

theorem halts_halt (E : Engine τ κ χ ν ε) (text source : Text) (e : ε) (n : World × τ) :
    Halts E text source e n (E.halt text source e n).1 (E.halt text source e n).2 := by
  unfold halt
  split
  next hf =>
    rcases hs : E.shown source e n with ⟨x | shown, k⟩
    · rw [report, Action.bind_error hs]
      exact .unshown hf hs
    · have hreport : E.report text source e n =
          (E.written e >>= fun _ => pure (.failed text (E.exception e) (held (wrote shown k)).merged))
            (wrote shown k) := by
        rw [report, Action.bind_ok hs]
        rfl
      rw [hreport]
      rcases hw : E.written e (wrote shown k) with ⟨x | written, l⟩
      · rw [Action.bind_error hw]
        exact .unwritten hf hs hw
      · rw [Action.bind_ok hw]
        exact .reported hf hs hw
  next hf => exact .other hf

theorem captured_of_ok {a : α} (h : p (openCapture m) = (.ok a, n)) :
    E.captured text source p m = (.ok ((held n).onStream .output, a), closed n) := by
  rw [captured, h]
  rfl

theorem captured_of_error (h : p (openCapture m) = (.error e, n)) :
    E.captured text source p m =
      (.error (E.halt text source e n).1, closed (E.halt text source e n).2) := by
  rw [captured, h]
  rfl

section Snippets

variable {file : Option Path}

theorem run_of_ok {u : Unit} (h : E.statements (E.nextSource file m.2) text
      (openCapture (m.1, E.register text text file m.2)) = (.ok u, n)) :
    E.run text file m = (.ok ((held n).onStream .output), closed n) := by
  rw [run, Action.map_apply, captured_of_ok h]

theorem run_of_error (h : E.statements (E.nextSource file m.2) text
      (openCapture (m.1, E.register text text file m.2)) = (.error e, n)) :
    E.run text file m = (.error (E.halt text (E.nextSource file m.2) e n).1,
      closed (E.halt text (E.nextSource file m.2) e n).2) := by
  rw [run, Action.map_apply, captured_of_error h]

theorem eval_of_ok {v : ν} (h : E.evaluate (E.nextSource file m.2) (Text.trim text)
      (openCapture (m.1, E.register text (Text.trim text) file m.2)) = (.ok v, n)) :
    E.eval text file m = (.ok ((held n).onStream .output, E.typed n.2 v), closed n) := by
  rw [eval, captured_of_ok h]
  rfl

theorem eval_of_error (h : E.evaluate (E.nextSource file m.2) (Text.trim text)
      (openCapture (m.1, E.register text (Text.trim text) file m.2)) = (.error e, n)) :
    E.eval text file m = (.error (E.halt text (E.nextSource file m.2) e n).1,
      closed (E.halt text (E.nextSource file m.2) e n).2) := by
  rw [eval, captured_of_error h]

end Snippets

/-! ### What an engine does to the world -/

/-- Whatever an engine is asked for, it does this to the world. -/
structure Does (E : Engine τ κ χ ν ε) (R : World → World → Prop) : Prop where
  read (source text : Text) (m : World × τ) : R m.1 (E.read source text m).2.1
  execute (source : Text) (body : List κ) (m : World × τ) : R m.1 (E.execute source body m).2.1
  value (source : Text) (e : χ) (m : World × τ) : R m.1 (E.value source e m).2.1
  evaluate (source text : Text) (m : World × τ) : R m.1 (E.evaluate source text m).2.1
  evaluateText (text : Text) (m : World × τ) : R m.1 (E.evaluateText text m).2.1
  shown (source : Text) (e : ε) (m : World × τ) : R m.1 (E.shown source e m).2.1
  written (e : ε) (m : World × τ) : R m.1 (E.written e m).2.1

theorem Does.imp {R S : World → World → Prop} (h : E.Does R) (himp : ∀ v w, R v w → S v w) : E.Does S where
  read source text m := himp _ _ (h.read source text m)
  execute source body m := himp _ _ (h.execute source body m)
  value source e m := himp _ _ (h.value source e m)
  evaluate source text m := himp _ _ (h.evaluate source text m)
  evaluateText text m := himp _ _ (h.evaluateText text m)
  shown source e m := himp _ _ (h.shown source e m)
  written e m := himp _ _ (h.written e m)

section Does

variable {R : World → World → Prop} (refl : ∀ w, R w w) (trans : ∀ u v w, R u v → R v w → R u w)
include refl trans

omit refl in
theorem does_bind {q : Action (World × τ) ε α} {f : α → Action (World × τ) ε β}
    (hq : ∀ m, R m.1 (q m).2.1) (hf : ∀ a m, R m.1 (f a m).2.1) (m : World × τ) :
    R m.1 ((q >>= f) m).2.1 := by
  have hfirst := hq m
  rcases hqm : q m with ⟨x | a, n⟩
  · rw [hqm] at hfirst
    rwa [Action.bind_error hqm]
  · rw [hqm] at hfirst
    rw [Action.bind_ok hqm]
    exact trans _ _ _ hfirst (hf a n)

variable (h : E.Does R)
include h

theorem does_conclude (source : Text) (body : List κ) (m : World × τ) :
    R m.1 (E.conclude source body m).2.1 := by
  have hall : ∀ body (m : World × τ), R m.1 (E.executeAll source body m).2.1 := by
    rintro (_ | ⟨st, body⟩) m
    · exact refl m.1
    · exact h.execute source (st :: body) m
  have hpure : ∀ (v : Option ν) (m : World × τ), R m.1 ((pure v : Action (World × τ) ε _) m).2.1 :=
    fun v m => refl m.1
  unfold conclude
  cases body.getLast?.bind E.expression? with
  | some e =>
    refine does_bind trans (hall _) (fun _ => ?_) m
    rw [map_eq_pure_bind]
    exact does_bind trans (h.value source e) fun v => hpure (some v)
  | none => exact does_bind trans (hall body) (fun _ => hpure none) m

theorem does_conclusion (source text : Text) (m : World × τ) :
    R m.1 (E.conclusion source text m).2.1 :=
  does_bind trans (h.read source text) (fun body => does_conclude refl trans h source body) m

theorem does_statements (source text : Text) (m : World × τ) :
    R m.1 (E.statements source text m).2.1 :=
  does_bind trans (does_conclusion refl trans h source text) (fun _ m => refl m.1) m

end Does

end Engine

namespace Engine

variable {E : Engine τ κ χ ν ε}

/-! ### Looking up the last value -/

/-- To evaluate the name of the last value changes nothing. It is what the name is bound to, or an
exception says that there is nothing, which may be dropped. -/
structure LooksUp (E : Engine τ κ χ ν ε) : Prop where
  bound {m : World × τ} {v : ν} (h : E.last? m.2 = some v) : E.evaluateText lastName m = (.ok v, m)
  unbound {m : World × τ} (h : E.last? m.2 = none) :
    ∃ e, E.isDropped e ∧ E.evaluateText lastName m = (.error e, m)

/-- The last value of a session is what comes of evaluating its name on the quiet. -/
theorem LooksUp.tryEval (h : E.LooksUp) (m : World × τ) :
    E.tryEval lastName m = (.ok (E.session.lastValue m.2).1, m) := by
  show E.tryEval lastName m = (.ok ((E.last? m.2).map (E.typed m.2)), m)
  unfold Engine.tryEval
  cases hv : E.last? m.2 with
  | some v =>
    rw [h.bound (m := openCapture m) hv]
    rfl
  | none =>
    obtain ⟨e, he, heval⟩ := h.unbound (m := openCapture m) hv
    rw [heval]
    dsimp only
    rw [if_pos he]
    rfl

end Engine

/-! ### Reports -/

/-- The world after some writes, whatever else may have become of it. -/
def Wrote (v w : World) : Prop := ∃ ws, w.console = v.console.writeAll ws

theorem Wrote.refl (w : World) : Wrote w w := ⟨[], rfl⟩

theorem Wrote.trans {u v w : World} (h : Wrote u v) (h' : Wrote v w) : Wrote u w := by
  obtain ⟨xs, hx⟩ := h
  obtain ⟨ys, hy⟩ := h'
  exact ⟨xs ++ ys, by rw [hy, hx, Console.writeAll_append]⟩

theorem Wrote.of_eq {p : Action (World × τ) ε α} (hp : ∀ m, Wrote m.1 (p m).2.1) {m n : World × τ}
    {r : Except ε α} (h : p m = (r, n)) : Wrote m.1 n.1 := by
  have hm := hp m
  rwa [h] at hm

/-- A capture has been opened in the world `v`, and threads have written since. -/
def Captures (v w : World) (ws : List (Nat × Write)) : Prop :=
  w.console = v.console.after (.opened 0 :: ws.map Console.Event.ofWrite)

theorem captures_iff {v w : World} {ws : List (Nat × Write)} :
    Captures v w ws ↔ w.console = (v.console.openCapture 0).writeAll ws := by
  rw [Console.writeAll_eq_after]
  rfl

theorem Captures.wrote {v w : World} {τ : Type} {t : τ} {ws : List (Nat × Write)} (h : Captures v w ws)
    (shown : Text) :
    Captures v (Weave.wrote shown (w, t)).1 (ws ++ [(0, ⟨.error, shown⟩)]) := by
  rw [captures_iff] at h ⊢
  rw [Console.writeAll_append, ← h]
  rfl

theorem Captures.of_wrote {u v w : World} {ws : List (Nat × Write)} (h : Captures u v ws) (h' : Wrote v w) :
    ∃ ws', Captures u w (ws ++ ws') := by
  obtain ⟨ws', hw⟩ := h'
  rw [captures_iff] at h
  exact ⟨ws', captures_iff.mpr (by rw [hw, h, Console.writeAll_append])⟩

/-- The capture of a machine holds what its thread has written since. -/
theorem Captures.held {v : World} {m : World × τ} {ws : List (Nat × Write)} (h : Captures v m.1 ws) :
    Weave.held m = ⟨0, (Console.writesBy 0 ws).reverse⟩ := by
  rw [Weave.held, captures_iff.mp h, Console.closeCapture_writeAll]

theorem Captures.closed_wrote {v : World} {m : World × τ} {ws : List (Nat × Write)} (h : Captures v m.1 ws)
    (shown : Text) : Weave.closed (Weave.wrote shown m) = Weave.closed m := by
  have hwrote : Captures v (Weave.wrote shown m).1 (ws ++ [(0, ⟨.error, shown⟩)]) := h.wrote (t := m.2) shown
  have hconsole : (Weave.wrote shown m).1.console.closeCapture.2 = m.1.console.closeCapture.2 := by
    rw [captures_iff.mp hwrote, captures_iff.mp h, Console.closeCapture_writeAll,
      Console.closeCapture_writeAll]
    simp [Console.writesBeside]
  rw [Weave.closed, hconsole]
  rfl

theorem Captures.merged_wrote {v : World} {m : World × τ} {ws : List (Nat × Write)} (h : Captures v m.1 ws)
    (shown : Text) : (Weave.held (Weave.wrote shown m)).merged = (Weave.held m).merged ++ shown := by
  have hwrote : Captures v (Weave.wrote shown m).1 (ws ++ [(0, ⟨.error, shown⟩)]) := h.wrote (t := m.2) shown
  rw [hwrote.held, h.held]
  simp [Console.writesBy, Capture.merged, Capture.writes, Capture.textOf]

namespace Engine

/-- What the snippet `p` reports that is run on a machine, and the machine that is left. Its capture
is open until the snippet has ended and its failure has been shown and written, threads write
meanwhile, and then the capture is closed. Without a failure this reports what the capture holds of
the output. A failure is reported with all that the capture holds and the exception shown below it, if
and only if the exception can be shown and written. -/
inductive Reports (E : Engine τ κ χ ν ε) (text source : Text) (p : Action (World × τ) ε α) (m : World × τ) :
    Except Halt Text × World × τ → Prop where
  | output {a : α} {n : World × τ} {ws : List (Nat × Write)} (hp : p (openCapture m) = (.ok a, n))
      (hn : Captures m.1 n.1 ws) : Reports E text source p m (.ok ((held n).onStream .output), closed n)
  | failure {e : ε} {n k l : World × τ} {shown written : Text} {ws ws' : List (Nat × Write)}
      (hp : p (openCapture m) = (.error e, n)) (hf : E.isFailure e)
      (hs : E.shown source e n = (.ok shown, k)) (hk : Captures m.1 k.1 ws)
      (hw : E.written e (wrote shown k) = (.ok written, l)) (hl : Captures m.1 l.1 ws') :
      Reports E text source p m (.error (.failed text (E.exception e) ((held k).merged ++ shown)), closed l)
  | unshown {e x : ε} {n k : World × τ} {ws : List (Nat × Write)} (hp : p (openCapture m) = (.error e, n))
      (hf : E.isFailure e) (hs : E.shown source e n = (.error x, k)) (hk : Captures m.1 k.1 ws) :
      Reports E text source p m (.error (E.escape x), closed k)
  | unwritten {e x : ε} {n k l : World × τ} {shown : Text} {ws : List (Nat × Write)}
      (hp : p (openCapture m) = (.error e, n)) (hf : E.isFailure e)
      (hs : E.shown source e n = (.ok shown, k)) (hw : E.written e (wrote shown k) = (.error x, l))
      (hl : Captures m.1 l.1 ws) : Reports E text source p m (.error (E.escape x), closed l)
  | other {e : ε} {n : World × τ} {ws : List (Nat × Write)} (hp : p (openCapture m) = (.error e, n))
      (hf : ¬ E.isFailure e) (hn : Captures m.1 n.1 ws) :
      Reports E text source p m (.error (E.escape e), closed n)

variable {E : Engine τ κ χ ν ε} {text source : Text} {m : World × τ}

theorem reports_captured (hE : E.Does Wrote) {p : Action (World × τ) ε α} (hp : ∀ m, Wrote m.1 (p m).2.1)
    (text source : Text) (m : World × τ) :
    Reports E text source p m ((Prod.fst <$> E.captured text source p) m) := by
  have hopened : Captures m.1 (openCapture m).1 [] := captures_iff.mpr rfl
  rw [Action.map_apply]
  rcases hn : p (openCapture m) with ⟨e | a, n⟩
  · obtain ⟨ws, hn'⟩ := hopened.of_wrote (.of_eq hp hn)
    rw [captured_of_error hn]
    have hhalts := halts_halt E text source e n
    generalize E.halt text source e n = r at hhalts ⊢
    obtain ⟨x, k⟩ := r
    cases hhalts with
    | @reported shown written k l hf hs hw =>
      obtain ⟨ws', hk⟩ := hn'.of_wrote (.of_eq (hE.shown source e) hs)
      obtain ⟨ws'', hl⟩ := (hk.wrote (t := k.2) shown).of_wrote (.of_eq (hE.written e) hw)
      dsimp only
      rw [hk.merged_wrote shown]
      exact .failure hn hf hs hk hw hl
    | unshown hf hs =>
      obtain ⟨ws', hk⟩ := hn'.of_wrote (.of_eq (hE.shown source e) hs)
      exact .unshown hn hf hs hk
    | @unwritten shown x k l hf hs hw =>
      obtain ⟨ws', hk⟩ := hn'.of_wrote (.of_eq (hE.shown source e) hs)
      obtain ⟨ws'', hl⟩ := (hk.wrote (t := k.2) shown).of_wrote (.of_eq (hE.written e) hw)
      exact .unwritten hn hf hs hw hl
    | other hf => exact .other hn hf hn'
  · obtain ⟨ws, hn'⟩ := hopened.of_wrote (.of_eq hp hn)
    rw [captured_of_ok hn]
    exact .output hn hn'

end Engine

end Weave
