import Weave.Proofs.Build.Underway
import Weave.Proofs.Program.Snippets

/-!
# What a build writes

A build that fails leaves the output and its directory alone, unless it is the last write that fails,
and one that returns a text has written it. Failed snippets forbid the document only where the
configuration says so. Where it does not, something else has gone wrong when there is no document:
among other things that running a snippet has ended with what is not the snippet's failure, as does a
snippet that fails with an exception too large to be written.
-/

set_option autoImplicit false

namespace Weave

variable {τ : Type}

namespace Job

/-- A build has done to the disk what snippets and listeners do, and nothing else; or the directory of
the output could not be made, and then at most some of those in front of it have been. -/
inductive Spared (K : Disk → Disk → Prop) (j : Job) (w u : World) : Prop
  | kept (h : K w.disk u.disk)
  | noDirectory {p : Path} {v : World} (hp : j.output = some p) (hv : K w.disk v.disk)
      (hu : World.Made v u) (hbefore : v.Absent p) (hafter : u.Absent p)

/-- In the world that a build has left, a text cannot be written to its output, which is its fault. -/
def Unwritten (j : Job) (f : BuildFault) (u : World) : Prop :=
  ∃ p t e, j.output = some p ∧ u.write p t = .error e ∧ f = .raised e

/-- What, other than failed snippets, keeps a document from being written, where these are the
attempts and the world that is left. -/
inductive Hindered (listening : Listening Listener) (j : Job) (s : Workshop τ Listener)
    (log : List Attempt) (u : World) : BuildFault → Prop
  | unreadable {e : Exception} (h : s.1.read j.input = .error e) :
      Hindered listening j s log u (.raised e)
  | refused {t : Text} {f : Document.Fault} (ht : s.1.read j.input = .ok t)
      (hf : j.form.sections t = .error f) : Hindered listening j s log u (.document f)
  | stopped {ss : List Section} {w : World} {f : RenderingFault EvaluationFault}
      (hread : j.read s.1 = (.ok ss, w)) (hf : StopsFor listening s.2.presenter log ss f) :
      Hindered listening j s log u (.rendering f)
  | unfit {bs : List Block} {f : OutputFault} (hf : j.document bs u = .error f) :
      Hindered listening j s log u (.output f)
  | noDirectory {p : Path} {e : Exception} {v : World} (hp : j.output = some p)
      (he : World.makeDirectories p.parent v = (.error e, u)) : Hindered listening j s log u (.raised e)
  | unwritten {f : BuildFault} (h : j.Unwritten f u) : Hindered listening j s log u f

variable {session : Session τ} {listening : Listening Listener} {j : Job} {K : Disk → Disk → Prop}
  {I : Event Listener → Prop} {s u : Workshop τ Listener} {f : BuildFault} {t : Text}

theorem failures_ne_nil_iff : j.failures session listening s ≠ [] ↔
    ∃ a ∈ j.attempts session listening s, a.failure?.isSome := by
  rw [failures, Ne, List.filterMap_eq_nil_iff]
  simp [Option.isSome_iff_ne_none]

/-! ### How a build can end -/

theorem Builds.spared (hK : Evaluator.Spares listening K)
    (hlog : Sparing K (j.attempts session listening s)) (hp : ∀ p, j.output = some p → p.IsProper)
    (h : Builds K I session listening j s (.error f, u)) :
    Spared K j s.1 u.1 ∨ j.Unwritten f u.1 := by
  generalize hx : ((.error f, u) : Except BuildFault Text × Workshop τ Listener) = x at h
  cases h with
  | unreadable | refused =>
    cases hx
    exact .inl (.kept (hK.refl _))
  | stopped _ _ _ hu | failed _ _ hu | unfit _ _ _ hu =>
    cases hx
    exact .inl (.kept (hu.disk hlog))
  | @ended _ _ m _ _ _ hu hv =>
    cases hv with
    | unasked | written => cases hx
    | @noDirectory p e v hout _ hv hd =>
      cases hx
      have hproper := hp p hout
      have hdisk : K s.1.disk (m.1.print ("Writing ".toList ++ p.text)).disk := hu.disk hlog
      obtain ⟨hbefore, hafter⟩ := hd hproper
      have hbefore := World.absent_of_not_hasDirectory hproper hbefore
      have hafter := World.absent_of_not_hasDirectory hproper hafter
      exact .inl (.noDirectory hout hdisk hv hbefore hafter)
    | unwritten hout _ he =>
      cases hx
      exact .inr ⟨_, _, _, hout, he, rfl⟩

theorem Builds.written (h : Builds K I session listening j s (.ok t, u)) {p : Path}
    (hp : j.output = some p) : ∃ names, u.1.locate p = .ok names ∧ u.1.file? names = some t := by
  generalize hx : ((.ok t, u) : Except BuildFault Text × Workshop τ Listener) = x at h
  cases h with
  | unreadable | refused | stopped | failed | unfit => cases hx
  | ended _ _ _ hv =>
    cases hv with
    | noDirectory | unwritten => cases hx
    | unasked hout =>
      rw [hout] at hp
      contradiction
    | written hout _ hwrite =>
      cases hx
      obtain rfl := Option.some.inj (hout.symm.trans hp)
      exact World.file?_of_write hwrite

theorem Builds.failed_iff {r : Except BuildFault Text} (h : Builds K I session listening j s (r, u)) :
    (∃ file fs, r = .error (.failedSnippets file fs)) ↔
      j.Passes session listening s ∧ j.Fails session listening s := by
  generalize hx : (r, u) = x at h
  cases h with
  | failed hpasses hfails =>
    cases hx
    exact ⟨fun _ => ⟨hpasses, hfails⟩, fun _ => ⟨_, _, rfl⟩⟩
  | unreadable _ hpasses | refused _ _ hpasses | stopped hpasses =>
    cases hx
    exact ⟨by simp, fun h => absurd h.1 hpasses⟩
  | unfit _ hfails =>
    cases hx
    exact ⟨by simp, fun h => absurd h.2 hfails⟩
  | ended _ hfails _ hv =>
    cases hx
    refine ⟨?_, fun h => absurd h.2 hfails⟩
    cases hv <;> simp [Except.map]

theorem Builds.hindered (h : Builds K I session listening j s (.error f, u)) :
    Hindered listening j s (j.attempts session listening s) u.1 f ∨ j.config.failOnError = true ∧
      f = .failedSnippets j.input (j.failures session listening s) := by
  generalize hx : ((.error f, u) : Except BuildFault Text × Workshop τ Listener) = x at h
  cases h with
  | unreadable h =>
    cases hx
    exact .inl (.unreadable h)
  | refused ht hf =>
    cases hx
    exact .inl (.refused ht hf)
  | stopped _ hread hf =>
    cases hx
    exact .inl (.stopped hread hf)
  | failed _ hfails =>
    cases hx
    exact .inr ⟨hfails.1, rfl⟩
  | unfit _ _ hf =>
    cases hx
    exact .inl (.unfit hf)
  | ended _ _ _ hv =>
    cases hv with
    | unasked | written => cases hx
    | noDirectory hout he =>
      cases hx
      exact .inl (.noDirectory hout he)
    | unwritten hout _ he =>
      cases hx
      exact .inl (.unwritten ⟨_, _, _, hout, he, rfl⟩)

/-! ### What a build leaves -/

/-- Those who are told neither end the subscription of the listener that collects nor add to it. -/
def LeaveCollecting (listening : Listening Listener) : Prop :=
  ∀ h f w (e : Event Listener),
    (e.react (listening h f w).1).2.handlers.count .collect = e.handlers.count .collect

/-- A build that fails leaves the output and its directory as they were, if it was not the last write
that failed; one that returns a text has written it. Where failures are not tolerated, the document
fails for its snippets exactly if reading and rendering come to its end and an attempt has failed.
Whenever a build fails otherwise, and so always where failures are tolerated, something other than
failed snippets has stood in its way. -/
theorem buildWith_writes (session : Session τ) (hK : Evaluator.Spares listening K)
    (hl : LeaveCollecting listening) (j : Job) (s : Workshop τ Listener)
    (hs : .collect ∉ s.2.failed.handlers) (hp : ∀ p, j.output = some p → p.IsProper)
    (hlog : Sparing K (j.attempts session listening s)) :
    (∀ f u, j.buildWith session listening s = (.error f, u) →
        Spared K j s.1 u.1 ∨ j.Unwritten f u.1) ∧
      (∀ t u p, j.buildWith session listening s = (.ok t, u) → j.output = some p →
        ∃ names, u.1.locate p = .ok names ∧ u.1.file? names = some t) ∧
      (j.config.failOnError = true →
        ((∃ file fs, (j.buildWith session listening s).1 = .error (.failedSnippets file fs)) ↔
          j.Passes session listening s ∧
            ∃ a ∈ j.attempts session listening s, a.failure?.isSome)) ∧
      (∀ f u, j.buildWith session listening s = (.error f, u) →
        Hindered listening j s (j.attempts session listening s) u.1 f ∨
          j.config.failOnError = true ∧
            f = .failedSnippets j.input (j.failures session listening s)) := by
  have hcount := count_collect_subscribe hs
  have hbuilds := builds_buildWith session hK (I := fun e => e.handlers.count .collect = 1)
    (fun h f w e he => (hl h f w e).trans he) (fun _ => id) j hcount
  refine ⟨?_, ?_, ?_, ?_⟩
  · intro f u hx
    exact (hx ▸ hbuilds).spared hK hlog hp
  · intro t u p hx hout
    exact (hx ▸ hbuilds).written hout
  · intro hstrict
    have hfailed := hbuilds.failed_iff
    rw [Fails, failures_ne_nil_iff] at hfailed
    exact hfailed.trans ⟨fun h => ⟨h.1, h.2.2⟩, fun h => ⟨h.1, hstrict, h.2⟩⟩
  · intro f u hx
    exact (hx ▸ hbuilds).hindered

/-! ### A failure that cannot be written -/

/-- What no snippet of a session does to the disk is not done by the attempts of a build either. -/
theorem sparing_attempts (hrefl : ∀ d, K d d)
    (hrun : ∀ text file s, K s.1.disk (session.run text file s).2.1.disk)
    (heval : ∀ text file s, K s.1.disk (session.eval text file s).2.1.disk) (j : Job)
    (s : Workshop τ Listener) : Sparing K (j.attempts session listening s) := by
  intro a ha
  unfold attempts at ha
  split at ha
  · obtain ⟨q, t, rfl⟩ := Renderer.exists_of_mem_notes ha
    exact Evaluator.attempt_keeps hrefl hrun heval q t
  · contradiction

theorem disk_closed {α : Type} {p : Program.Run α} (hp : ∀ m, World.Worked m.1 (p m).2.1)
    {w : World} {i : Program.Interpreter} {n : Program.Machine} {r : Except Program.Stop α}
    (h : p (openCapture (w, i)) = (r, n)) : w.disk = (closed n).1.disk := by
  have hworked := hp (openCapture (w, i))
  rw [h] at hworked
  exact congrArg₂ Disk.mk hworked.files.symm hworked.directories.symm

/-- Programs neither write files nor make directories. -/
theorem sparing_program (listening : Listening Listener) (j : Job) (s : Workshop Program.Interpreter Listener) :
    Sparing Eq (j.attempts Program.session listening s) := by
  refine sparing_attempts (fun _ => rfl) ?_ ?_ j s
  · intro text file m
    rw [show Program.session.run text file m = _ from Program.run_apply text file m]
    split
    all_goals
      next h => exact disk_closed (Program.tame_statements _ text).worked h
  · intro text file m
    rw [show Program.session.eval text file m = _ from Program.eval_apply text file m]
    split
    all_goals
      next h => exact disk_closed (Program.engine_worked.evaluate _ _) h

def messageOf : Except BuildFault Text → Text
  | .ok _ => []
  | .error f => f.message

def hugeFailure : Job :=
  { input := Path.ofText "doc.py".toList, output := some (Path.ofText "out.html".toList) }

def hugeFailureAlone : Workshop Program.Interpreter Listener :=
  ({ files := [(["doc.py".toList], "raise ValueError(10 ** 5000)\n".toList)] }, evaluator {} {})

/-- The script is not built although its configuration tolerates failures, and nothing is written. -/
theorem buildWith_writes_hugeFailure :
    Evaluator.Spares Listener.alone Eq ∧ LeaveCollecting Listener.alone ∧
      Listener.collect ∉ hugeFailureAlone.2.failed.handlers ∧
      (∀ p, hugeFailure.output = some p → p.IsProper) ∧
      Sparing Eq (hugeFailure.attempts Program.session Listener.alone hugeFailureAlone) ∧
      hugeFailure.config.failOnError = false ∧
      ∃ f u, hugeFailure.buildWith Program.session Listener.alone hugeFailureAlone = (.error f, u) ∧
        f.message = Exception.tooManyDigits.message ∧
        (Spared Eq hugeFailure hugeFailureAlone.1 u.1 ∨ hugeFailure.Unwritten f u.1) ∧
        Hindered Listener.alone hugeFailure hugeFailureAlone
          (hugeFailure.attempts Program.session Listener.alone hugeFailureAlone) u.1 f := by
  have hK : Evaluator.Spares Listener.alone Eq := by
    refine ⟨fun _ => rfl, fun _ _ _ => Eq.trans, ?_⟩
    intro h f w
    cases h <;> rfl
  have hl : LeaveCollecting Listener.alone := by
    intro h f w e
    cases h <;> rfl
  have hs : Listener.collect ∉ hugeFailureAlone.2.failed.handlers := by decide
  have hp : ∀ p, hugeFailure.output = some p → p.IsProper := by
    rintro p h
    obtain rfl := Option.some.inj h
    unfold Path.IsProper
    decide
  have hlog := sparing_program Listener.alone hugeFailure hugeFailureAlone
  have hmessage : messageOf (hugeFailure.buildWith Program.session Listener.alone hugeFailureAlone).1 =
      Exception.tooManyDigits.message := by decide +kernel
  obtain ⟨hspared, -, -, hhindered⟩ :=
    buildWith_writes Program.session hK hl hugeFailure hugeFailureAlone hs hp hlog
  refine ⟨hK, hl, hs, hp, hlog, rfl, ?_⟩
  rcases hbuild : hugeFailure.buildWith Program.session Listener.alone hugeFailureAlone with ⟨f | t, u⟩
  · rw [hbuild] at hmessage
    have hhindered := (hhindered f u hbuild).resolve_right (by simp [hugeFailure])
    exact ⟨f, u, rfl, hmessage, hspared f u hbuild, hhindered⟩
  · rw [hbuild] at hmessage
    have hne : ([] : Text) ≠ Exception.tooManyDigits.message := by decide
    exact absurd hmessage hne

end Job

end Weave
