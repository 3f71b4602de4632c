import Weave.Evaluator.Threads
import Weave.Proofs.Evaluation.Listeners
import Weave.Proofs.World.Tree

/-!
# Stages of a call

What a call has still to do, up to the release of the lock, is an action on the world and the session. A
step of the call that has the lock takes off the front of it and leaves the end where it was; the others
meanwhile do nothing to the world that a session takes notice of. So the outcome of a call that has taken
the lock is that of the whole action. Once the lock has been released the outcome is settled, and at most
those who listen are told.
-/

set_option autoImplicit false

namespace Weave.Threads

open Evaluator (announce lookUp work workInDirectory)

variable {τ η α β : Type} {same : World → World → Prop} {session : Session τ}
  {listening : Listening η}

/-! ### Worlds that are the same to a session -/

section Alike

variable (same) in
/-- The session is one and the same, and its world is the same to it. -/
structure Alike (s t : World × τ) : Prop where
  world : same s.1 t.1
  session : t.2 = s.2

variable (same) in
/-- Two actions have ended with the same result. -/
structure AlikeEnd (p q : Except Halt α × World × τ) : Prop where
  result : q.1 = p.1
  state : Alike same p.2 q.2

variable (same) in
/-- An action that does the same in worlds that are the same to a session. -/
def Respects (p : Action (World × τ) Halt α) : Prop :=
  ∀ s t, Alike same s t → AlikeEnd same (p s) (p t)

theorem ofExcept_apply (r : Except Halt α) (s : World × τ) : Action.ofExcept r s = (r, s) := by
  cases r <;> rfl

theorem respects_ofExcept (r : Except Halt α) :
    Respects same (Action.ofExcept r : Action (World × τ) Halt α) := by
  intro s t h
  rw [ofExcept_apply, ofExcept_apply]
  exact ⟨rfl, h⟩

theorem respects_lookUp : Respects same (lookUp session) := by
  rintro ⟨v, i⟩ ⟨w, j⟩ ⟨hworld, rfl⟩
  exact ⟨rfl, hworld, rfl⟩

theorem Respects.bind {p : Action (World × τ) Halt α} {f : α → Action (World × τ) Halt β}
    (hp : Respects same p) (hf : ∀ a, Respects same (f a)) : Respects same (p >>= f) := by
  intro s t h
  obtain ⟨hresult, hstate⟩ := hp s t h
  rcases hps : p s with ⟨r, s'⟩
  rcases hpt : p t with ⟨r', t'⟩
  rw [hps, hpt] at hresult hstate
  obtain rfl : r' = r := hresult
  rw [Action.bind_apply, Action.bind_apply, hps, hpt]
  cases r' with
  | error e => exact ⟨rfl, hstate⟩
  | ok a => exact hf a s' t' hstate

theorem Respects.map {p : Action (World × τ) Halt α} (hp : Respects same p) (f : α → β) :
    Respects same (f <$> p) := by
  rw [map_eq_pure_bind]
  exact hp.bind fun a => respects_ofExcept (.ok (f a))

theorem Respects.andFinally {p : Action (World × τ) Halt α} {last : Action (World × τ) Halt Unit}
    (hp : Respects same p) (hlast : Respects same last) : Respects same (Action.andFinally p last) := by
  intro s t h
  obtain ⟨hresult, hstate⟩ := hp s t h
  obtain ⟨hresult', hstate'⟩ := hlast _ _ hstate
  rcases hls : last (p s).2 with ⟨r, s'⟩
  rcases hlt : last (p t).2 with ⟨r', t'⟩
  rw [hls, hlt] at hresult' hstate'
  obtain rfl : r' = r := hresult'
  simp only [Action.andFinally, hls, hlt]
  cases r' with
  | error e => exact ⟨rfl, hstate'⟩
  | ok u => exact ⟨hresult, hstate'⟩

end Alike

/-- Worlds that are the same to a session: the process is in the same place, and the session does the
same in them. Whoever listens leaves a world that is the same to the session. -/
structure Unnoticed (same : World → World → Prop) (session : Session τ) (listening : Listening η) :
    Prop where
  equivalence : Equivalence same
  here : ∀ {v w}, same v w → w.here = v.here
  searchPath : ∀ {v w}, same v w → w.searchPath = v.searchPath
  files : ∀ {v w}, same v w → w.files = v.files
  directories : ∀ {v w}, same v w → w.directories = v.directories
  moved : ∀ {v w}, same v w → ∀ here searchPath,
    same { v with here, searchPath } { w with here, searchPath }
  run : ∀ text file, Respects same (session.run text file)
  eval : ∀ text file, Respects same (session.eval text file)
  heard : ∀ h f w, same w (listening h f w).2

/-! ### What a call has still to do -/

/-- What of a workshop a session acts on. -/
def shared (s : Workshop τ η) : World × τ := (s.1, s.2.session)

def leaving (names previous : List Text) (p : Action (World × τ) Halt α) :
    Action (World × τ) Halt α :=
  Action.andFinally p (Action.mapError .raised (Action.onFirst (World.depart names previous)))

theorem inDirectory_apply (names : List Text) (p : Action (World × τ) Halt α) (s : World × τ) :
    Session.inDirectory names p s =
      match s.1.visit names with
      | .error e => (.error (.raised e), s)
      | .ok w => leaving names s.1.here p (w, s.2) := rfl

def Call.alone (session : Session τ) (c : Call) : Action (World × τ) Halt Outcome :=
  workInDirectory session c.text c.asExpression c.file

/-- What a call that is at some stage has still to do, up to the release of the lock. -/
def Call.rest (session : Session τ) (c : Call) : Stage → Action (World × τ) Halt Outcome
  | .takeLock | .locate => c.alone session
  | .enter names => Session.inDirectory names (work session c.text c.asExpression c.file)
  | .run names previous => leaving names previous (work session c.text c.asExpression c.file)
  | .recall output names previous =>
    leaving names previous
      ((fun itValue => { output := some output, itValue : Outcome }) <$> lookUp session)
  | .leave ended names previous => leaving names previous (Action.ofExcept ended)
  | .releaseLock ended => Action.ofExcept ended
  | .report _ | .finished _ => pure Outcome.empty

namespace Unnoticed

variable (hu : Unnoticed same session listening)
include hu

theorem alike_refl (s : World × τ) : Alike same s s := ⟨hu.equivalence.refl s.1, rfl⟩

theorem alike_symm {s t : World × τ} (h : Alike same s t) : Alike same t s :=
  ⟨hu.equivalence.symm h.world, h.session.symm⟩

theorem alike_trans {s t u : World × τ} (h : Alike same s t) (h' : Alike same t u) : Alike same s u :=
  ⟨hu.equivalence.trans h.world h'.world, h'.session.trans h.session⟩

theorem alikeEnd_trans {p q r : Except Halt α × World × τ} (h : AlikeEnd same p q)
    (h' : AlikeEnd same q r) : AlikeEnd same p r :=
  ⟨h'.result.trans h.result, hu.alike_trans h.state h'.state⟩

theorem respects_work (c : Call) : Respects same (work session c.text c.asExpression c.file) := by
  unfold work
  split
  · exact (hu.eval c.text c.file).bind fun a => respects_ofExcept (.ok _)
  · exact (hu.run c.text c.file).bind fun o =>
      respects_lookUp.bind fun v => respects_ofExcept (.ok _)

theorem sameTree {v w : World} (h : same v w) : World.SameTree v w :=
  ⟨hu.here h, hu.directories h, by rw [hu.files h]⟩

theorem directory {v w : World} (h : same v w) (file : Option Path) :
    Evaluator.directory file w = Evaluator.directory file v := by
  unfold Evaluator.directory
  cases file with
  | none => exact hu.here h
  | some p => exact congrArg List.dropLast ((hu.sameTree h).absolute p)

theorem enter {v w : World} (h : same v w) (names : List Text) :
    (∃ e, v.enter names = .error e ∧ w.enter names = .error e) ∨
      ∃ v' w', v.enter names = .ok v' ∧ w.enter names = .ok w' ∧ same v' w' := by
  rw [(hu.sameTree h).enter]
  cases hv : v.enter names with
  | error e => exact .inl ⟨e, rfl, rfl⟩
  | ok v' =>
    obtain ⟨place, rfl⟩ := World.enter_eq_ok hv
    have hw : { w with here := place } = { w with here := place, searchPath := v.searchPath } := by
      rw [← hu.searchPath h]
    refine .inr ⟨_, { w with here := place }, rfl, rfl, ?_⟩
    rw [hw]
    exact hu.moved h place v.searchPath

theorem searching {v w : World} (h : same v w) (f : List Text → List Text) :
    same { v with searchPath := f v.searchPath } { w with searchPath := f w.searchPath } := by
  have hmoved := hu.moved h v.here (f v.searchPath)
  have hw : { w with here := v.here, searchPath := f v.searchPath }
      = { w with searchPath := f w.searchPath } := by
    rw [← hu.here h, ← hu.searchPath h]
  rwa [hw] at hmoved

theorem visit {v w : World} (h : same v w) (names : List Text) :
    (∃ e, v.visit names = .error e ∧ w.visit names = .error e) ∨
      ∃ v' w', v.visit names = .ok v' ∧ w.visit names = .ok w' ∧ same v' w' := by
  simp only [World.visit]
  obtain ⟨e, hv, hw⟩ | ⟨v', w', hv, hw, hsame⟩ := hu.enter h names
  · rw [hv, hw]
    exact .inl ⟨e, rfl, rfl⟩
  · rw [hv, hw]
    exact .inr ⟨_, _, rfl, rfl, hu.searching hsame (World.nameOf names :: ·)⟩

theorem respects_depart (names previous : List Text) :
    Respects same (Action.mapError Halt.raised
      (Action.onFirst (World.depart names previous) : Action (World × τ) Exception Unit)) := by
  rintro ⟨v, i⟩ ⟨w, j⟩ ⟨hworld, rfl⟩
  have hpath := hu.searchPath hworld
  simp only [Action.mapError, Action.onFirst]
  by_cases hmem : World.nameOf names ∈ v.searchPath
  · have hmem' : World.nameOf names ∈ w.searchPath := hpath ▸ hmem
    have hstruck := hu.searching hworld (·.erase (World.nameOf names))
    rw [World.depart_of_mem hmem, World.depart_of_mem hmem']
    obtain ⟨e, hv, hw⟩ | ⟨v', w', hv, hw, hsame⟩ := hu.enter hstruck previous
    · rw [hv, hw]
      exact ⟨rfl, hstruck, rfl⟩
    · rw [hv, hw]
      exact ⟨rfl, hsame, rfl⟩
  · have hmem' : World.nameOf names ∉ w.searchPath := hpath ▸ hmem
    rw [World.depart_of_not_mem hmem, World.depart_of_not_mem hmem']
    exact ⟨rfl, hworld, rfl⟩

theorem respects_leaving {p : Action (World × τ) Halt α} (hp : Respects same p)
    (names previous : List Text) : Respects same (leaving names previous p) :=
  hp.andFinally (hu.respects_depart names previous)

theorem respects_inDirectory {p : Action (World × τ) Halt α} (hp : Respects same p)
    (names : List Text) : Respects same (Session.inDirectory names p) := by
  intro s t h
  rw [inDirectory_apply, inDirectory_apply]
  obtain ⟨e, hv, hw⟩ | ⟨v, w, hv, hw, hsame⟩ := hu.visit h.world names
  · rw [hv, hw]
    exact ⟨rfl, h⟩
  · rw [hv, hw, hu.here h.world]
    exact hu.respects_leaving hp names s.1.here (v, s.2) (w, t.2) ⟨hsame, h.session⟩

theorem respects_alone (c : Call) : Respects same (c.alone session) := by
  intro s t h
  have hdirectory := hu.directory h.world c.file
  have hwork := hu.respects_inDirectory (hu.respects_work c) (Evaluator.directory c.file s.1) s t h
  simpa only [Call.alone, workInDirectory, hdirectory] using hwork

theorem respects_rest (c : Call) (stage : Stage) : Respects same (c.rest session stage) := by
  cases stage with
  | takeLock => exact hu.respects_alone c
  | locate => exact hu.respects_alone c
  | enter names => exact hu.respects_inDirectory (hu.respects_work c) names
  | run names previous => exact hu.respects_leaving (hu.respects_work c) names previous
  | «recall» output names previous => exact hu.respects_leaving (respects_lookUp.map _) names previous
  | leave ended names previous => exact hu.respects_leaving (respects_ofExcept ended) names previous
  | releaseLock ended => exact respects_ofExcept ended
  | report f => exact respects_ofExcept (.ok _)
  | finished r => exact respects_ofExcept (.ok _)

end Unnoticed

/-! ### Steps of a call -/

variable {c : Call} {stage : Stage} {s : Workshop τ η}

/-- How an action in a directory ends depends on how the action itself does. -/
theorem leaving_congr {names previous : List Text} {p : Action (World × τ) Halt α}
    {q : Action (World × τ) Halt α} {t u : World × τ} (h : p t = q u) :
    leaving names previous p t = leaving names previous q u := by
  simp only [leaving, Action.andFinally, h]

theorem using_apply {p : Action (World × τ) Halt α} {next : Except Halt α → Stage} {r : Except Halt α}
    {w : World} {t : τ} (h : p (shared s) = (r, w, t)) :
    using_ p next s = (next r, w, { s.2 with session := t }) := by
  unfold shared at h
  simp only [using_, Evaluator.inSession, h]

/-- What has been run goes on to its last value, or to the way back. -/
theorem runStep_stage (session : Session τ) (c : Call) (names previous : List Text)
    (s : Workshop τ η) :
    (∃ ended, (runStep session c names previous s).1 = .leave ended names previous) ∨
      ∃ output, (runStep session c names previous s).1 = .recall output names previous := by
  unfold runStep
  split
  · exact .inl ⟨_, rfl⟩
  · rcases h : session.run c.text c.file (shared s) with ⟨_ | output, w, t⟩
    · rw [using_apply h]
      exact .inl ⟨_, rfl⟩
    · rw [using_apply h]
      exact .inr ⟨output, rfl⟩

theorem rest_runStep (names previous : List Text) :
    (runStep session c names previous s).1.holdsLock ∧
      c.rest session (runStep session c names previous s).1 (shared (runStep session c names previous s).2)
        = leaving names previous (work session c.text c.asExpression c.file) (shared s) := by
  unfold runStep work
  split
  · rcases h : session.eval c.text c.file (shared s) with ⟨r, w, t⟩
    rw [using_apply h]
    refine ⟨rfl, leaving_congr ?_⟩
    rw [Action.bind_apply, h]
    cases r <;> rfl
  · rcases h : session.run c.text c.file (shared s) with ⟨_ | output, w, t⟩
    all_goals
      rw [using_apply h]
      refine ⟨rfl, leaving_congr ?_⟩
      rw [Action.bind_apply, h]
      rfl

variable [DecidableEq η]

/-- A call that has the lock goes on with what it has still to do, until only the lock is left to be
released. -/
theorem rest_act (session : Session τ) (listening : Listening η) (c : Call) (s : Workshop τ η)
    (hlock : stage.holdsLock) (hlast : ∀ ended, stage ≠ .releaseLock ended) :
    (act session listening c stage s).1.holdsLock ∧
      c.rest session (act session listening c stage s).1 (shared (act session listening c stage s).2)
        = c.rest session stage (shared s) := by
  cases stage with
  | takeLock => simp [Stage.holdsLock] at hlock
  | report f => simp [Stage.holdsLock] at hlock
  | finished r => simp [Stage.holdsLock] at hlock
  | releaseLock ended => exact absurd rfl (hlast ended)
  | locate => exact ⟨rfl, rfl⟩
  | enter names =>
    simp only [act, Call.rest, Session.inDirectory, shared]
    cases s.1.visit names with
    | error e => exact ⟨rfl, rfl⟩
    | ok w => exact ⟨rfl, rfl⟩
  | run names previous => exact rest_runStep names previous
  | «recall» output names previous => exact ⟨rfl, leaving_congr rfl⟩
  | leave ended names previous =>
    simp only [act, Call.rest, leaving, Action.andFinally, Action.mapError, Action.onFirst,
      ofExcept_apply, shared]
    rcases s.1.depart names previous with ⟨e | _, w⟩
    · exact ⟨rfl, rfl⟩
    · exact ⟨rfl, ofExcept_apply ended _⟩

/-! ### After the lock -/

/-- What a call returns, or raises, once those who listen have been told about its failure. -/
def answer (listening : Listening η) (f : Failure) (failed : Event η)
    (t : World × List (η × Failure)) : Except Exception Outcome :=
  (failed.trigger (Evaluator.tell listening) f t).1.map fun _ => Outcome.empty

/-- The stages of a call that has released the lock with this outcome. -/
inductive Follows (listening : Listening η) (c : Call) (ended : Except Halt Outcome) : Stage → Prop
  | released : Follows listening c ended (Stage.ofEnd c ended)
  | told {f : Failure} (hf : Stage.ofEnd c ended = .report f) (failed : Event η)
      (t : World × List (η × Failure)) : Follows listening c ended (.finished (answer listening f failed t))

variable {ended : Except Halt Outcome}

theorem follows_iff : Follows listening c ended stage ↔ stage = Stage.ofEnd c ended ∨
    ∃ f failed t, Stage.ofEnd c ended = .report f ∧ stage = .finished (answer listening f failed t) := by
  constructor
  · rintro (_ | ⟨hf, failed, t⟩)
    · exact .inl rfl
    · exact .inr ⟨_, failed, t, hf, rfl⟩
  · rintro (rfl | ⟨f, failed, t, hf, rfl⟩)
    · exact .released
    · exact .told hf failed t

theorem ofEnd_holdsLock (c : Call) (ended : Except Halt Outcome) :
    (Stage.ofEnd c ended).holdsLock = false ∧ Stage.ofEnd c ended ≠ .takeLock := by
  rcases ended with (⟨_, _, _⟩ | _) | _ <;> exact ⟨rfl, Stage.noConfusion⟩

theorem act_report (f : Failure) (s : Workshop τ η) :
    act session listening c (.report f) s =
      (.finished (answer listening f s.2.failed (s.1, s.2.told)), (announce listening f s).2) := by
  have hresult : (announce listening f s).1.map (fun _ => Outcome.empty)
    = answer listening f s.2.failed (s.1, s.2.told) := rfl
  rw [← hresult, act]
  rcases announce listening f s with ⟨_ | _, t⟩ <;> rfl

/-- Who is past the lock stays so. -/
theorem act_not_holdsLock (session : Session τ) (listening : Listening η) (c : Call) (s : Workshop τ η)
    (hlock : stage.holdsLock = false) (hstage : stage ≠ .takeLock) :
    (act session listening c stage s).1.holdsLock = false := by
  cases stage with
  | takeLock => exact absurd rfl hstage
  | report f =>
    rw [act_report]
    rfl
  | finished r => rfl
  | _ => simp [Stage.holdsLock] at hlock

theorem Follows.act (h : Follows listening c ended stage) (session : Session τ) (s : Workshop τ η) :
    Follows listening c ended (act session listening c stage s).1 := by
  cases h with
  | told hf failed t => exact .told hf failed t
  | released =>
    rcases ended with (⟨text, cause, errorText⟩ | e) | o
    · rw [Stage.ofEnd, act_report]
      exact .told rfl _ _
    · exact .released
    · exact .released

/-- What everyone keeps who is told about a failure is kept by its announcement. -/
theorem announce_keeps {P : World × List (η × Failure) → Prop} {f : Failure}
    (h : ∀ x t, P t → P (Evaluator.tell listening x f t).2) (s : Workshop τ η)
    (hs : P (s.1, s.2.told)) :
    P ((announce listening f s).2.1, (announce listening f s).2.2.told) := by
  have htell : ∀ x (t u : World × List (η × Failure)), t = u ∧ P t →
      (Evaluator.tell listening x f t).1 = (Evaluator.tell listening x f u).1 ∧
        (Evaluator.tell listening x f t).2 = (Evaluator.tell listening x f u).2 ∧
          P (Evaluator.tell listening x f t).2 := by
    rintro x t _ ⟨rfl, ht⟩
    exact ⟨rfl, rfl, h x t ht⟩
  exact (Event.callEach_congr (fun t u => t = u ∧ P t) htell s.2.failed.handlers s.2.failed
    ⟨rfl, hs⟩).2.2.2

namespace Unnoticed

variable (hu : Unnoticed same session listening)
include hu

theorem alike_announce (f : Failure) (s : Workshop τ η) :
    Alike same (shared s) (shared (announce listening f s).2) :=
  ⟨announce_keeps (P := fun t => same s.1 t.1)
    (fun x t h => hu.equivalence.trans h (hu.heard x f t.1)) s (hu.equivalence.refl s.1), rfl⟩

/-- Whoever has not got the lock does nothing that a session takes notice of. -/
theorem alike_act (hlock : stage.holdsLock = false) (s : Workshop τ η) :
    Alike same (shared s) (shared (act session listening c stage s).2) := by
  cases stage with
  | takeLock => exact hu.alike_refl _
  | finished r => exact hu.alike_refl _
  | report f =>
    rw [act_report]
    exact hu.alike_announce f s
  | _ => simp [Stage.holdsLock] at hlock

end Unnoticed

/-! ### Calls one at a time -/

/-- A call that nobody else's gets in between of. -/
def Call.evaluate (session : Session τ) (listening : Listening η) (c : Call) :
    Action (Workshop τ η) Exception Outcome :=
  Evaluator.evaluate session listening c.text c.asExpression c.file

/-- Such a call ends as one that has released the lock goes on. -/
theorem act_alone (c : Call) (s : Workshop τ η) :
    act session listening c (Stage.ofEnd c (c.alone session (shared s)).1)
        (Evaluator.inSession (c.alone session) s).2 =
      (.finished (c.evaluate session listening s).1, (c.evaluate session listening s).2) := by
  have hresult : (c.alone session (shared s)).1 = (Evaluator.inSession (c.alone session) s).1 := rfl
  rw [hresult]
  unfold Call.evaluate Evaluator.evaluate
  rw [Action.bind_apply]
  simp only [Action.attempt, Call.alone]
  rcases Evaluator.inSession (workInDirectory session c.text c.asExpression c.file) s
    with ⟨(⟨text, cause, errorText⟩ | e) | o, t⟩
  · simp only [Stage.ofEnd, act, Action.bind_apply]
    rcases announce listening ⟨c.text, c.asExpression, c.file, cause, errorText⟩ t with ⟨_ | _, u⟩
    · rfl
    · rfl
  · rfl
  · rfl

theorem follows_evaluate (c : Call) (s : Workshop τ η) :
    Follows listening c (c.alone session (shared s)).1 (.finished (c.evaluate session listening s).1) := by
  have h : Follows listening c (c.alone session (shared s)).1 _ :=
    Follows.act .released session (Evaluator.inSession (c.alone session) s).2
  rwa [act_alone] at h

theorem Unnoticed.alike_evaluate (hu : Unnoticed same session listening) (c : Call)
    (s : Workshop τ η) :
    Alike same (c.alone session (shared s)).2 (shared (c.evaluate session listening s).2) := by
  have h := hu.alike_act (ofEnd_holdsLock c (c.alone session (shared s)).1).1 (c := c)
    (Evaluator.inSession (c.alone session) s).2
  rwa [act_alone] at h

end Weave.Threads
