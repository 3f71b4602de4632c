import Weave.Proofs.Evaluation.Listeners
import Weave.Proofs.Rendering.Record
import Weave.Proofs.Session.Directories
import Weave.Proofs.World.Disk

/-!
# Attempts to run snippets

An evaluator that is asked for a snippet attempts to run it. If the snippet fails, all who listen for
failures are told, each once for each subscription, unless one of them raises; the evaluator then answers
with an outcome that is empty.
-/

set_option autoImplicit false

namespace Weave

variable {η ε α σ τ : Type}

/-- A request, how running the snippet has ended, and the disk before and after. -/
structure Attempt where
  request : Request
  result : Except Halt Outcome
  before : Disk
  after : Disk

namespace Attempt

/-- What is announced of an attempt: a snippet that failed. -/
def failure? (a : Attempt) : Option Failure :=
  match a.result with
  | .error (.failed _ cause errorText) =>
    some ⟨a.request.text, a.request.asExpression, a.request.file, cause, errorText⟩
  | _ => none

theorem failure?_of_ok {a : Attempt} {o : Outcome} (h : a.result = .ok o) : a.failure? = none := by
  rw [failure?, h]

end Attempt

/-! ### Triggering an event -/

/-- A reaction that ends with this exception, to some event. -/
def Reaction.Raises [DecidableEq η] (r : Reaction η ε) (x : ε) : Prop :=
  ∃ e : Event η, (e.react r).1 = .error x

namespace Event

variable [DecidableEq η] {call : η → α → σ → Reaction η ε × σ} {a : α}

theorem callEach_keeps {P : Event η → σ → Prop}
    (h : ∀ x e s, P e s → P (e.react (call x a s).1).2 (call x a s).2) (hs : List η) (e : Event η)
    (s : σ) (hP : P e s) : P (callEach call a hs e s).2.1 (callEach call a hs e s).2.2 := by
  induction hs generalizing e s with
  | nil => exact hP
  | cons x hs ih =>
    have hx := h x e s hP
    simp only [callEach]
    generalize e.react (call x a s).1 = r at hx ⊢
    obtain ⟨y | _, e'⟩ := r
    · exact hx
    · exact ih e' _ hx

/-- Unless a handler raises, all are called. -/
theorem callEach_ok {hs : List η} {e e' : Event η} {s s' : σ}
    (h : callEach call a hs e s = (.ok (), e', s')) : s' = hs.foldl (fun s x => (call x a s).2) s := by
  induction hs generalizing e s with
  | nil =>
    obtain ⟨-, rfl⟩ : e = e' ∧ s = s' := by simpa [callEach] using h
    rfl
  | cons x hs ih =>
    simp only [callEach] at h
    rcases hr : e.react (call x a s).1 with ⟨y | _, e''⟩
    · rw [hr] at h
      simp at h
    · rw [hr] at h
      exact ih h

theorem callEach_error {hs : List η} {e e' : Event η} {s s' : σ} {y : ε}
    (h : callEach call a hs e s = (.error y, e', s')) : ∃ x s, (call x a s).1.Raises y := by
  induction hs generalizing e s with
  | nil => simp [callEach] at h
  | cons x hs ih =>
    simp only [callEach] at h
    rcases hr : e.react (call x a s).1 with ⟨z | _, e''⟩
    · rw [hr] at h
      obtain ⟨rfl, -⟩ : z = y ∧ _ := by simpa using h
      exact ⟨x, s, e, by rw [hr]⟩
    · rw [hr] at h
      exact ih h

end Event

namespace Evaluator

/-- The workshop when an attempt has ended and nobody has been told yet. -/
def attempted (session : Session τ) (q : Request) (s : Workshop τ η) : Workshop τ η :=
  (inSession (workInDirectory session q.text q.asExpression q.file) s).2

def attempt (session : Session τ) (q : Request) (s : Workshop τ η) : Attempt where
  request := q
  result := (inSession (workInDirectory session q.text q.asExpression q.file) s).1
  before := s.1.disk
  after := (attempted session q s).1.disk

theorem attempted_told (session : Session τ) (q : Request) (s : Workshop τ η) :
    (attempted session q s).2.told = s.2.told := rfl

/-! ### What happens to the disk -/

section

variable {session : Session τ} {K : Disk → Disk → Prop} (refl : ∀ d, K d d)
  (run : ∀ text file s, K s.1.disk (session.run text file s).2.1.disk)
  (eval : ∀ text file s, K s.1.disk (session.eval text file s).2.1.disk)
include run eval

theorem work_keeps (text : Text) (asExpression : Bool) (file : Option Path) (s : World × τ) :
    K s.1.disk (work session text asExpression file s).2.1.disk := by
  unfold work
  split
  · have heval := eval text file s
    rw [Action.bind_apply]
    generalize session.eval text file s = x at heval ⊢
    obtain ⟨e | ⟨output, v⟩, t⟩ := x <;> exact heval
  · have hrun := run text file s
    rw [Action.bind_apply]
    generalize session.run text file s = x at hrun ⊢
    obtain ⟨e | output, t⟩ := x <;> exact hrun

include refl

theorem workInDirectory_keeps (text : Text) (asExpression : Bool) (file : Option Path)
    (s : World × τ) : K s.1.disk (workInDirectory session text asExpression file s).2.1.disk := by
  unfold workInDirectory
  cases hvisit : s.1.visit (directory file s.1) with
  | error e =>
    simp only [Session.inDirectory, hvisit]
    exact refl _
  | ok w =>
    have hwork := work_keeps run eval text asExpression file (w, s.2)
    rcases hbody : work session text asExpression file (w, s.2) with ⟨r, v, t⟩
    rw [hbody, World.disk_of_visit hvisit] at hwork
    have hdepart := World.disk_depart v (directory file s.1) s.1.here
    rw [Session.inDirectory_of_visit hvisit hbody]
    generalize v.depart (directory file s.1) s.1.here = x at hdepart ⊢
    rw [← hdepart] at hwork
    obtain ⟨e | _, x⟩ := x <;> exact hwork

/-- Going to a document's directory and back does nothing to the disk, so an attempt does what its
snippet does. -/
theorem attempt_keeps (q : Request) (s : Workshop τ η) :
    K (attempt session q s).before (attempt session q s).after :=
  workInDirectory_keeps refl run eval q.text q.asExpression q.file (s.1, s.2.session)

end

variable [DecidableEq η] {session : Session τ} {listening : Listening η} {f : Failure}
  {s u : Workshop τ η}

/-! ### Announcing a failure -/

/-- Those who are told leave an event as `I` says. -/
def Leaves (listening : Listening η) (I : Event η → Prop) : Prop :=
  ∀ h f w (e : Event η), I e → I (e.react (listening h f w).1).2

theorem announce_leaves {I : Event η → Prop} (hl : Leaves listening I) (f : Failure)
    (s : Workshop τ η) (hs : I s.2.failed) : I (announce listening f s).2.2.failed := by
  have htell : ∀ x (e : Event η) (t : World × List (η × Failure)), I e →
      I (e.react (tell listening x f t).1).2 := fun x e t he => hl x f t.1 e he
  exact Event.callEach_keeps (P := fun e _ => I e) htell s.2.failed.handlers s.2.failed
    (s.1, s.2.told) hs

theorem announce_told (h : announce listening f s = (.ok (), u)) :
    u.2.told = s.2.told ++ s.2.failed.handlers.map fun h => (h, f) := by
  obtain ⟨w, e⟩ := s
  rw [announce_apply] at h
  rcases hcall : Event.callEach (tell listening) f e.failed.handlers e.failed (w, e.told) with
    ⟨r, failed, v, told⟩
  rw [hcall] at h
  obtain ⟨rfl, rfl⟩ := Prod.mk.inj h
  have hall := Event.callEach_ok hcall
  rw [foldl_tell] at hall
  exact congrArg Prod.snd hall

theorem announce_raises {x : Exception} (h : announce listening f s = (.error x, u)) :
    ∃ h w, (listening h f w).1.Raises x := by
  obtain ⟨w, e⟩ := s
  rw [announce_apply] at h
  rcases hcall : Event.callEach (tell listening) f e.failed.handlers e.failed (w, e.told) with
    ⟨r, failed, v, told⟩
  rw [hcall] at h
  obtain ⟨rfl, -⟩ := Prod.mk.inj h
  obtain ⟨x, t, hx⟩ := Event.callEach_error hcall
  exact ⟨x, t.1, hx⟩

theorem announce_presenter (listening : Listening η) (f : Failure) (s : Workshop τ η) :
    (announce listening f s).2.2.presenter = s.2.presenter := rfl

/-- Those who are told change the disk only as `K` says. -/
structure Spares (listening : Listening η) (K : Disk → Disk → Prop) : Prop where
  refl : ∀ d, K d d
  trans : ∀ c d e, K c d → K d e → K c e
  heard : ∀ h f w, K w.disk (listening h f w).2.disk

theorem announce_disk {K : Disk → Disk → Prop} (hK : Spares listening K) (f : Failure)
    (s : Workshop τ η) : K s.1.disk (announce listening f s).2.1.disk := by
  have htell : ∀ x (e : Event η) (t : World × List (η × Failure)), K s.1.disk t.1.disk →
      K s.1.disk (tell listening x f t).2.1.disk :=
    fun x e t ht => hK.trans _ _ _ ht (hK.heard x f t.1)
  exact Event.callEach_keeps (P := fun _ t => K s.1.disk t.1.disk) htell s.2.failed.handlers
    s.2.failed (s.1, s.2.told) (hK.refl _)

/-! ### Evaluating -/

/-- How an evaluator answers. -/
inductive Answers (listening : Listening η) (a : Attempt) (u : Workshop τ η) :
    Except Exception Outcome × Workshop τ η → Prop
  | passed {o : Outcome} (ha : a.result = .ok o) : Answers listening a u (.ok o, u)
  | raised {e : Exception} (ha : a.result = .error (.raised e)) : Answers listening a u (.error e, u)
  | told {f : Failure} {v : Workshop τ η} (ha : a.failure? = some f)
      (hv : announce listening f u = (.ok (), v)) : Answers listening a u (.ok .empty, v)
  | untold {f : Failure} {e : Exception} {v : Workshop τ η} (ha : a.failure? = some f)
      (hv : announce listening f u = (.error e, v)) : Answers listening a u (.error e, v)

theorem answers_evaluate (session : Session τ) (listening : Listening η) (q : Request)
    (s : Workshop τ η) : Answers listening (attempt session q s) (attempted session q s)
      (evaluate session listening q.text q.asExpression q.file s) := by
  simp only [evaluate, Action.bind_apply, Action.attempt]
  unfold attempt attempted
  rcases inSession (workInDirectory session q.text q.asExpression q.file) s with
    ⟨(⟨_, cause, errorText⟩ | e) | o, u⟩
  · dsimp only
    rw [Action.bind_apply]
    rcases hann : announce listening ⟨q.text, q.asExpression, q.file, cause, errorText⟩ u with ⟨e | _, v⟩
    · exact .untold rfl hann
    · exact .told rfl hann
  · exact .raised rfl
  · exact .passed rfl

end Evaluator

end Weave
