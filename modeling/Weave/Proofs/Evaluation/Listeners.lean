import Weave.Evaluator

/-!
# Listeners that do not raise

An event whose handlers never raise calls every handler that was subscribed when it was triggered, in
order and once for each subscription, whatever the handlers do to the subscriptions meanwhile.
-/

set_option autoImplicit false

namespace Weave

variable {η ε α σ τ : Type}

/-- A reaction that does not end in an exception. -/
def Reaction.Settles : Reaction η ε → Prop
  | .finish => True
  | .raise _ => False
  | .subscribe _ next => next.Settles
  | .unsubscribe _ next => ∀ b, (next b).Settles

namespace Event

variable [DecidableEq η]

theorem react_of_settles {r : Reaction η ε} (h : r.Settles) (e : Event η) :
    ∃ e', e.react r = (.ok (), e') := by
  induction r generalizing e with
  | finish => exact ⟨e, rfl⟩
  | raise x => exact h.elim
  | subscribe x next ih => exact ih h (e.subscribe x)
  | unsubscribe x next ih =>
    simp only [react]
    split
    next e' _ => exact ih true (h true) e'
    next => exact ih false (h false) e

theorem callEach_of_settles {call : η → α → σ → Reaction η ε × σ}
    (h : ∀ x a s, (call x a s).1.Settles) (a : α) (hs : List η) (e : Event η) (s : σ) :
    ∃ e', callEach call a hs e s = (.ok (), e', hs.foldl (fun s x => (call x a s).2) s) := by
  induction hs generalizing e s with
  | nil => exact ⟨e, rfl⟩
  | cons x hs ih =>
    obtain ⟨e', he⟩ := react_of_settles (h x a s) e
    simp only [callEach, he]
    exact ih e' (call x a s).2

/-- What a trigger comes to depends on as much of what the handlers are told, and of a state, as they
take notice of. -/
theorem callEach_congr {call : η → α → σ → Reaction η ε × σ} {call' : η → α → τ → Reaction η ε × τ}
    {a a' : α} (same : σ → τ → Prop) (h : ∀ x s t, same s t →
      (call x a s).1 = (call' x a' t).1 ∧ same (call x a s).2 (call' x a' t).2)
    (hs : List η) (e : Event η) {s : σ} {t : τ} (hst : same s t) :
    (callEach call a hs e s).1 = (callEach call' a' hs e t).1 ∧
      (callEach call a hs e s).2.1 = (callEach call' a' hs e t).2.1 ∧
      same (callEach call a hs e s).2.2 (callEach call' a' hs e t).2.2 := by
  induction hs generalizing e s t with
  | nil => exact ⟨rfl, rfl, hst⟩
  | cons x hs ih =>
    obtain ⟨hr, hst'⟩ := h x s t hst
    simp only [callEach, hr]
    rcases e.react (call' x a' t).1 with ⟨err | u, e'⟩
    · exact ⟨rfl, rfl, hst'⟩
    · exact ih e' hst'

end Event

namespace Evaluator

/-- Nobody who is told about a failure raises. -/
def Settled (listening : Listening η) : Prop := ∀ h f w, (listening h f w).1.Settles

/-- The world once some handlers have been told about a failure. -/
def heard (listening : Listening η) (f : Failure) (hs : List η) (w : World) : World :=
  hs.foldl (fun w h => (listening h f w).2) w

def tell (listening : Listening η) (h : η) (f : Failure) (t : World × List (η × Failure)) :
    Reaction η Exception × World × List (η × Failure) :=
  ((listening h f t.1).1, (listening h f t.1).2, t.2 ++ [(h, f)])

theorem foldl_tell (listening : Listening η) (f : Failure) (hs : List η) (w : World)
    (told : List (η × Failure)) :
    hs.foldl (fun t h => (tell listening h f t).2) (w, told)
      = (heard listening f hs w, told ++ hs.map fun h => (h, f)) := by
  induction hs generalizing w told with
  | nil => simp [heard]
  | cons h hs ih =>
    rw [List.foldl_cons]
    simp only [tell] at ih ⊢
    rw [ih]
    simp [heard]

variable [DecidableEq η]

theorem announce_apply (listening : Listening η) (f : Failure) (w : World) (e : Evaluator τ η) :
    announce listening f (w, e) =
      ((Event.callEach (tell listening) f e.failed.handlers e.failed (w, e.told)).1,
        (Event.callEach (tell listening) f e.failed.handlers e.failed (w, e.told)).2.2.1,
        { e with
          failed := (Event.callEach (tell listening) f e.failed.handlers e.failed (w, e.told)).2.1
          told := (Event.callEach (tell listening) f e.failed.handlers e.failed
            (w, e.told)).2.2.2 }) := rfl

/-- Everyone who listens is told, once for each subscription. -/
theorem announce_of_settled {listening : Listening η} (hl : Settled listening) (f : Failure)
    (w : World) (e : Evaluator τ η) :
    ∃ failed, announce listening f (w, e) =
      (.ok (), heard listening f e.failed.handlers w,
        { e with failed, told := e.told ++ e.failed.handlers.map fun h => (h, f) }) := by
  have hsettles : ∀ h a t, (tell listening h a t).1.Settles := fun h a t => hl h a t.1
  obtain ⟨failed, h⟩ := Event.callEach_of_settles hsettles f e.failed.handlers e.failed (w, e.told)
  have htell : Event.callEach (tell listening) f e.failed.handlers e.failed (w, e.told)
      = (.ok (), failed, heard listening f e.failed.handlers w,
        e.told ++ e.failed.handlers.map fun h => (h, f)) := by
    rw [h, foldl_tell]
  exact ⟨failed, by rw [announce_apply, htell]⟩

/-- Those who listen look at which call has failed, not at how its failure is written. -/
def Unmoved (listening : Listening η) : Prop := ∀ h (f f' : Failure) w, f.text = f'.text →
  f.asExpression = f'.asExpression → f.file = f'.file → listening h f w = listening h f' w

/-- Announcing a failure goes the same way whatever the session is and whatever has been told before, and
whichever failure it is, as long as those who are told do the same. -/
theorem announce_congr {listening : Listening η} {f f' : Failure}
    (h : ∀ x w, listening x f w = listening x f' w) {s t : Workshop τ η} (hw : s.1 = t.1)
    (he : s.2.failed = t.2.failed) :
    (announce listening f s).2.1 = (announce listening f' t).2.1 ∧
      (announce listening f s).2.2.failed = (announce listening f' t).2.2.failed := by
  obtain ⟨w, e⟩ := s
  obtain ⟨w', e'⟩ := t
  have htell : ∀ x (s t : World × List (η × Failure)), s.1 = t.1 →
      (tell listening x f s).1 = (tell listening x f' t).1 ∧
        (tell listening x f s).2.1 = (tell listening x f' t).2.1 := by
    intro x s t hst
    simp [tell, hst, h x t.1]
  obtain ⟨-, hfailed, hworld⟩ := Event.callEach_congr (fun s t => s.1 = t.1) htell e.failed.handlers
    e.failed (s := (w, e.told)) (t := (w', e'.told)) hw
  dsimp only at he
  rw [announce_apply, announce_apply, ← he]
  exact ⟨hworld, hfailed⟩

end Evaluator

end Weave
