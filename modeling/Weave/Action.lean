/-!
# Actions

An action reads and changes a state and may fail. What it has changed by the time it fails stays
changed. An action on a part of a state is one on the whole state.
-/

set_option autoImplicit false

namespace Weave

def Action (σ ε α : Type) := σ → Except ε α × σ

namespace Action

variable {σ τ ε φ α β : Type}

def bind (p : Action σ ε α) (f : α → Action σ ε β) : Action σ ε β := fun s =>
  match p s with
  | (.ok a, t) => f a t
  | (.error e, t) => (.error e, t)

instance : Monad (Action σ ε) where
  pure a := fun s => (.ok a, s)
  bind := bind

theorem pure_apply (a : α) (s : σ) : (pure a : Action σ ε α) s = (.ok a, s) := rfl

theorem bind_apply (p : Action σ ε α) (f : α → Action σ ε β) (s : σ) :
    (p >>= f) s = match p s with
      | (.ok a, t) => f a t
      | (.error e, t) => (.error e, t) := rfl

/-- What an action that succeeded has done. -/
theorem bind_eq_ok {p : Action σ ε α} {f : α → Action σ ε β} {s t : σ} {b : β}
    (h : (p >>= f) s = (.ok b, t)) : ∃ a m, p s = (.ok a, m) ∧ f a m = (.ok b, t) := by
  rw [bind_apply] at h
  split at h
  · next a m hp => exact ⟨a, m, hp, h⟩
  · simp at h

theorem bind_ok {p : Action σ ε α} {s t : σ} {a : α} (h : p s = (.ok a, t))
    (f : α → Action σ ε β) : (p >>= f) s = f a t := by
  rw [bind_apply, h]

theorem bind_error {p : Action σ ε α} {s t : σ} {e : ε} (h : p s = (.error e, t))
    (f : α → Action σ ε β) : (p >>= f) s = (.error e, t) := by
  rw [bind_apply, h]

theorem map_apply (f : α → β) (p : Action σ ε α) (s : σ) :
    (f <$> p) s = match p s with
      | (.ok a, t) => (.ok (f a), t)
      | (.error e, t) => (.error e, t) := rfl

theorem map_eq_ok {f : α → β} {p : Action σ ε α} {s t : σ} {b : β}
    (h : (f <$> p) s = (.ok b, t)) : ∃ a, p s = (.ok a, t) ∧ f a = b := by
  rw [map_apply] at h
  split at h
  next a u hp =>
    simp only [Prod.mk.injEq, Except.ok.injEq] at h
    obtain ⟨rfl, rfl⟩ := h
    exact ⟨a, hp, rfl⟩
  next => simp at h

theorem id_map (p : Action σ ε α) : id <$> p = p := by
  funext s
  show bind p (pure ∘ id) s = p s
  unfold bind
  split <;> simp_all [pure_apply]

instance : LawfulMonad (Action σ ε) :=
  LawfulMonad.mk' _ id_map (fun _ _ => rfl) fun p f g => by
    funext s
    simp only [bind_apply]
    rcases p s with ⟨_ | a, t⟩ <;> rfl

def fail (e : ε) : Action σ ε α := fun s => (.error e, s)

theorem fail_apply (e : ε) (s : σ) : (fail e : Action σ ε α) s = (.error e, s) := rfl

def state : Action σ ε σ := fun s => (.ok s, s)

def change (f : σ → σ) : Action σ ε Unit := fun s => (.ok (), f s)

theorem change_apply (f : σ → σ) (s : σ) : (change f : Action σ ε Unit) s = (.ok (), f s) := rfl

def ofExcept : Except ε α → Action σ ε α
  | .ok a => pure a
  | .error e => fail e

/-- A change that may be refused, in which case nothing is changed. -/
def tryChange (f : σ → Except ε σ) : Action σ ε Unit := fun s =>
  match f s with
  | .ok t => (.ok (), t)
  | .error e => (.error e, s)

/-- Never fails, but reports how the action ended. -/
def attempt (p : Action σ ε α) : Action σ φ (Except ε α) := fun s =>
  let (r, t) := p s
  (.ok r, t)

/-- Says otherwise why the action failed. -/
def mapError (f : ε → φ) (p : Action σ ε α) : Action σ φ α := fun s =>
  match p s with
  | (.ok a, t) => (.ok a, t)
  | (.error e, t) => (.error (f e), t)

/-- Follows an action, however it ends, by another one. If the second fails, that is what counts. -/
def andFinally (p : Action σ ε α) (last : Action σ ε Unit) : Action σ ε α := fun s =>
  let (r, t) := p s
  match last t with
  | (.ok _, u) => (r, u)
  | (.error e, u) => (.error e, u)

def onFirst (p : Action σ ε α) : Action (σ × τ) ε α := fun s =>
  let (r, t) := p s.1
  (r, t, s.2)

def onSecond (p : Action τ ε α) : Action (σ × τ) ε α := fun s =>
  let (r, t) := p s.2
  (r, s.1, t)

/-- One after the other for the members of a list, up to the first failure. -/
def each (f : α → Action σ ε β) : List α → Action σ ε (List β)
  | [] => pure []
  | a :: as => do
    let b ← f a
    let bs ← each f as
    pure (b :: bs)

theorem each_append (f : α → Action σ ε β) (as as' : List α) :
    each f (as ++ as') = (do
      let bs ← each f as
      let bs' ← each f as'
      pure (bs ++ bs')) := by
  induction as with
  | nil => simp [each]
  | cons a as ih => simp [each, ih]

end Action

end Weave
