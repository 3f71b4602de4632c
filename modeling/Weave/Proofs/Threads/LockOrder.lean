import Weave.Proofs.Threads.Stages

/-!
# The order of the lock

Threads get the lock one after the other. Whoever has it is the last that got it, has the session as the
calls before it have left it, one at a time, and goes on to the end that its call has on its own. Whoever
had it before is past its release, with the outcome of its own turn.
-/

set_option autoImplicit false

namespace Weave.Threads

variable {τ η : Type} {same : World → World → Prop} {session : Session τ} {listening : Listening η}
  {crew : Crew τ η} {s : Workshop τ η} {calls : List Call} {order : List Nat} {k : Nat} {t : Thread}

theorem Crew.isLocked_iff :
    crew.isLocked ↔ ∃ (k : Nat) (t : Thread), crew.threads[k]? = some t ∧ t.stage.holdsLock := by
  simp only [isLocked, List.any_eq_true, List.mem_iff_getElem?]
  constructor
  · rintro ⟨t, ⟨k, hk⟩, h⟩
    exact ⟨k, t, hk, h⟩
  · rintro ⟨k, t, hk, h⟩
    exact ⟨t, ⟨k, hk⟩, h⟩

variable [DecidableEq η]

/-! ### One call after another -/

def inTurn (session : Session τ) (listening : Listening η) (calls : List Call) (s : Workshop τ η)
    (order : List Nat) : Workshop τ η :=
  order.foldl (fun s k => match calls[k]? with
    | some c => (c.evaluate session listening s).2
    | none => s) s

theorem inTurn_concat {c : Call} (h : calls[k]? = some c) :
    inTurn session listening calls s (order ++ [k]) =
      (c.evaluate session listening (inTurn session listening calls s order)).2 := by
  simp [inTurn, h]

namespace Crew

/-! ### A step of the crew -/

def takesLock (crew : Crew τ η) (k : Nat) : Bool :=
  match crew.threads[k]? with
  | some ⟨_, .takeLock⟩ => !crew.isLocked
  | _ => false

/-- The threads that get the lock on a schedule, in order. -/
def lockOrder (session : Session τ) (listening : Listening η) : Crew τ η → List Nat → List Nat
  | _, [] => []
  | crew, k :: ks =>
    (if crew.takesLock k then [k] else []) ++ lockOrder session listening (crew.step session listening k) ks

def acted (session : Session τ) (listening : Listening η) (crew : Crew τ η) (k : Nat) (t : Thread) :
    Crew τ η :=
  ⟨(act session listening t.call t.stage crew.workshop).2,
    crew.threads.set k ⟨t.call, (act session listening t.call t.stage crew.workshop).1⟩⟩

/-- What a step can come to: there is no such thread, or it has to wait for the lock, or it gets the
lock, or it acts at another stage. -/
theorem step_cases (session : Session τ) (listening : Listening η) (crew : Crew τ η) (k : Nat) :
    (crew.step session listening k = crew ∧ crew.takesLock k = false ∧
        ∀ t, crew.threads[k]? = some t → t.stage = .takeLock ∧ crew.isLocked) ∨
      ∃ t, crew.threads[k]? = some t ∧ crew.step session listening k = crew.acted session listening k t ∧
        ((t.stage = .takeLock ∧ crew.takesLock k ∧ crew.isLocked = false) ∨
          t.stage ≠ .takeLock ∧ crew.takesLock k = false) := by
  unfold step takesLock
  cases hk : crew.threads[k]? with
  | none => exact .inl ⟨rfl, rfl, fun t h => absurd h (by simp)⟩
  | some t =>
    obtain ⟨c, stage⟩ := t
    cases stage with
    | takeLock =>
      cases hlock : crew.isLocked with
      | true => exact .inl ⟨rfl, rfl, fun t h => ⟨by rw [← Option.some.inj h], rfl⟩⟩
      | false => exact .inr ⟨_, rfl, rfl, .inl ⟨rfl, rfl, rfl⟩⟩
    | _ => exact .inr ⟨_, rfl, rfl, .inr ⟨Stage.noConfusion, rfl⟩⟩

theorem act_ne_takeLock {c : Call} {stage : Stage} :
    (act session listening c stage s).1 ≠ .takeLock := by
  cases h : stage.holdsLock with
  | true =>
    by_cases hlast : ∃ ended, stage = .releaseLock ended
    · obtain ⟨ended, rfl⟩ := hlast
      exact (ofEnd_holdsLock c ended).2
    · intro hstage
      have hlock := (rest_act session listening c s h
        fun ended he => hlast ⟨ended, he⟩).1
      simp [hstage, Stage.holdsLock] at hlock
  | false =>
    cases stage with
    | takeLock => exact Stage.noConfusion
    | report f =>
      rw [act_report]
      exact Stage.noConfusion
    | finished r => exact Stage.noConfusion
    | _ => simp [Stage.holdsLock] at h

theorem getElem?_acted_self (hk : crew.threads[k]? = some t) :
    (crew.acted session listening k t).threads[k]? =
      some ⟨t.call, (act session listening t.call t.stage crew.workshop).1⟩ := by
  obtain ⟨h, -⟩ := List.getElem?_eq_some_iff.mp hk
  simp [acted, h]

theorem getElem?_acted_ne {j : Nat} (h : j ≠ k) :
    (crew.acted session listening k t).threads[j]? = crew.threads[j]? := by
  simp [acted, List.getElem?_set_ne h.symm]

theorem calls_acted (hk : crew.threads[k]? = some t) :
    (crew.acted session listening k t).threads.map Thread.call = crew.threads.map Thread.call := by
  refine List.ext_getElem? fun j => ?_
  rw [List.getElem?_map, List.getElem?_map]
  by_cases hj : j = k
  · rw [hj, getElem?_acted_self hk, hk]
    rfl
  · rw [getElem?_acted_ne hj]

theorem acted_cases (hk : crew.threads[k]? = some t) {j : Nat} {u : Thread}
    (hj : (crew.acted session listening k t).threads[j]? = some u) :
    (j = k ∧ u = ⟨t.call, (act session listening t.call t.stage crew.workshop).1⟩) ∨
      (j ≠ k ∧ crew.threads[j]? = some u) := by
  by_cases hjk : j = k
  · rw [hjk, getElem?_acted_self hk] at hj
    exact .inl ⟨hjk, (Option.some.inj hj).symm⟩
  · rw [getElem?_acted_ne hjk] at hj
    exact .inr ⟨hjk, hj⟩

/-- The crew stays locked as long as only a thread without the lock acts. -/
theorem isLocked_of_acted (hk : crew.threads[k]? = some t) (hlock : t.stage.holdsLock = false)
    (hnone : (crew.acted session listening k t).isLocked = false) : crew.isLocked = false := by
  rw [Bool.eq_false_iff] at hnone ⊢
  intro hlocked
  obtain ⟨j, u, hj, hlockj⟩ := isLocked_iff.mp hlocked
  by_cases hjk : j = k
  · obtain rfl : u = t := Option.some.inj (hj.symm.trans (hjk ▸ hk))
    simp [hlock] at hlockj
  · exact hnone (isLocked_iff.mpr ⟨j, u, by rwa [getElem?_acted_ne hjk], hlockj⟩)

/-- Who has acted no longer waits for the lock. -/
theorem taken_acted (hk : crew.threads[k]? = some t) {j : Nat} :
    (∃ u, (crew.acted session listening k t).threads[j]? = some u ∧ u.stage ≠ .takeLock) ↔
      j = k ∨ ∃ u, crew.threads[j]? = some u ∧ u.stage ≠ .takeLock := by
  constructor
  · rintro ⟨u, hj, hu⟩
    obtain ⟨rfl, -⟩ | ⟨-, hj⟩ := acted_cases hk hj
    · exact .inl rfl
    · exact .inr ⟨u, hj, hu⟩
  · intro h
    by_cases hjk : j = k
    · rw [hjk, getElem?_acted_self hk]
      exact ⟨_, rfl, act_ne_takeLock⟩
    · rw [getElem?_acted_ne hjk]
      exact h.resolve_left hjk

/-! ### The calls in the order of the lock -/

/-- The calls go one after another in this order, as far as the lock is concerned. -/
structure Ordered (same : World → World → Prop) (session : Session τ) (listening : Listening η)
    (s : Workshop τ η) (calls : List Call) (order : List Nat) (crew : Crew τ η) : Prop where
  call_eq : crew.threads.map Thread.call = calls
  nodup : order.Nodup
  taken : ∀ j : Nat, j ∈ order ↔ ∃ t, crew.threads[j]? = some t ∧ t.stage ≠ .takeLock
  /-- Who has the lock has got it last, and goes on to the end that its call has in its turn. -/
  holds : ∀ {j : Nat} {t : Thread}, crew.threads[j]? = some t → t.stage.holdsLock →
    ∃ done, order = done ++ [j] ∧
      AlikeEnd same (t.call.alone session (shared (inTurn session listening calls s done)))
        (t.call.rest session t.stage (shared crew.workshop))
  /-- Who has had the lock has come to the end of its turn. -/
  follows : ∀ {i j : Nat} {t : Thread}, order[i]? = some j → crew.threads[j]? = some t →
    t.stage.holdsLock = false → Follows listening t.call
      (t.call.alone session (shared (inTurn session listening calls s (order.take i)))).1 t.stage
  /-- If nobody has the lock the session is as the calls leave it in their turns. -/
  free : crew.isLocked = false →
    Alike same (shared (inTurn session listening calls s order)) (shared crew.workshop)

namespace Ordered

theorem start (hu : Unnoticed same session listening) (s : Workshop τ η) (calls : List Call) :
    Ordered same session listening s calls [] (Crew.start s calls) where
  call_eq := by simp [Crew.start, Function.comp_def]
  nodup := List.nodup_nil
  taken j := by simp [Crew.start]
  holds {j t} hj hlock := by
    obtain ⟨c, -, rfl⟩ : ∃ c, calls[j]? = some c ∧ ⟨c, .takeLock⟩ = t := by
      simpa [Crew.start] using hj
    simp [Stage.holdsLock] at hlock
  follows h := by simp at h
  free _ := hu.alike_refl _

variable (h : Ordered same session listening s calls order crew)
include h

theorem getElem?_calls (hk : crew.threads[k]? = some t) : calls[k]? = some t.call := by
  rw [← h.call_eq, List.getElem?_map, hk]
  rfl

/-- No two threads have the lock at a time. -/
theorem exclusive {j : Nat} {u : Thread} (hj : crew.threads[j]? = some u) (hlock : u.stage.holdsLock)
    (hk : crew.threads[k]? = some t) (hlock' : t.stage.holdsLock) : j = k := by
  obtain ⟨done, horder, -⟩ := h.holds hj hlock
  obtain ⟨done', horder', -⟩ := h.holds hk hlock'
  rw [horder] at horder'
  exact List.singleton_inj.mp (List.append_inj' horder' rfl).2

theorem mem (hk : crew.threads[k]? = some t) (hstage : t.stage ≠ .takeLock) : k ∈ order :=
  (h.taken k).mpr ⟨t, hk, hstage⟩

theorem takes (hu : Unnoticed same session listening) (hk : crew.threads[k]? = some t)
    (hstage : t.stage = .takeLock) (hfree : crew.isLocked = false) :
    Ordered same session listening s calls (order ++ [k]) (crew.acted session listening k t) := by
  have hnew : k ∉ order := fun hmem => by
    obtain ⟨u, hku, hne⟩ := (h.taken k).mp hmem
    obtain rfl : u = t := Option.some.inj (hku.symm.trans hk)
    exact hne hstage
  have hact : act session listening t.call t.stage crew.workshop = (.locate, crew.workshop) := by
    rw [hstage]
    rfl
  have halone := hu.respects_alone t.call _ _ (h.free hfree)
  refine
    { call_eq := (calls_acted hk).trans h.call_eq
      nodup := List.nodup_append.mpr ⟨h.nodup, by simp, by
        rintro j hj _ hk' rfl
        exact hnew (List.mem_singleton.mp hk' ▸ hj)⟩
      taken := fun j => by rw [taken_acted hk, List.mem_append, List.mem_singleton, h.taken, or_comm]
      holds := ?_, follows := ?_, free := ?_ }
  · intro j u hj hlock
    obtain ⟨rfl, rfl⟩ | ⟨-, hj⟩ := acted_cases hk hj
    · simp only [acted, hact]
      exact ⟨order, rfl, halone⟩
    · exact absurd (isLocked_iff.mpr ⟨j, u, hj, hlock⟩) (by simp [hfree])
  · intro i j u hi hj hlock
    obtain ⟨rfl, rfl⟩ | ⟨hne, hj⟩ := acted_cases hk hj
    · simp [hact, Stage.holdsLock] at hlock
    · rw [List.getElem?_append] at hi
      split at hi
      · next hlt =>
        rw [List.take_append_of_le_length (Nat.le_of_lt hlt)]
        exact h.follows hi hj hlock
      · exact absurd (List.mem_singleton.mp (List.mem_of_getElem? hi)) hne
  · intro hnone
    have hlocked : (crew.acted session listening k t).isLocked :=
      isLocked_iff.mpr ⟨k, _, getElem?_acted_self hk, by rw [hact]; rfl⟩
    exact absurd hlocked (by simp [hnone])

theorem proceeds (hk : crew.threads[k]? = some t) (hlock : t.stage.holdsLock)
    (hlast : ∀ ended, t.stage ≠ .releaseLock ended) :
    Ordered same session listening s calls order (crew.acted session listening k t) := by
  obtain ⟨hlock', hrest⟩ := rest_act session listening t.call crew.workshop hlock hlast
  obtain ⟨done, horder, hend⟩ := h.holds hk hlock
  have hmem : k ∈ order := by simp [horder]
  refine
    { call_eq := (calls_acted hk).trans h.call_eq
      nodup := h.nodup
      taken := fun j => by rw [taken_acted hk, ← h.taken, or_iff_right_of_imp (· ▸ hmem)]
      holds := ?_, follows := ?_, free := ?_ }
  · intro j u hj hlockj
    obtain ⟨rfl, rfl⟩ | ⟨hne, hj⟩ := acted_cases hk hj
    · refine ⟨done, horder, ?_⟩
      rw [← hrest] at hend
      exact hend
    · exact absurd (h.exclusive hj hlockj hk hlock) hne
  · intro i j u hi hj hnot
    obtain ⟨rfl, rfl⟩ | ⟨-, hj⟩ := acted_cases hk hj
    · simp [hlock'] at hnot
    · exact h.follows hi hj hnot
  · intro hnone
    have hlocked : (crew.acted session listening k t).isLocked :=
      isLocked_iff.mpr ⟨k, _, getElem?_acted_self hk, hlock'⟩
    simp [hnone] at hlocked

theorem releases (hu : Unnoticed same session listening) (hk : crew.threads[k]? = some t)
    {ended : Except Halt Outcome} (hstage : t.stage = .releaseLock ended) :
    Ordered same session listening s calls order (crew.acted session listening k t) := by
  have hlock : t.stage.holdsLock := by rw [hstage]; rfl
  have hact : act session listening t.call t.stage crew.workshop =
      (Stage.ofEnd t.call ended, crew.workshop) := by
    rw [hstage]
    rfl
  obtain ⟨done, horder, hresult, hstate⟩ := h.holds hk hlock
  rw [hstage, Call.rest, ofExcept_apply] at hresult hstate
  obtain rfl : ended = _ := hresult
  have hmem : k ∈ order := by simp [horder]
  refine
    { call_eq := (calls_acted hk).trans h.call_eq
      nodup := h.nodup
      taken := fun j => by rw [taken_acted hk, ← h.taken, or_iff_right_of_imp (· ▸ hmem)]
      holds := ?_, follows := ?_, free := ?_ }
  · intro j u hj hlockj
    obtain ⟨rfl, rfl⟩ | ⟨hne, hj⟩ := acted_cases hk hj
    · rw [hact] at hlockj
      simp [(ofEnd_holdsLock t.call _).1] at hlockj
    · exact absurd (h.exclusive hj hlockj hk hlock) hne
  · intro i j u hi hj hnot
    obtain ⟨rfl, rfl⟩ | ⟨-, hj⟩ := acted_cases hk hj
    · have hlast : order[done.length]? = some j := by simp [horder]
      obtain ⟨hlt, -⟩ := List.getElem?_eq_some_iff.mp hi
      obtain rfl : i = done.length := (List.getElem?_inj hlt h.nodup).mp (hi.trans hlast.symm)
      rw [hact, horder, List.take_left]
      exact .released
    · exact h.follows hi hj hnot
  · intro _
    rw [horder, inTurn_concat (h.getElem?_calls hk)]
    have hevaluate := hu.alike_evaluate t.call (inTurn session listening calls s done)
    have hworkshop : shared (crew.acted session listening k t).workshop = shared crew.workshop := by
      rw [acted, hact]
    rw [hworkshop]
    exact hu.alike_trans (hu.alike_symm hevaluate) hstate

theorem outside (hu : Unnoticed same session listening) (hk : crew.threads[k]? = some t)
    (hstage : t.stage ≠ .takeLock) (hlock : t.stage.holdsLock = false) :
    Ordered same session listening s calls order (crew.acted session listening k t) := by
  have hmem : k ∈ order := h.mem hk hstage
  have halike : Alike same (shared crew.workshop)
      (shared (crew.acted session listening k t).workshop) := hu.alike_act hlock crew.workshop
  have hlock' := act_not_holdsLock session listening t.call crew.workshop hlock hstage
  refine
    { call_eq := (calls_acted hk).trans h.call_eq
      nodup := h.nodup
      taken := fun j => by rw [taken_acted hk, ← h.taken, or_iff_right_of_imp (· ▸ hmem)]
      holds := ?_, follows := ?_, free := ?_ }
  · intro j u hj hlockj
    obtain ⟨rfl, rfl⟩ | ⟨-, hj⟩ := acted_cases hk hj
    · simp [hlock'] at hlockj
    · obtain ⟨done, horder, hend⟩ := h.holds hj hlockj
      exact ⟨done, horder, hu.alikeEnd_trans hend (hu.respects_rest u.call u.stage _ _ halike)⟩
  · intro i' j u hi' hj hnot
    obtain ⟨rfl, rfl⟩ | ⟨-, hj⟩ := acted_cases hk hj
    · exact (h.follows hi' hk hlock).act session crew.workshop
    · exact h.follows hi' hj hnot
  · intro hnone
    exact hu.alike_trans (h.free (isLocked_of_acted hk hlock hnone)) halike

/-- A step of the crew keeps the calls in the order of the lock. -/
theorem step (hu : Unnoticed same session listening) (k : Nat) :
    Ordered same session listening s calls (order ++ if crew.takesLock k then [k] else [])
      (crew.step session listening k) := by
  obtain ⟨hsame, htakes, -⟩ | ⟨t, hk, hacted, ⟨hstage, htakes, hfree⟩ | ⟨hstage, htakes⟩⟩ :=
    crew.step_cases session listening k
  · rw [hsame, htakes, if_neg Bool.false_ne_true, List.append_nil]
    exact h
  · rw [hacted, htakes, if_pos rfl]
    exact h.takes hu hk hstage hfree
  · rw [hacted, htakes, if_neg Bool.false_ne_true, List.append_nil]
    cases hlock : t.stage.holdsLock with
    | false => exact h.outside hu hk hstage hlock
    | true =>
      by_cases hlast : ∃ ended, t.stage = .releaseLock ended
      · obtain ⟨ended, hended⟩ := hlast
        exact h.releases hu hk hended
      · exact h.proceeds hk hlock fun ended he => hlast ⟨ended, he⟩

theorem run (hu : Unnoticed same session listening) (schedule : List Nat) :
    Ordered same session listening s calls (order ++ lockOrder session listening crew schedule)
      (crew.run session listening schedule) := by
  induction schedule generalizing crew order with
  | nil =>
    rw [lockOrder, List.append_nil]
    exact h
  | cons k ks ih =>
    rw [lockOrder, ← List.append_assoc]
    exact ih (h.step hu k)

end Ordered

/-- On every schedule the calls go one after another in the order of the lock. -/
theorem ordered_run (hu : Unnoticed same session listening) (s : Workshop τ η) (calls : List Call)
    (schedule : List Nat) :
    Ordered same session listening s calls (lockOrder session listening (start s calls) schedule)
      ((start s calls).run session listening schedule) :=
  (Ordered.start hu s calls).run hu schedule

end Crew

end Weave.Threads
