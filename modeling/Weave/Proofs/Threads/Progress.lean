import Weave.Proofs.Threads.LockOrder

/-!
# Every call ends

A thread that is at work has at most so many stages before it. A step of the crew takes one thread
forward or, if that one has to wait or is done, changes nothing. As long as some thread is not done
there is one that can go forward: the one that has the lock, or else any. So a schedule that goes
often enough through all threads brings all of them to their ends.
-/

set_option autoImplicit false

namespace Weave.Threads

variable {τ η : Type} {session : Session τ} {listening : Listening η} {stage : Stage} {c : Call}
  {s : Workshop τ η} {calls : List Call}

def Stage.stepsLeft : Stage → Nat
  | .takeLock => Crew.stepsPerThread
  | .locate => 7
  | .enter _ => 6
  | .run _ _ => 5
  | .recall _ _ _ => 4
  | .leave _ _ _ => 3
  | .releaseLock _ => 2
  | .report _ => 1
  | .finished _ => 0

theorem Stage.stepsLeft_eq_zero_iff : stage.stepsLeft = 0 ↔ ∃ r, stage = .finished r := by
  cases stage <;> simp [stepsLeft, Crew.stepsPerThread]

theorem stepsLeft_of_holdsLock (h : stage.holdsLock) : stage.stepsLeft ≠ 0 := by
  cases stage <;> simp_all [Stage.holdsLock, Stage.stepsLeft]

def stepsLeftOf : List Thread → Nat
  | [] => 0
  | t :: ts => t.stage.stepsLeft + stepsLeftOf ts

variable {ts : List Thread} {k : Nat} {t u : Thread}

theorem stepsLeftOf_eq_zero_iff : stepsLeftOf ts = 0 ↔ ∀ t ∈ ts, t.stage.stepsLeft = 0 := by
  induction ts with
  | nil => simp [stepsLeftOf]
  | cons t ts ih => rw [stepsLeftOf, Nat.add_eq_zero_iff, ih, List.forall_mem_cons]

theorem stepsLeftOf_set_lt (hk : ts[k]? = some t) (hlt : u.stage.stepsLeft < t.stage.stepsLeft) :
    stepsLeftOf (ts.set k u) < stepsLeftOf ts := by
  induction ts generalizing k with
  | nil => simp at hk
  | cons x ts ih =>
    cases k with
    | zero =>
      obtain rfl : x = t := Option.some.inj hk
      exact Nat.add_lt_add_right hlt _
    | succ k => exact Nat.add_lt_add_left (ih hk) _

theorem stepsLeftOf_map (calls : List Call) :
    stepsLeftOf (calls.map fun c => ⟨c, .takeLock⟩) = Crew.stepsPerThread * calls.length := by
  induction calls with
  | nil => rfl
  | cons c cs ih => rw [List.map_cons, stepsLeftOf, ih, List.length_cons, Nat.mul_succ, Nat.add_comm]; rfl

variable {crew : Crew τ η}

def Crew.stepsLeft (crew : Crew τ η) : Nat := stepsLeftOf crew.threads

theorem Crew.stepsLeft_start (s : Workshop τ η) (calls : List Call) :
    (start s calls).stepsLeft = stepsPerThread * calls.length := stepsLeftOf_map calls

theorem Crew.finished_of_stepsLeft (h : crew.stepsLeft = 0) (hk : crew.threads[k]? = some t) :
    ∃ r, t.stage = .finished r :=
  Stage.stepsLeft_eq_zero_iff.mp (stepsLeftOf_eq_zero_iff.mp h t (List.mem_of_getElem? hk))

variable [DecidableEq η]

/-- Every step takes a thread forward. -/
theorem stepsLeft_act (h : stage.stepsLeft ≠ 0) :
    (act session listening c stage s).1.stepsLeft < stage.stepsLeft := by
  cases stage with
  | finished r => exact absurd rfl h
  | takeLock => exact (by decide : 7 < 8)
  | locate => exact (by decide : 6 < 7)
  | enter names =>
    rw [act]
    cases s.1.visit names with
    | error e => exact (by decide : 2 < 6)
    | ok w => exact (by decide : 5 < 6)
  | run names previous =>
    rw [act]
    obtain ⟨ended, hstage⟩ | ⟨output, hstage⟩ := runStep_stage session c names previous s
    · rw [hstage]
      exact (by decide : 3 < 5)
    · rw [hstage]
      exact (by decide : 4 < 5)
  | «recall» output names previous => exact (by decide : 3 < 4)
  | leave ended names previous =>
    rw [act]
    rcases s.1.depart names previous with ⟨_ | _, w⟩ <;> exact (by decide : 2 < 3)
  | releaseLock ended =>
    rcases ended with (⟨_, _, _⟩ | _) | _
    · exact (by decide : 1 < 2)
    · exact (by decide : 0 < 2)
    · exact (by decide : 0 < 2)
  | report f =>
    rw [act_report]
    exact (by decide : 0 < 1)

namespace Crew

/-- A step changes nothing or takes a thread forward. -/
theorem step_eq_or_lt (session : Session τ) (listening : Listening η) (crew : Crew τ η) (k : Nat) :
    crew.step session listening k = crew ∨
      (crew.step session listening k).stepsLeft < crew.stepsLeft := by
  obtain ⟨hsame, -⟩ | ⟨t, hk, hacted, -⟩ := crew.step_cases session listening k
  · exact .inl hsame
  · rw [hacted]
    by_cases h : t.stage.stepsLeft = 0
    · obtain ⟨r, hr⟩ := Stage.stepsLeft_eq_zero_iff.mp h
      obtain ⟨call, stage⟩ := t
      obtain rfl : stage = .finished r := hr
      obtain ⟨hlt, hget⟩ := List.getElem?_eq_some_iff.mp hk
      refine .inl ?_
      simp only [acted, act]
      rw [← hget, List.set_getElem_self]
    · exact .inr (stepsLeftOf_set_lt hk (stepsLeft_act h))

/-- As long as some thread is not done, one can go forward. -/
theorem exists_step_lt (session : Session τ) (listening : Listening η) (h : crew.stepsLeft ≠ 0) :
    ∃ k < crew.threads.length, (crew.step session listening k).stepsLeft < crew.stepsLeft := by
  have hforward : ∀ {k : Nat} {t : Thread}, crew.threads[k]? = some t → t.stage.stepsLeft ≠ 0 →
      (t.stage = .takeLock → crew.isLocked = false) →
        ∃ k < crew.threads.length, (crew.step session listening k).stepsLeft < crew.stepsLeft := by
    intro k t hk ht hfree
    refine ⟨k, (List.getElem?_eq_some_iff.mp hk).1, ?_⟩
    obtain ⟨-, -, hwaits⟩ | ⟨u, hku, hacted, -⟩ := crew.step_cases session listening k
    · obtain ⟨hstage, hlocked⟩ := hwaits t hk
      simp [hfree hstage] at hlocked
    · obtain rfl : u = t := Option.some.inj (hku.symm.trans hk)
      rw [hacted]
      exact stepsLeftOf_set_lt hk (stepsLeft_act ht)
  cases hlock : crew.isLocked with
  | true =>
    obtain ⟨k, t, hk, ht⟩ := isLocked_iff.mp hlock
    exact hforward hk (stepsLeft_of_holdsLock ht) fun hstage => by simp [hstage, Stage.holdsLock] at ht
  | false =>
    obtain ⟨t, ht, hne⟩ : ∃ t ∈ crew.threads, ¬t.stage.stepsLeft = 0 := by
      simpa using mt stepsLeftOf_eq_zero_iff.mpr h
    obtain ⟨k, hk⟩ := List.mem_iff_getElem?.mp ht
    exact hforward hk hne fun _ => hlock

theorem length_run (session : Session τ) (listening : Listening η) (crew : Crew τ η)
    (schedule : List Nat) : (crew.run session listening schedule).threads.length = crew.threads.length := by
  induction schedule generalizing crew with
  | nil => rfl
  | cons k ks ih =>
    refine (ih (crew.step session listening k)).trans ?_
    obtain ⟨hsame, -⟩ | ⟨t, -, hacted, -⟩ := crew.step_cases session listening k
    · rw [hsame]
    · simp [hacted, acted]

theorem run_eq_or_lt (session : Session τ) (listening : Listening η) (crew : Crew τ η)
    (schedule : List Nat) :
    (crew.run session listening schedule = crew ∧
        ∀ k ∈ schedule, crew.step session listening k = crew) ∨
      (crew.run session listening schedule).stepsLeft < crew.stepsLeft := by
  induction schedule generalizing crew with
  | nil => exact .inl ⟨rfl, by simp⟩
  | cons k ks ih =>
    have hrun : crew.run session listening (k :: ks)
      = (crew.step session listening k).run session listening ks := rfl
    rw [hrun]
    obtain hsame | hlt := crew.step_eq_or_lt session listening k
    · rw [hsame]
      refine (ih crew).imp_left fun ⟨heq, hks⟩ => ⟨heq, ?_⟩
      exact List.forall_mem_cons.mpr ⟨hsame, hks⟩
    · refine .inr ?_
      obtain ⟨heq, -⟩ | hlt' := ih (crew.step session listening k)
      · rwa [heq]
      · exact Nat.lt_trans hlt' hlt

/-- A round through all threads takes some of them forward, unless all are done. -/
theorem run_round_lt (session : Session τ) (listening : Listening η) {round : List Nat}
    (hround : ∀ k < crew.threads.length, k ∈ round)
    (h : crew.stepsLeft ≠ 0) : (crew.run session listening round).stepsLeft < crew.stepsLeft := by
  obtain ⟨-, hsame⟩ | hlt := crew.run_eq_or_lt session listening round
  · obtain ⟨k, hk, hlt⟩ := crew.exists_step_lt session listening h
    rw [hsame k (hround k hk)] at hlt
    exact absurd hlt (Nat.lt_irrefl _)
  · exact hlt

theorem stepsLeft_run_rounds (session : Session τ) (listening : Listening η) (crew : Crew τ η)
    {rounds : List (List Nat)}
    (hrounds : ∀ round ∈ rounds, ∀ k < crew.threads.length, k ∈ round) :
    (crew.run session listening rounds.flatten).stepsLeft ≤ crew.stepsLeft - rounds.length := by
  induction rounds generalizing crew with
  | nil => exact Nat.le_refl _
  | cons round rounds ih =>
    obtain ⟨hround, hrest⟩ := List.forall_mem_cons.mp hrounds
    have hrun : crew.run session listening (round :: rounds).flatten
        = (crew.run session listening round).run session listening rounds.flatten := by
      rw [List.flatten_cons]
      exact List.foldl_append
    have hround' : (crew.run session listening round).stepsLeft ≤ crew.stepsLeft - 1 := by
      by_cases h : crew.stepsLeft = 0
      · obtain ⟨hsame, -⟩ | hlt := crew.run_eq_or_lt session listening round
        · rw [hsame]
          omega
        · omega
      · have hlt := run_round_lt session listening hround h
        omega
    have hle := ih (crew.run session listening round) (by rwa [length_run])
    rw [hrun, List.length_cons]
    omega

/-- A schedule that begins with enough rounds through all threads brings every call to its end. -/
theorem finished_run (session : Session τ) (listening : Listening η) {rounds : List (List Nat)}
    {schedule : List Nat} (hrounds : ∀ round ∈ rounds, ∀ k < calls.length, k ∈ round)
    (hlength : stepsPerThread * calls.length ≤ rounds.length) (hstart : rounds.flatten <+: schedule)
    (hk : ((start s calls).run session listening schedule).threads[k]? = some t) :
    ∃ r, t.stage = .finished r := by
  obtain ⟨more, rfl⟩ := hstart
  have hrun : (start s calls).run session listening (rounds.flatten ++ more)
      = ((start s calls).run session listening rounds.flatten).run session listening more :=
    List.foldl_append
  have hle := stepsLeft_run_rounds session listening (start s calls) (by simpa [start] using hrounds)
  rw [stepsLeft_start] at hle
  refine finished_of_stepsLeft ?_ hk
  rw [hrun]
  obtain ⟨hsame, -⟩ | hlt := run_eq_or_lt session listening
    ((start s calls).run session listening rounds.flatten) more
  · rw [hsame]
    omega
  · omega

end Crew

end Weave.Threads
