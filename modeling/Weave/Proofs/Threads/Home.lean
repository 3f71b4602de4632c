import Weave.Proofs.Threads.LockOrder

/-!
# Where the process is

Threads share the directory the process is in and its search path. As long as no snippet changes the
path, whoever has the lock finds both as they were at first, goes to its directory and comes back
before the lock is released. So a call without a file never runs in the directory that another call
has gone to.
-/

set_option autoImplicit false

namespace Weave.Threads

open Evaluator (directory)

variable {τ η : Type} {same : World → World → Prop} {session : Session τ} {listening : Listening η}
  {home path : List Text} {c : Call} {stage : Stage} {s : Workshop τ η}

/-- The search path is the same in both worlds, and the directory `home` stands in the second if it
does in the first. -/
structure Keeps (home : List Text) (v w : World) : Prop where
  searchPath : w.searchPath = v.searchPath
  stands : v.Stands home → w.Stands home

/-- What is about to be run leaves the search path alone, and does not take the directory `home` away. It
may go to other directories. -/
def Crew.Calm (session : Session τ) (home : List Text) (crew : Crew τ η) : Prop :=
  ∀ (k : Nat) (t : Thread) (names previous : List Text),
    crew.threads[k]? = some t → t.stage = .run names previous →
      Keeps home crew.workshop.1 (runStep session t.call names previous crew.workshop).2.1

/-- Whatever a session does to the world however it is used, it does to the world at this stage. -/
theorem runStep_world (does : World → World → Prop)
    (hrun : ∀ text file s, does s.1 (session.run text file s).2.1)
    (heval : ∀ text file s, does s.1 (session.eval text file s).2.1) (c : Call)
    (names previous : List Text) (s : Workshop τ η) :
    does s.1 (runStep session c names previous s).2.1 := by
  unfold runStep
  split
  · exact heval c.text c.file (shared s)
  · exact hrun c.text c.file (shared s)

/-- The process is where a call has it that is at some stage, if it has come from the directory `home`
with the search path `path`. -/
def Stage.Placed (home path : List Text) (c : Call) (w : World) : Stage → Prop
  | .locate | .releaseLock _ => w.here = home ∧ w.searchPath = path
  | .enter names => w.here = home ∧ w.searchPath = path ∧ names = directory c.file w
  | .run names previous =>
    previous = home ∧ w.searchPath = World.nameOf names :: path ∧ (c.file = none → w.here = home)
  | .recall _ names previous | .leave _ names previous =>
    previous = home ∧ w.searchPath = World.nameOf names :: path
  | .takeLock | .report _ | .finished _ => True

theorem placed_of_not_holdsLock {w : World} (h : stage.holdsLock = false) :
    stage.Placed home path c w := by
  cases stage with
  | takeLock => trivial
  | report f => trivial
  | finished r => trivial
  | _ => simp [Stage.holdsLock] at h

theorem placed_of_alike (hu : Unnoticed same session listening) {v w : World} (h : same v w)
    (hp : stage.Placed home path c v) : stage.Placed home path c w := by
  cases stage <;> simp only [Stage.Placed, hu.here h, hu.searchPath h, hu.directory h] at hp ⊢ <;>
    exact hp

/-- The process is where whoever has the lock has it, and while nobody has it where it was at first. -/
structure Crew.AtHome (home path : List Text) (crew : Crew τ η) : Prop where
  stands : crew.workshop.1.Stands home
  free : crew.isLocked = false → crew.workshop.1.here = home ∧ crew.workshop.1.searchPath = path
  placed : ∀ {j : Nat} {t : Thread}, crew.threads[j]? = some t →
    t.stage.Placed home path t.call crew.workshop.1

theorem Crew.AtHome.start (hs : s.1.Stands s.1.here) (calls : List Call) :
    AtHome s.1.here s.1.searchPath (Crew.start s calls) where
  stands := hs
  free _ := ⟨rfl, rfl⟩
  placed {j t} hj := by
    obtain ⟨c, -, rfl⟩ : ∃ c, calls[j]? = some c ∧ ⟨c, .takeLock⟩ = t := by
      simpa [Crew.start] using hj
    exact placed_of_not_holdsLock rfl

variable [DecidableEq η]

/-- Each step of a call that has the lock leads from place to place. -/
theorem placed_act (listening : Listening η) (hlock : stage.holdsLock)
    (hkeeps : ∀ names previous, stage = .run names previous →
      Keeps home s.1 (runStep session c names previous s).2.1)
    (hp : stage.Placed home path c s.1) (hs : s.1.Stands home) :
    (act session listening c stage s).1.Placed home path c (act session listening c stage s).2.1 ∧
      (act session listening c stage s).2.1.Stands home := by
  cases stage with
  | takeLock => simp [Stage.holdsLock] at hlock
  | report f => simp [Stage.holdsLock] at hlock
  | finished r => simp [Stage.holdsLock] at hlock
  | locate => exact ⟨⟨hp.1, hp.2, rfl⟩, hs⟩
  | enter names =>
    obtain ⟨hhere, hpath, hnames⟩ := hp
    cases hv : s.1.visit names with
    | error e =>
      simp only [act, hv]
      exact ⟨⟨hhere, hpath⟩, hs⟩
    | ok w =>
      have hstays : c.file = none → w.here = home := by
        intro hfile
        obtain rfl : names = home := by rw [hnames, hfile, ← hhere]; rfl
        rw [World.visit_eq_ok hs] at hv
        rw [← Except.ok.inj hv]
      obtain ⟨place, rfl⟩ := World.place_of_visit hv
      simp only [act, hv]
      exact ⟨⟨hhere, congrArg _ hpath, hstays⟩, hs.congr rfl rfl⟩
  | run names previous =>
    obtain ⟨hprevious, hpath, -⟩ := hp
    obtain ⟨hkept, hstands⟩ := hkeeps names previous rfl
    rw [act]
    obtain ⟨ended, hstage⟩ | ⟨output, hstage⟩ := runStep_stage session c names previous s
    all_goals
      rw [hstage]
      exact ⟨⟨hprevious, hkept.trans hpath⟩, hstands hs⟩
  | «recall» output names previous => exact ⟨hp, hs⟩
  | leave ended names previous =>
    obtain ⟨rfl, hpath⟩ := hp
    simp only [act, World.depart_of_stands hs hpath]
    exact ⟨⟨rfl, rfl⟩, hs.congr rfl rfl⟩
  | releaseLock ended => exact ⟨placed_of_not_holdsLock (ofEnd_holdsLock c ended).1, hs⟩

namespace Crew

variable {crew : Crew τ η} {calls : List Call} {order : List Nat} {k : Nat} {t : Thread}

namespace AtHome

variable (h : AtHome home path crew)
include h

theorem takes (hk : crew.threads[k]? = some t) (hstage : t.stage = .takeLock)
    (hfree : crew.isLocked = false) : AtHome home path (crew.acted session listening k t) := by
  have hact : act session listening t.call t.stage crew.workshop = (.locate, crew.workshop) := by
    rw [hstage]
    rfl
  have hworkshop : (crew.acted session listening k t).workshop = crew.workshop := congrArg Prod.snd hact
  refine ⟨hworkshop ▸ h.stands, fun _ => hworkshop ▸ h.free hfree, ?_⟩
  intro j u hj
  rw [hworkshop]
  obtain ⟨rfl, rfl⟩ | ⟨-, hj⟩ := acted_cases hk hj
  · rw [hact]
    exact h.free hfree
  · exact h.placed hj

theorem inside (ho : Ordered same session listening s calls order crew)
    (hcalm : crew.Calm session home) (hk : crew.threads[k]? = some t)
    (hlock : t.stage.holdsLock) : AtHome home path (crew.acted session listening k t) := by
  obtain ⟨hplaced, hstands⟩ := placed_act listening hlock
    (fun names previous hrun => hcalm k t names previous hk hrun) (h.placed hk) h.stands
  refine ⟨hstands, ?_, ?_⟩
  · intro hnone
    by_cases hlast : ∃ ended, t.stage = .releaseLock ended
    · obtain ⟨ended, hended⟩ := hlast
      have hp := h.placed hk
      rw [hended] at hp
      rw [acted, hended]
      exact hp
    · have hlock' := (rest_act session listening t.call crew.workshop hlock
        fun ended he => hlast ⟨ended, he⟩).1
      have hlocked : (crew.acted session listening k t).isLocked :=
        isLocked_iff.mpr ⟨k, _, getElem?_acted_self hk, hlock'⟩
      simp [hnone] at hlocked
  · intro j u hj
    obtain ⟨rfl, rfl⟩ | ⟨hne, hj⟩ := acted_cases hk hj
    · exact hplaced
    · refine placed_of_not_holdsLock (Bool.eq_false_iff.mpr fun hlockj => ?_)
      exact hne (ho.exclusive hj hlockj hk hlock)

theorem outside (hu : Unnoticed same session listening) (hk : crew.threads[k]? = some t)
    (hstage : t.stage ≠ .takeLock) (hlock : t.stage.holdsLock = false) :
    AtHome home path (crew.acted session listening k t) := by
  have hsame := (hu.alike_act hlock (c := t.call) crew.workshop).world
  refine ⟨h.stands.congr (hu.files hsame) (hu.directories hsame), ?_, ?_⟩
  · intro hnone
    obtain ⟨hhere, hpath⟩ := h.free (isLocked_of_acted hk hlock hnone)
    exact ⟨(hu.here hsame).trans hhere, (hu.searchPath hsame).trans hpath⟩
  · intro j u hj
    obtain ⟨rfl, rfl⟩ | ⟨-, hj⟩ := acted_cases hk hj
    · exact placed_of_not_holdsLock (act_not_holdsLock session listening t.call crew.workshop hlock hstage)
    · exact placed_of_alike hu hsame (h.placed hj)

theorem step (hu : Unnoticed same session listening)
    (ho : Ordered same session listening s calls order crew)
    (hcalm : crew.Calm session home) (k : Nat) :
    AtHome home path (crew.step session listening k) := by
  obtain ⟨hsame, -⟩ | ⟨t, hk, hacted, ⟨hstage, -, hfree⟩ | ⟨hstage, -⟩⟩ :=
    crew.step_cases session listening k
  · rwa [hsame]
  · rw [hacted]
    exact h.takes hk hstage hfree
  · rw [hacted]
    cases hlock : t.stage.holdsLock with
    | false => exact h.outside hu hk hstage hlock
    | true => exact h.inside ho hcalm hk hlock

theorem run (hu : Unnoticed same session listening)
    (ho : Ordered same session listening s calls order crew) {schedule : List Nat}
    (hcalm : ∀ moment, moment <+: schedule → (crew.run session listening moment).Calm session home) :
    AtHome home path (crew.run session listening schedule) := by
  induction schedule generalizing crew order with
  | nil => exact h
  | cons k ks ih =>
    have hstep := h.step hu ho (hcalm [] List.nil_prefix) k
    exact ih hstep (ho.step hu k) fun moment hm => hcalm (k :: moment) (List.cons_prefix_cons.mpr ⟨rfl, hm⟩)

end AtHome

/-- As long as nothing that is run changes the search path, the process is where whoever has the lock has
it. -/
theorem atHome_run (hu : Unnoticed same session listening) (hs : s.1.Stands s.1.here)
    {schedule : List Nat} (hcalm : ∀ moment, moment <+: schedule →
      ((start s calls).run session listening moment).Calm session s.1.here) :
    AtHome s.1.here s.1.searchPath ((start s calls).run session listening schedule) :=
  (AtHome.start hs calls).run hu (Ordered.start hu s calls) hcalm

end Crew

end Weave.Threads
