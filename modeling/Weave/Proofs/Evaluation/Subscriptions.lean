import Mathlib.Data.List.Infix
import Weave.Event
import Weave.Exception

/-!
# Subscriptions

Handlers may subscribe and unsubscribe while they are being called. A trigger calls those who were
subscribed when it began, up to the first that raises, and the subscriptions are at any time what the
changes that have been made to them come to, one after the other.
-/

set_option autoImplicit false

namespace Weave

variable {η α ε σ : Type}

/-! ### Changes -/

/-- What has been done to the subscriptions of an event. -/
inductive Change (η : Type) where
  | added (h : η)
  | removed (h : η)

section

variable [DecidableEq η]

/-- The subscriptions after a change: an added one comes last, and the earliest of a handler is
removed. -/
def Change.apply (hs : List η) : Change η → List η
  | .added h => hs ++ [h]
  | .removed h => hs.erase h

def replay (cs : List (Change η)) (hs : List η) : List η := cs.foldl Change.apply hs

@[simp] theorem replay_nil (hs : List η) : replay [] hs = hs := rfl

@[simp] theorem replay_cons (c : Change η) (cs : List (Change η)) (hs : List η) :
    replay (c :: cs) hs = replay cs (c.apply hs) := rfl

@[simp] theorem replay_append (cs cs' : List (Change η)) (hs : List η) :
    replay (cs ++ cs') hs = replay cs' (replay cs hs) := List.foldl_append

theorem exists_earliest {h : η} {hs : List η} (hh : h ∈ hs) :
    ∃ pre post, hs = pre ++ h :: post ∧ h ∉ pre ∧ hs.erase h = pre ++ post := by
  obtain ⟨pre, post, hpre, hhs, herase⟩ := List.exists_erase_eq hh
  exact ⟨pre, post, hhs, hpre, herase⟩

/-! ### Calls -/

/-- A handler that reacts like this makes these changes when these handlers are subscribed, and in the
end lets an exception escape or does not. -/
inductive Reaction.Makes : Reaction η ε → List η → List (Change η) → Option ε → Prop
  | finish {hs : List η} : Makes .finish hs [] none
  | raise {hs : List η} {x : ε} : Makes (.raise x) hs [] (some x)
  | subscribe {hs : List η} {h : η} {next : Reaction η ε} {cs : List (Change η)} {x : Option ε}
      (hnext : Makes next (hs ++ [h]) cs x) : Makes (.subscribe h next) hs (.added h :: cs) x
  | unsubscribe {hs : List η} {h : η} {next : Bool → Reaction η ε} {cs : List (Change η)} {x : Option ε}
      (hh : h ∈ hs) (hnext : Makes (next true) (hs.erase h) cs x) :
      Makes (.unsubscribe h next) hs (.removed h :: cs) x
  | unsubscribeInVain {hs : List η} {h : η} {next : Bool → Reaction η ε} {cs : List (Change η)}
      {x : Option ε} (hh : h ∉ hs) (hnext : Makes (next false) hs cs x) :
      Makes (.unsubscribe h next) hs cs x

/-- A call of a handler: what it has changed and the exception that has escaped, if any. -/
structure HandlerCall (η ε : Type) where
  handler : η
  changes : List (Change η)
  escaped : Option ε

/-- These calls follow each other, from some subscriptions and a state to others. Every handler acts
on what the handlers before it have left. -/
inductive Calls (call : η → α → σ → Reaction η ε × σ) (a : α) :
    List η → σ → List (HandlerCall η ε) → List η → σ → Prop
  | nil {hs : List η} {s : σ} : Calls call a hs s [] hs s
  | cons {hs hs' : List η} {s s' : σ} {c : HandlerCall η ε} {cs : List (HandlerCall η ε)}
      (hc : (call c.handler a s).1.Makes hs c.changes c.escaped)
      (hcs : Calls call a (replay c.changes hs) (call c.handler a s).2 cs hs' s') :
      Calls call a hs s (c :: cs) hs' s'

/-- These calls are those of all the handlers in order, or of those up to the first that lets an
exception escape. -/
inductive UpToEscape (hs : List η) (cs : List (HandlerCall η ε)) : Except ε Unit → Prop
  | all (hcs : cs.map HandlerCall.handler = hs) (hnone : ∀ c ∈ cs, c.escaped = none) :
      UpToEscape hs cs (.ok ())
  | escape (pre : List (HandlerCall η ε)) {c : HandlerCall η ε} (rest : List η) {x : ε}
      (hcs : cs = pre ++ [c]) (hhs : hs = cs.map HandlerCall.handler ++ rest)
      (hnone : ∀ c ∈ pre, c.escaped = none) (hx : c.escaped = some x) : UpToEscape hs cs (.error x)

omit [DecidableEq η] in
theorem UpToEscape.cons {hs : List η} {cs : List (HandlerCall η ε)} {r : Except ε Unit}
    {c : HandlerCall η ε} (hc : c.escaped = none) (h : UpToEscape hs cs r) :
    UpToEscape (c.handler :: hs) (c :: cs) r := by
  cases h with
  | all hcs hnone =>
    refine .all (by rw [List.map_cons, hcs]) ?_
    rintro d (_ | ⟨_, hd⟩)
    · exact hc
    · exact hnone d hd
  | @escape pre last rest x hcs hhs hnone hx =>
    refine .escape (c :: pre) rest (by rw [hcs, List.cons_append]) (by rw [hhs]; rfl) ?_ hx
    rintro d (_ | ⟨_, hd⟩)
    · exact hc
    · exact hnone d hd

theorem Calls.replay_eq {call : η → α → σ → Reaction η ε × σ} {a : α} {hs hs' : List η} {s s' : σ}
    {cs : List (HandlerCall η ε)} (h : Calls call a hs s cs hs' s') :
    hs' = replay (cs.flatMap HandlerCall.changes) hs := by
  induction h with
  | nil => rfl
  | cons _ _ ih => rw [ih, List.flatMap_cons, replay_append]

namespace Event

theorem react_makes (r : Reaction η ε) (e : Event η) :
    ∃ cs x, r.Makes e.handlers cs x ∧ (e.react r).2.handlers = replay cs e.handlers ∧
      (e.react r).1 = match x with
        | none => .ok ()
        | some x => .error x := by
  induction r generalizing e with
  | finish => exact ⟨[], none, .finish, rfl, rfl⟩
  | raise x => exact ⟨[], some x, .raise, rfl, rfl⟩
  | subscribe h next ih =>
    obtain ⟨cs, x, hmakes, hhandlers, hr⟩ := ih (e.subscribe h)
    exact ⟨.added h :: cs, x, .subscribe hmakes, hhandlers, hr⟩
  | unsubscribe h next ih =>
    by_cases hh : h ∈ e.handlers
    · obtain ⟨cs, x, hmakes, hhandlers, hr⟩ := ih true ⟨e.handlers.erase h⟩
      refine ⟨.removed h :: cs, x, .unsubscribe hh hmakes, ?_, ?_⟩ <;>
        simpa [react, unsubscribe?, hh, Change.apply]
    · obtain ⟨cs, x, hmakes, hhandlers, hr⟩ := ih false e
      refine ⟨cs, x, .unsubscribeInVain hh hmakes, ?_, ?_⟩ <;> simpa [react, unsubscribe?, hh]

theorem callEach_calls (call : η → α → σ → Reaction η ε × σ) (a : α) (hs : List η) (e : Event η)
    (s : σ) : ∃ cs, UpToEscape hs cs (callEach call a hs e s).1 ∧
      Calls call a e.handlers s cs (callEach call a hs e s).2.1.handlers (callEach call a hs e s).2.2 := by
  -- On the handlers that are to be called, for every event: whom they subscribe meanwhile does not matter.
  induction hs generalizing e s with
  | nil => exact ⟨[], .all rfl nofun, .nil⟩
  | cons h hs ih =>
    obtain ⟨cs, x, hmakes, hhandlers, hr⟩ := react_makes (call h a s).1 e
    rcases hreact : e.react (call h a s).1 with ⟨r, e'⟩
    rw [hreact] at hhandlers hr
    dsimp only at hhandlers hr
    subst hr
    cases x with
    | some x =>
      simp only [callEach, hreact]
      refine ⟨[⟨h, cs, some x⟩], .escape [] hs rfl rfl nofun rfl, .cons hmakes ?_⟩
      rw [hhandlers]
      exact .nil
    | none =>
      simp only [callEach, hreact]
      obtain ⟨calls, hup, hcalls⟩ := ih e' (call h a s).2
      rw [hhandlers] at hcalls
      exact ⟨⟨h, cs, none⟩ :: calls, hup.cons (c := ⟨h, cs, none⟩) rfl, .cons hmakes hcalls⟩

/-! ### Operations -/

/-- What can be asked of an event. -/
inductive Operation (η α : Type) where
  | subscribe (h : η)
  | unsubscribe (h : η)
  | trigger (a : α)

variable (call : η → α → σ → Reaction η Exception × σ)

def perform (op : Operation η α) (e : Event η) (s : σ) : Except Exception Unit × Event η × σ :=
  match op with
  | .subscribe h => (.ok (), e.subscribe h, s)
  | .unsubscribe h =>
    match e.unsubscribe? h with
    | some e' => (.ok (), e', s)
    | none => (.error (.ofMessage "ValueError" notSubscribed), e, s)
  | .trigger a => e.trigger call a s

def performEach : List (Operation η α) → Event η → σ → List (Except Exception Unit × List η) × σ
  | [], _, s => ([], s)
  | op :: ops, e, s =>
    let (r, e, s) := perform call op e s
    let (rs, s) := performEach ops e s
    ((r, e.handlers) :: rs, s)

/-- An operation that has been performed: who was called, what has been changed by it, how it ended
and who is subscribed then. -/
structure Turn (η α : Type) where
  operation : Operation η α
  calls : List (HandlerCall η Exception)
  changes : List (Change η)
  result : Except Exception Unit
  after : List η

/-- What an operation comes to when these handlers are subscribed. -/
inductive Happens (hs : List η) (s : σ) : Turn η α → σ → Prop
  | subscribe (h : η) : Happens hs s ⟨.subscribe h, [], [.added h], .ok (), hs ++ [h]⟩ s
  /-- The earliest subscription of the handler is removed. -/
  | unsubscribe {h : η} {pre post : List η} (hhs : hs = pre ++ h :: post) (hpre : h ∉ pre) :
      Happens hs s ⟨.unsubscribe h, [], [.removed h], .ok (), pre ++ post⟩ s
  | unsubscribeInVain {h : η} (hh : h ∉ hs) :
      Happens hs s
        ⟨.unsubscribe h, [], [], .error (.ofMessage "ValueError" notSubscribed), hs⟩ s
  | trigger {a : α} {cs : List (HandlerCall η Exception)} {r : Except Exception Unit} {hs' : List η}
      {s' : σ} (hup : UpToEscape hs cs r) (hcalls : Calls call a hs s cs hs' s') :
      Happens hs s ⟨.trigger a, cs, cs.flatMap HandlerCall.changes, r, hs'⟩ s'

/-- These operations have been performed one after the other. -/
inductive History : List η → σ → List (Turn η α) → σ → Prop
  | nil {hs : List η} {s : σ} : History hs s [] s
  | cons {hs : List η} {s s' u : σ} {t : Turn η α} {ts : List (Turn η α)}
      (ht : Happens call hs s t s') (hts : History t.after s' ts u) : History hs s (t :: ts) u

theorem perform_happens (op : Operation η α) (e : Event η) (s : σ) :
    ∃ t : Turn η α, t.operation = op ∧ t.result = (perform call op e s).1 ∧
      t.after = (perform call op e s).2.1.handlers ∧
      Happens call e.handlers s t (perform call op e s).2.2 := by
  cases op with
  | subscribe h => exact ⟨_, rfl, rfl, rfl, .subscribe h⟩
  | unsubscribe h =>
    by_cases hh : h ∈ e.handlers
    · obtain ⟨pre, post, hhs, hpre, herase⟩ := exists_earliest hh
      have hperform : perform call (.unsubscribe h) e s = (.ok (), ⟨pre ++ post⟩, s) := by
        simp only [perform, unsubscribe?, if_pos hh, herase]
      rw [hperform]
      exact ⟨_, rfl, rfl, rfl, .unsubscribe hhs hpre⟩
    · have hperform : perform call (.unsubscribe h) e s =
          (.error (.ofMessage "ValueError" notSubscribed), e, s) := by
        simp only [perform, unsubscribe?, if_neg hh]
      rw [hperform]
      exact ⟨_, rfl, rfl, rfl, .unsubscribeInVain hh⟩
  | trigger a =>
    obtain ⟨cs, hup, hcalls⟩ := callEach_calls call a e.handlers e s
    exact ⟨_, rfl, rfl, rfl, .trigger hup hcalls⟩

variable {call}

theorem Happens.after_eq {hs : List η} {s s' : σ} {t : Turn η α} (h : Happens call hs s t s') :
    t.after = replay t.changes hs := by
  cases h with
  | subscribe h => rfl
  | @unsubscribe h pre post hhs hpre =>
    rw [replay_cons, replay_nil, Change.apply, hhs, List.erase_append_right _ hpre, List.erase_cons_head]
  | unsubscribeInVain hh => rfl
  | trigger hup hcalls => exact hcalls.replay_eq

theorem History.after_eq {hs : List η} {s u : σ} {pre post : List (Turn η α)} {t : Turn η α}
    (h : History call hs s (pre ++ t :: post) u) :
    t.after = replay ((pre ++ [t]).flatMap Turn.changes) hs := by
  induction pre generalizing hs s with
  | nil =>
    cases h with
    | cons ht _ => simpa using ht.after_eq
  | cons first pre ih =>
    cases h with
    | cons hfirst hrest =>
      rw [List.cons_append, List.flatMap_cons, replay_append, ← hfirst.after_eq]
      exact ih hrest

theorem performEach_history (call : η → α → σ → Reaction η Exception × σ) (ops : List (Operation η α))
    (e : Event η) (s : σ) :
    ∃ ts : List (Turn η α), ts.map Turn.operation = ops ∧
      (performEach call ops e s).1 = ts.map (fun t => (t.result, t.after)) ∧
      History call e.handlers s ts (performEach call ops e s).2 := by
  induction ops generalizing e s with
  | nil => exact ⟨[], rfl, rfl, .nil⟩
  | cons op ops ih =>
    obtain ⟨t, hop, hresult, hafter, ht⟩ := perform_happens call op e s
    obtain ⟨ts, hops, hall, hts⟩ := ih (perform call op e s).2.1 (perform call op e s).2.2
    rw [← hafter] at hts
    refine ⟨t :: ts, by rw [List.map_cons, hop, hops], ?_, .cons ht hts⟩
    simp only [performEach, List.map_cons, hall, hresult, hafter]

/-- Whatever is asked of an event one after the other, and whatever its handlers do meanwhile, every
operation comes to what `Happens` says, and the subscriptions are then what all changes made so far
come to. -/
theorem performEach_replay (call : η → α → σ → Reaction η Exception × σ) (ops : List (Operation η α))
    (s : σ) :
    ∃ ts : List (Turn η α), ts.map Turn.operation = ops ∧
      (performEach call ops {} s).1 = ts.map (fun t => (t.result, t.after)) ∧
      History call [] s ts (performEach call ops {} s).2 ∧
      ∀ pre t post, ts = pre ++ t :: post → t.after = replay ((pre ++ [t]).flatMap Turn.changes) [] := by
  obtain ⟨ts, hops, hall, hts⟩ := performEach_history call ops {} s
  refine ⟨ts, hops, hall, hts, ?_⟩
  rintro pre t post rfl
  exact hts.after_eq

/-- The first handler replaces the second by a third. The second is still called, the third only the next
time. -/
example : performEach (fun h () log =>
      (if h = 1 then .unsubscribe 2 fun _ => .subscribe 3 .finish else .finish, log ++ [h]))
    [.subscribe 1, .subscribe 2, .trigger (), .trigger ()] {} [] =
      ([(.ok (), [1]), (.ok (), [1, 2]), (.ok (), [1, 3]), (.ok (), [1, 3, 3])], [1, 2, 1, 3]) := rfl

end Event

end

end Weave
