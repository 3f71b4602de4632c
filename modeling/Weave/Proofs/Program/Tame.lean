import Weave.Proofs.Console.Routes
import Weave.Proofs.Program.Sources
import Weave.Proofs.World.Tree

/-!
# Tame actions

What programs do to the world is little: they write, look for files, go to directories and change the
search path. They leave the files and the directories as they are, and their writes land one after the
other in the console. What the sources are called, how many there have been and which lines they have
makes no difference to them, nor does what has been printed before. The actions that programs are
composed of are of this kind, and so is what is composed of such actions.
-/

set_option autoImplicit false

namespace Weave

/-- A program has done no more to a world than to write, to look for files, to change its directory
and to change its search path. -/
structure World.Worked (w w' : World) : Prop where
  files : w'.files = w.files
  directories : w'.directories = w.directories
  console : ∃ ws, w'.console = w.console.writeAll ws

namespace World.Worked

theorem refl (w : World) : Worked w w := ⟨rfl, rfl, [], rfl⟩

theorem trans {u v w : World} (h : Worked u v) (h' : Worked v w) : Worked u w := by
  obtain ⟨xs, hx⟩ := h.console
  obtain ⟨ys, hy⟩ := h'.console
  refine ⟨h'.files.trans h.files, h'.directories.trans h.directories, xs ++ ys, ?_⟩
  rw [hy, hx, Console.writeAll_append]

theorem of_here (w : World) (names : List Text) : Worked w { w with here := names } :=
  ⟨rfl, rfl, [], rfl⟩

theorem of_want (w : World) (paths : List Path) : Worked w (w.want paths) :=
  ⟨rfl, rfl, [], rfl⟩

end World.Worked

namespace Program

variable {α β : Type}

/-! ### Runs on machines that know of other sources -/

/-- Two machines in one world that differ at most in what they know of the sources. -/
structure Twin (m n : Machine) : Prop where
  world : m.1 = n.1
  interpreter : Akin m.2 n.2

/-- Two ends that differ at most in where an exception is said to come from. -/
inductive SameEnd : Except Stop α → Except Stop α → Prop where
  | refl (r : Except Stop α) : SameEnd r r
  | raised (e : Exception) (trace trace' : List Frame) :
      SameEnd (.error (.raised e trace)) (.error (.raised e trace'))

/-- Two actions that go the same way on machines that differ in their sources only. -/
def Agree (p q : Run α) : Prop :=
  ∀ ⦃m n⦄, Twin m n → SameEnd (p m).1 (q n).1 ∧ Twin (p m).2 (q n).2

namespace Agree

variable {p q : Run α} {m n : Machine}

theorem ends (h : Agree p q) (hmn : Twin m n) :
    (∃ r m' n', p m = (r, m') ∧ q n = (r, n') ∧ Twin m' n') ∨
      ∃ e t t' m' n', p m = (.error (.raised e t), m') ∧ q n = (.error (.raised e t'), n') ∧
        Twin m' n' := by
  obtain ⟨hend, htwin⟩ := h hmn
  rcases hp : p m with ⟨r, m'⟩
  rcases hq : q n with ⟨r', n'⟩
  rw [hp, hq] at hend htwin
  cases hend with
  | refl => exact .inl ⟨r, m', n', rfl, rfl, htwin⟩
  | raised e t t' => exact .inr ⟨e, t, t', m', n', rfl, rfl, htwin⟩

theorem pure (a : α) : Agree (pure a) (pure a) := fun _ _ h => ⟨.refl _, h⟩

theorem fail (e : Stop) : Agree (Action.fail e : Run α) (Action.fail e) := fun _ _ h => ⟨.refl _, h⟩

theorem raiseAt (s s' : Span) (e : Exception) : Agree (Run.raiseAt s e : Run α) (Run.raiseAt s' e) :=
  fun _ _ h => ⟨.raised .., h⟩

theorem bind {f g : α → Run β} (h : Agree p q) (hf : ∀ a, Agree (f a) (g a)) :
    Agree (p >>= f) (q >>= g) := by
  intro m n hmn
  rcases h.ends hmn with ⟨r, m', n', hp, hq, ht⟩ | ⟨e, t, t', m', n', hp, hq, ht⟩
  · cases r with
    | ok a =>
      rw [Action.bind_ok hp, Action.bind_ok hq]
      exact hf a ht
    | error e =>
      rw [Action.bind_error hp, Action.bind_error hq]
      exact ⟨.refl _, ht⟩
  · rw [Action.bind_error hp, Action.bind_error hq]
    exact ⟨.raised .., ht⟩

theorem ask {f g : Interpreter → Run β} (h : ∀ i j, Akin i j → Agree (f i) (g j)) :
    Agree (Run.interpreter >>= f) (Run.interpreter >>= g) := fun m n hmn =>
  h m.2 n.2 hmn.interpreter hmn

theorem attempt {f g : Except Stop α → Run β} (h : Agree p q) (hf : ∀ r, Agree (f r) (g r))
    (hr : ∀ e t t', Agree (f (.error (.raised e t))) (g (.error (.raised e t')))) :
    Agree (Action.attempt p >>= f) (Action.attempt q >>= g) := by
  intro m n hmn
  rw [Action.bind_apply, Action.bind_apply, Action.attempt, Action.attempt]
  rcases h.ends hmn with ⟨r, m', n', hp, hq, ht⟩ | ⟨e, t, t', m', n', hp, hq, ht⟩
  · rw [hp, hq]
    exact hf r ht
  · rw [hp, hq]
    exact hr e t t' ht

theorem change {f g : Interpreter → Interpreter} (h : ∀ i j, Akin i j → Akin (f i) (g j)) :
    Agree (Run.changeInterpreter f) (Run.changeInterpreter g) := fun m n hmn =>
  ⟨.refl _, hmn.world, h m.2 n.2 hmn.interpreter⟩

theorem alloc {o o' : Object} (h : o.anywhere = o'.anywhere) :
    Agree (Run.alloc o) (Run.alloc o') := by
  intro m n hmn
  obtain ⟨hvalue, hakin⟩ := hmn.interpreter.alloc h
  refine ⟨?_, hmn.world, hakin⟩
  show SameEnd (.ok (m.2.alloc o).1) (.ok (n.2.alloc o').1)
  rw [hvalue]
  exact .refl _

theorem inScope {c d : Scope} (hc : c.anywhere = d.anywhere) (h : Agree p q) :
    Agree (Run.inScope c p) (Run.inScope d q) := by
  intro m n hmn
  obtain ⟨hend, htwin⟩ := @h (m.1, { m.2 with scope := c }) (n.1, { n.2 with scope := d })
    ⟨hmn.world, { hmn.interpreter with scope := hc }⟩
  exact ⟨hend, htwin.world, { htwin.interpreter with scope := hmn.interpreter.scope }⟩

/-- On whose behalf something is done shows in the trace only. -/
theorem under (f f' : Frame) (h : Agree p q) : Agree (Run.under f p) (Run.under f' q) := by
  intro m n hmn
  unfold Run.under Action.mapError
  rcases h.ends hmn with ⟨r, m', n', hp, hq, ht⟩ | ⟨e, t, t', m', n', hp, hq, ht⟩
  · rw [hp, hq]
    cases r with
    | ok a => exact ⟨.refl _, ht⟩
    | error stop =>
      cases stop with
      | raised e t => exact ⟨.raised .., ht⟩
      | _ => exact ⟨.refl _, ht⟩
  · rw [hp, hq]
    exact ⟨.raised .., ht⟩

end Agree

/-! ### What has been printed before -/

/-- An action that does the same on another console, and writes the same there. -/
def Heedless (p : Run α) : Prop :=
  ∀ m k, ∃ ws, (p m).2.1.console = m.1.console.writeAll ws ∧
    p (m.1.withConsole k, m.2) = ((p m).1, (p m).2.1.withConsole (k.writeAll ws), (p m).2.2)

namespace Heedless

variable {p : Run α}

/-- An action that neither writes nor looks at the world. -/
theorem of_still (h : ∀ w i, p (w, i) = ((p ({}, i)).1, w, (p ({}, i)).2.2)) : Heedless p := by
  rintro ⟨w, i⟩ k
  rw [h w i, h (w.withConsole k) i]
  exact ⟨[], rfl, rfl⟩

theorem bind {f : α → Run β} (hp : Heedless p) (hf : ∀ a, Heedless (f a)) : Heedless (p >>= f) := by
  intro m k
  obtain ⟨ws, hconsole, hm⟩ := hp m k
  rw [Action.bind_apply, Action.bind_apply, hm]
  rcases hpm : p m with ⟨e | a, t⟩
  · rw [hpm] at hconsole
    exact ⟨ws, hconsole, rfl⟩
  · rw [hpm] at hconsole
    obtain ⟨ws', hconsole', ht⟩ := hf a t (k.writeAll ws)
    refine ⟨ws ++ ws', ?_, ?_⟩
    · rw [hconsole', hconsole, Console.writeAll_append]
    · rw [Console.writeAll_append]
      exact ht

theorem of_ends {q : Run β} (hp : Heedless p) (g : Except Stop α → Except Stop β)
    (hq : ∀ m, q m = (g (p m).1, (p m).2)) : Heedless q := by
  intro m k
  obtain ⟨ws, hconsole, hm⟩ := hp m k
  rw [hq, hq, hm]
  exact ⟨ws, hconsole, rfl⟩

theorem attempt {f : Except Stop α → Run β} (hp : Heedless p) (hf : ∀ r, Heedless (f r)) :
    Heedless (Action.attempt p >>= f) := by
  have htried : Heedless (Action.attempt p : Run (Except Stop α)) := hp.of_ends .ok fun m => rfl
  exact htried.bind hf

theorem inScope {c : Scope} (hp : Heedless p) : Heedless (Run.inScope c p) := by
  intro m k
  obtain ⟨ws, hconsole, hm⟩ := hp (m.1, { m.2 with scope := c }) k
  refine ⟨ws, hconsole, ?_⟩
  unfold Run.inScope
  rw [hm]

end Heedless

/-! ### Tame actions -/

/-- An action that does to the world only what programs do, however it ends, and for which it makes no
difference what the sources are and what has been printed. -/
class Tame (p : Run α) : Prop where
  worked : ∀ m, World.Worked m.1 (p m).2.1
  agrees : Agree p p
  heedless : Heedless p

theorem Tame.worked_of_eq {p : Run α} (hp : Tame p) {m t : Machine} {r : Except Stop α}
    (h : p m = (r, t)) : World.Worked m.1 t.1 := by
  have hm := hp.worked m
  rwa [h] at hm

namespace Tame

theorem agrees_of_eq {p q : Run α} (hq : Tame q) (h : p = q) : Agree p q := h ▸ hq.agrees

instance pure (a : α) : Tame (pure a : Run α) := ⟨fun m => .refl m.1, .pure a, .of_still fun _ _ => rfl⟩

instance fail (e : Stop) : Tame (Action.fail e : Run α) :=
  ⟨fun m => .refl m.1, .fail e, .of_still fun _ _ => rfl⟩

theorem worked_bind {p : Run α} {f : α → Run β} (hp : Tame p)
    (hf : ∀ a m, World.Worked m.1 (f a m).2.1) (m : Machine) :
    World.Worked m.1 ((p >>= f) m).2.1 := by
  rw [Action.bind_apply]
  split
  next a t hm => exact (hp.worked_of_eq hm).trans (hf a t)
  next e t hm => exact hp.worked_of_eq hm

theorem andThen {p : Run α} {f : α → Run β} (hp : Tame p) (hf : ∀ a, Tame (f a)) :
    Tame (p >>= f) :=
  ⟨hp.worked_bind fun a => (hf a).worked, hp.agrees.bind fun a => (hf a).agrees,
    hp.heedless.bind fun a => (hf a).heedless⟩

instance bind (p : Run α) (f : α → Run β) [hp : Tame p] [hf : ∀ a, Tame (f a)] : Tame (p >>= f) :=
  hp.andThen hf

/-- What is asked of the interpreter may depend on the sources, if what is done then does not. -/
theorem askAgree {f : Interpreter → Run β} (hf : ∀ i, Tame (f i))
    (h : ∀ i j, Akin i j → f i = f j ∨ Agree (f i) (f j)) : Tame (Run.interpreter >>= f) :=
  ⟨fun m => (hf m.2).worked m, .ask fun i j hij => (h i j hij).elim (hf j).agrees_of_eq id,
    fun m => (hf m.2).heedless m⟩

theorem ask {f : Interpreter → Run β} (hf : ∀ i, Tame (f i)) (h : ∀ i j, Akin i j → f i = f j) :
    Tame (Run.interpreter >>= f) :=
  askAgree hf fun i j hij => .inl (h i j hij)

/-- How an action has failed may depend on the sources, if what is done then does not. -/
theorem attemptAgree {p : Run α} {f : Except Stop α → Run β} (hp : Tame p) (hf : ∀ r, Tame (f r))
    (hr : ∀ e t t', Agree (f (.error (.raised e t))) (f (.error (.raised e t')))) :
    Tame (Action.attempt p >>= f) :=
  ⟨fun m => (hp.worked m).trans ((hf (p m).1).worked (p m).2),
    hp.agrees.attempt (fun r => (hf r).agrees) hr, hp.heedless.attempt fun r => (hf r).heedless⟩

theorem attempt {p : Run α} {f : Except Stop α → Run β} (hp : Tame p) (hf : ∀ r, Tame (f r))
    (hr : ∀ e t t', f (.error (.raised e t)) = f (.error (.raised e t'))) :
    Tame (Action.attempt p >>= f) :=
  attemptAgree hp hf fun e t t' => (hf _).agrees_of_eq (hr e t t')

instance map (f : α → β) (p : Run α) [Tame p] : Tame (f <$> p) := by
  rw [map_eq_pure_bind]
  infer_instance

theorem forEach {f : α → Run β} (hf : ∀ a, Tame (f a)) (as : List α) :
    Tame (Action.each f as) := by
  induction as with
  | nil => exact pure []
  | cons a as ih => exact (hf a).andThen fun b => ih.andThen fun bs => pure (b :: bs)

instance each (f : α → Run β) (as : List α) [hf : ∀ a, Tame (f a)] : Tame (Action.each f as) :=
  forEach hf as

instance cond (c : Prop) [Decidable c] (p q : Run α) [Tame p] [Tame q] :
    Tame (if c then p else q) := by
  split <;> infer_instance

end Tame

namespace Run

/-! ### The actions that programs are composed of -/

theorem tame_changeInterpreter {f : Interpreter → Interpreter}
    (h : ∀ i j, Akin i j → Akin (f i) (f j)) : Tame (changeInterpreter f) :=
  ⟨fun m => .refl m.1, .change h, .of_still fun _ _ => rfl⟩

instance tame_become (i : Interpreter) : Tame (changeInterpreter fun _ => i) :=
  tame_changeInterpreter fun _ _ _ => .refl i

instance tame_bind (n : Text) (v : Value) : Tame (changeInterpreter (bind n v)) :=
  tame_changeInterpreter fun _ _ h => h.bind n v

theorem tame_changeModules (f : Dictionary (Dictionary Value) → Dictionary (Dictionary Value)) :
    Tame (changeInterpreter fun i => { i with modules := f i.modules }) :=
  tame_changeInterpreter fun _ _ h => { h with modules := congrArg f h.modules }

instance tame_alloc (o : Object) : Tame (alloc o) :=
  ⟨fun m => .refl m.1, .alloc rfl, .of_still fun _ _ => rfl⟩

instance tame_raiseAt (s : Span) (e : Exception) : Tame (raiseAt s e : Run α) :=
  ⟨fun m => .refl m.1, .raiseAt s s e, .of_still fun _ _ => rfl⟩

instance tame_orRaise (s : Span) (x : Except Exception α) : Tame (orRaise s x) := by
  cases x with
  | ok a => exact Tame.pure a
  | error e => exact tame_raiseAt s e

instance tame_exhausted : Tame (exhausted : Run α) := Tame.fail _

instance tame_inScope (c : Scope) (p : Run α) [hp : Tame p] : Tame (inScope c p) :=
  ⟨fun m => hp.worked (m.1, { m.2 with scope := c }), .inScope rfl hp.agrees,
    hp.heedless.inScope⟩

instance tame_under (f : Frame) (p : Run α) [hp : Tame p] : Tame (under f p) := by
  refine ⟨fun m => ?_, .under f f hp.agrees, ?_⟩
  · unfold under Action.mapError
    split
    next a t hm => exact hp.worked_of_eq hm
    next e t hm => exact hp.worked_of_eq hm
  · refine hp.heedless.of_ends (Except.mapError fun stop => match stop with
      | .raised e trace => .raised e (f :: trace)
      | e => e) fun m => ?_
    unfold under Action.mapError
    rcases p m with ⟨(_ | _ | _ | _ | _) | _, t⟩ <;> rfl

instance tame_write (s : Stream) (t : Text) : Tame (write s t) := by
  refine ⟨fun m => ⟨rfl, rfl, [(m.2.scope.thread, ⟨s, t⟩)], rfl⟩, fun m n h => ⟨.refl _, ?_, ?_⟩,
    fun m k => ⟨[(m.2.scope.thread, ⟨s, t⟩)], rfl, rfl⟩⟩
  · simp only [write, h.world, Scope.thread_eq h.interpreter.scope]
  · exact h.interpreter

/-- What is done then may depend on the world, but not on its console. -/
theorem tame_askWorld {f : World → Run β} (hf : ∀ w, Tame (f w)) (h : ∀ w k, f (w.withConsole k) = f w) :
    Tame (world >>= f) where
  worked m := (hf m.1).worked m
  agrees m n hmn := by
    show SameEnd (f m.1 m).1 (f n.1 n).1 ∧ Twin (f m.1 m).2 (f n.1 n).2
    rw [hmn.world]
    exact (hf n.1).agrees hmn
  heedless m k := by
    obtain ⟨ws, hconsole, hm⟩ := (hf m.1).heedless m k
    refine ⟨ws, hconsole, ?_⟩
    show f (m.1.withConsole k) (m.1.withConsole k, m.2) = _
    rw [h]
    exact hm

theorem tame_lookFor {paths : List Path} {f : World → Run β} (hf : ∀ w, Tame (f w))
    (h : ∀ w k, f (w.withConsole k) = f w) : Tame (lookFor (fun _ => paths) >>= f) where
  worked m := (World.Worked.of_want m.1 paths).trans ((hf (m.1.want paths)).worked (m.1.want paths, m.2))
  agrees m n hmn := by
    show SameEnd (f (m.1.want paths) (m.1.want paths, m.2)).1 (f (n.1.want paths) (n.1.want paths, n.2)).1 ∧
      Twin (f (m.1.want paths) (m.1.want paths, m.2)).2 (f (n.1.want paths) (n.1.want paths, n.2)).2
    rw [hmn.world]
    exact (hf (n.1.want paths)).agrees ⟨rfl, hmn.interpreter⟩
  heedless m k := by
    obtain ⟨ws, hconsole, hm⟩ := (hf (m.1.want paths)).heedless (m.1.want paths, m.2) k
    refine ⟨ws, hconsole, ?_⟩
    have hwant : (m.1.withConsole k).want paths = (m.1.want paths).withConsole k := rfl
    show f ((m.1.withConsole k).want paths) ((m.1.withConsole k).want paths, m.2) = _
    rw [hwant, h]
    exact hm

end Run

end Program

end Weave
