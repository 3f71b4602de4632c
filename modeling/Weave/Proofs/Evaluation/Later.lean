import Weave.Proofs.Evaluation.Calls
import Weave.Proofs.Program.Snippets

/-!
# What later calls return

A call that has failed leaves the session as its executed code left it, and the note that there was
another source. What later calls return depends on that note only where programs look at it. If they
do not, a snippet that is refused before anything of it has been run leaves no trace at all.
-/

set_option autoImplicit false

namespace Weave

open Evaluator (directory)
open Threads (Call)

variable {τ κ χ ν ε η α β : Type} {session : Session τ} {akin : τ → τ → Prop}

/-! ### Sessions that take no notice -/

/-- Two ends that make no difference to those who have asked: the same is returned, or the same goes
on, or both times a snippet has failed. -/
inductive SameFate : Except Halt α → Except Halt α → Prop where
  | refl (r : Except Halt α) : SameFate r r
  | failed (text text' : Text) (cause cause' : Exception) (errorText errorText' : Text) :
      SameFate (.error (.failed text cause errorText)) (.error (.failed text' cause' errorText'))

/-- The world is the same and the states are akin. -/
structure Same (akin : τ → τ → Prop) (s t : World × τ) : Prop where
  world : s.1 = t.1
  state : akin s.2 t.2

/-- An action that does the same on akin states. -/
def Blind (akin : τ → τ → Prop) (p : Action (World × τ) Halt α) : Prop :=
  ∀ s t, Same akin s t → SameFate (p s).1 (p t).1 ∧ Same akin (p s).2 (p t).2

namespace Blind

theorem ofExcept (r : Except Halt α) : Blind akin (Action.ofExcept r) := by
  intro s t h
  cases r <;> exact ⟨.refl _, h⟩

theorem bind {p : Action (World × τ) Halt α} {f : α → Action (World × τ) Halt β} (hp : Blind akin p)
    (hf : ∀ a, Blind akin (f a)) : Blind akin (p >>= f) := by
  intro s t h
  obtain ⟨hfate, hsame⟩ := hp s t h
  rcases hps : p s with ⟨r, s'⟩
  rcases hpt : p t with ⟨r', t'⟩
  rw [hps, hpt] at hfate hsame
  cases hfate with
  | refl =>
    cases r with
    | error x =>
      rw [Action.bind_error hps, Action.bind_error hpt]
      exact ⟨.refl _, hsame⟩
    | ok a =>
      rw [Action.bind_ok hps, Action.bind_ok hpt]
      exact hf a s' t' hsame
  | failed =>
    rw [Action.bind_error hps, Action.bind_error hpt]
    exact ⟨.failed .., hsame⟩

/-- Coming back from a directory is a matter of the world alone. -/
theorem inDirectory {p : Action (World × τ) Halt α} (hp : Blind akin p) (names : List Text) :
    Blind akin (Session.inDirectory names p) := by
  rintro ⟨w, t⟩ ⟨_, u⟩ ⟨rfl, hakin⟩
  cases hvisit : w.visit names with
  | error e =>
    simp only [Session.inDirectory, hvisit]
    exact ⟨.refl _, rfl, hakin⟩
  | ok v =>
    obtain ⟨hfate, hworld, hstate⟩ := hp (v, t) (v, u) ⟨rfl, hakin⟩
    rcases hpt : p (v, t) with ⟨r, x, t'⟩
    rcases hpu : p (v, u) with ⟨r', y, u'⟩
    rw [hpt, hpu] at hfate hworld hstate
    obtain rfl : x = y := hworld
    rw [Session.inDirectory_of_visit (s := (w, t)) hvisit hpt,
      Session.inDirectory_of_visit (s := (w, u)) hvisit hpu]
    dsimp only
    rcases x.depart names w.here with ⟨e | _, z⟩
    · exact ⟨.refl _, rfl, hstate⟩
    · exact ⟨hfate, rfl, hstate⟩

end Blind

/-- A session that does the same on akin states, whatever it is asked for. -/
structure Session.Unaware (session : Session τ) (akin : τ → τ → Prop) : Prop where
  run (text : Text) (file : Option Path) : Blind akin (session.run text file)
  eval (text : Text) (file : Option Path) : Blind akin (session.eval text file)
  lastValue {t u : τ} (h : akin t u) :
    (session.lastValue t).1 = (session.lastValue u).1 ∧ akin (session.lastValue t).2 (session.lastValue u).2

/-- States are akin that differ only in what is known of the sources, and snippets do the same on
both. -/
structure Engine.Unaware (E : Engine τ κ χ ν ε) (akin : τ → τ → Prop) : Prop
    extends E.session.Unaware akin where
  register (text read : Text) (file : Option Path) (t : τ) : akin (E.register text read file t) t

/-- The snippet of a call is refused before anything of it is run, and this can be said without any
change. -/
def Engine.Refuses (E : Engine τ κ χ ν ε) (c : Call) (m : World × τ) : Prop :=
  ∃ e, E.ended c m = (.error e, E.begun c m) ∧
    ∀ x k, E.Halts c.text (E.nextSource c.file m.2) e (E.begun c m) x k → closed k = closed (E.begun c m)

namespace Evaluator

/-- Two workshops that differ at most in what has been told and in what the sessions know of the
sources. -/
structure Alike (akin : τ → τ → Prop) (s t : Workshop τ η) : Prop where
  world : s.1 = t.1
  session : akin s.2.session t.2.session
  failed : s.2.failed = t.2.failed

theorem Alike.refl (h : ∀ t, akin t t) (s : Workshop τ η) : Alike akin s s := ⟨rfl, h _, rfl⟩

theorem blind_workInDirectory (h : session.Unaware akin) (c : Call) :
    Blind akin (workInDirectory session c.text c.asExpression c.file) := by
  have hlookUp : Blind akin (lookUp session) := by
    rintro ⟨w, t⟩ ⟨_, u⟩ ⟨rfl, hakin⟩
    obtain ⟨hvalue, hstate⟩ := h.lastValue hakin
    refine ⟨?_, rfl, hstate⟩
    show SameFate (.ok (session.lastValue t).1) (.ok (session.lastValue u).1)
    rw [hvalue]
    exact .refl _
  have hwork : Blind akin (work session c.text c.asExpression c.file) := by
    unfold work
    split
    · exact (h.eval c.text c.file).bind fun a => .ofExcept (.ok _)
    · exact (h.run c.text c.file).bind fun output => hlookUp.bind fun v => .ofExcept (.ok _)
  rintro ⟨w, t⟩ ⟨_, u⟩ ⟨rfl, hakin⟩
  exact hwork.inDirectory (directory c.file w) (w, t) (w, u) ⟨rfl, hakin⟩

/-- A snippet that is refused leaves nothing but the note that there was another source. -/
theorem Alike.of_refused {E : Engine τ κ χ ν ε} (hu : E.Unaware akin) {c : Call} {s : Workshop τ η}
    (hp : InPlace c s.1) (h : E.Refuses c (machine s)) :
    Alike akin (inSession (workInDirectory E.session c.text c.asExpression c.file) s).2 s := by
  obtain ⟨e, hended, hquiet⟩ := h
  obtain ⟨r, n, hcomes, hback, -⟩ := inSession_comes (E := E) hp
  have hn : n = closed (E.begun c (machine s)) := by
    cases hcomes with
    | ran hc h => rw [hended] at h; cases h
    | evaluated hc h => rw [hended] at h; cases h
    | @halted n k e' x h hx =>
      rw [hended] at h
      cases h
      exact hquiet x k hx
  have hreturn : CanReturn c s.1 n.1 := by
    have hstands : n.1.Stands s.1.here := by
      subst hn
      exact hp.here.congr rfl rfl
    refine World.depart_eq_ok hstands ?_
    subst hn
    exact List.mem_cons_self
  rw [hback hreturn]
  subst hn
  refine ⟨?_, hu.register c.text _ c.file s.2.session, rfl⟩
  show ({ s.1 with
    here := s.1.here
    searchPath := (World.nameOf (directory c.file s.1) :: s.1.searchPath).erase
      (World.nameOf (directory c.file s.1)) } : World) = s.1
  rw [List.erase_cons_head]

variable [DecidableEq η] {listening : Listening η}

/-! ### The same calls on two workshops -/

/-- Two failures are announced on two such workshops, and nothing else becomes different by that if
those who listen do the same on both. -/
theorem Alike.said (hl : Settled listening) {s t : Workshop τ η} (h : Alike akin s t) (f f' : Failure) :
    ∃ u v, announce listening f s = (.ok (), u) ∧ announce listening f' t = (.ok (), v) ∧
      ((∀ x w, listening x f w = listening x f' w) → Alike akin u v) := by
  obtain ⟨failed, hs⟩ := announce_of_settled hl f s.1 s.2
  obtain ⟨failed', ht⟩ := announce_of_settled hl f' t.1 t.2
  refine ⟨_, _, hs, ht, fun hf => ?_⟩
  obtain ⟨hworld, hfailed⟩ := announce_congr hf h.world h.failed
  rw [hs, ht] at hworld hfailed
  exact ⟨hworld, h.session, hfailed⟩

theorem answer_alike (hu : session.Unaware akin) (hl : Settled listening) (c : Call) {s t : Workshop τ η}
    (h : Alike akin s t) :
    (answer session listening c s).1 = (answer session listening c t).1 ∧
      (Unmoved listening → Alike akin (answer session listening c s).2 (answer session listening c t).2) := by
  obtain ⟨hfate, hsame⟩ := blind_workInDirectory hu c (s.1, s.2.session) (t.1, t.2.session)
    ⟨h.world, h.session⟩
  rcases hs : workInDirectory session c.text c.asExpression c.file (s.1, s.2.session) with ⟨r, w, x⟩
  rcases ht : workInDirectory session c.text c.asExpression c.file (t.1, t.2.session) with ⟨r', w', y⟩
  rw [hs, ht] at hfate hsame
  have hins : inSession (workInDirectory session c.text c.asExpression c.file) s =
      (r, w, { s.2 with session := x }) := by rw [inSession, hs]
  have hint : inSession (workInDirectory session c.text c.asExpression c.file) t =
      (r', w', { t.2 with session := y }) := by rw [inSession, ht]
  have hafter : Alike akin (w, { s.2 with session := x }) (w', { t.2 with session := y }) :=
    ⟨hsame.world, hsame.state, h.failed⟩
  rw [answer_apply, answer_apply, hins, hint]
  cases hfate with
  | refl =>
    rcases r with (⟨text, cause, errorText⟩ | e) | o
    · obtain ⟨x', y', hx, hy, halike⟩ := hafter.said hl
        ⟨c.text, c.asExpression, c.file, cause, errorText⟩ ⟨c.text, c.asExpression, c.file, cause, errorText⟩
      dsimp only at hx hy ⊢
      rw [hx, hy]
      exact ⟨rfl, fun _ => halike fun _ _ => rfl⟩
    · exact ⟨rfl, fun _ => hafter⟩
    · exact ⟨rfl, fun _ => hafter⟩
  | failed text text' cause cause' errorText errorText' =>
    obtain ⟨x', y', hx, hy, halike⟩ := hafter.said hl
      ⟨c.text, c.asExpression, c.file, cause, errorText⟩ ⟨c.text, c.asExpression, c.file, cause', errorText'⟩
    dsimp only at hx hy ⊢
    rw [hx, hy]
    exact ⟨rfl, fun hun => halike fun x w => hun x _ _ w rfl rfl rfl⟩

theorem answerAll_alike (hu : session.Unaware akin) (hl : Settled listening) (hun : Unmoved listening)
    (cs : List Call) {s t : Workshop τ η} (h : Alike akin s t) :
    (answerAll session listening cs s).1 = (answerAll session listening cs t).1 := by
  induction cs generalizing s t with
  | nil => rfl
  | cons c cs ih =>
    obtain ⟨hr, hs⟩ := answer_alike hu hl c h
    simp only [answerAll, hr, ih (hs hun)]

/-- What is called next returns the same in two workshops, and so does what is called after that, unless
those who listen make a difference. -/
structure SameLater (session : Session τ) (listening : Listening η) (s t : Workshop τ η) : Prop where
  next (c : Call) : (answer session listening c s).1 = (answer session listening c t).1
  all (hun : Unmoved listening) (later : List Call) :
    (answerAll session listening later s).1 = (answerAll session listening later t).1

/-- Every call of a sequence is answered: with an outcome where its snippet comes to its end; where it
fails, with an empty outcome and an announcement if and only if the exception can be shown and
written; and with an exception of its own where the snippet has barred the way back. Whichever it is,
the session is left as the executed statements have left it, and with the note that there was another
source. Where sessions take no notice of that note, what later calls return depends on the rest alone;
so a snippet that is refused before anything of it has been run changes nothing for them. -/
theorem answeredEach_answerAll (E : Engine τ κ χ ν ε) (listening : Listening η) (hl : Settled listening)
    (cs : List Call) (s : Workshop τ η) (hp : InPlaceEach E.session listening cs s) :
    AnsweredEach E listening cs s (answerAll E.session listening cs s).1
        (answerAll E.session listening cs s).2 ∧
      (E.LooksUp → ∀ m, E.tryEval lastName m = (.ok (E.session.lastValue m.2).1, m)) ∧
      ∀ akin, E.Unaware akin →
        (∀ t, Alike akin (answerAll E.session listening cs s).2 t →
          SameLater E.session listening (answerAll E.session listening cs s).2 t) ∧
        ∀ c, InPlace c s.1 → E.Refuses c (machine s) →
          Alike akin (inSession (workInDirectory E.session c.text c.asExpression c.file) s).2 s :=
  ⟨answeredEach_of_inPlaceEach hl hp, Engine.LooksUp.tryEval, fun _ hu =>
    ⟨fun _ ht => ⟨fun c => (answer_alike hu.toUnaware hl c ht).1,
      fun hun later => answerAll_alike hu.toUnaware hl hun later ht⟩,
    fun _ hc h => .of_refused hu hc h⟩⟩

end Evaluator

/-! ### Sessions that run programs -/

namespace Program

theorem Twin.opened {m n : Machine} (h : Twin m n) (text read : Text) (file : Option Path) :
    Twin (openCapture (m.1, engine.register text read file m.2))
      (openCapture (n.1, engine.register text read file n.2)) :=
  ⟨congrArg (fun w : World => { w with console := w.console.openCapture 0 }) h.world,
    { h.interpreter with }⟩

theorem Twin.closed {m n : Machine} (h : Twin m n) :
    held m = held n ∧ Same Akin (Weave.closed m) (Weave.closed n) := by
  refine ⟨by rw [held, held, h.world], ?_, h.interpreter⟩
  rw [Weave.closed, Weave.closed, h.world]

/-- Two ends of programs are the same to those who have run them if they are the same to those
programs. -/
theorem sameFate_halted {α : Type} {stop stop' : Stop} (h : stop.escaping = stop'.escaping)
    (text source source' : Text) (m n : Machine) :
    Weave.SameFate (.error (halted text source stop m) : Except Halt α)
      (.error (halted text source' stop' n)) := by
  rw [halted, halted, h]
  cases stop'.escaping with
  | none => exact .failed ..
  | some x => exact .refl _

/-- Programs take no notice of how many snippets there have been, nor of what is known of them. -/
theorem engine_unaware : engine.Unaware Akin where
  run text file := by
    intro s t h
    rw [show engine.session.run text file s = _ from run_apply text file s,
      show engine.session.run text file t = _ from run_apply text file t]
    rcases (similar_statements (engine.nextSource file s.2) (engine.nextSource file t.2) text).ends
      (Twin.opened ⟨h.world, h.state⟩ text text file)
      with ⟨u, m, n, hm, hn, htwin⟩ | ⟨e, e', m, n, hm, hn, he, htwin⟩
    · rw [statements, statements, hm, hn]
      dsimp only
      rw [htwin.closed.1]
      exact ⟨.refl _, htwin.closed.2⟩
    · rw [statements, statements, hm, hn]
      exact ⟨sameFate_halted he _ _ _ m n, htwin.closed.2⟩
  eval text file := by
    intro s t h
    rw [show engine.session.eval text file s = _ from eval_apply text file s,
      show engine.session.eval text file t = _ from eval_apply text file t]
    rcases (similar_expression (engine.nextSource file s.2) (engine.nextSource file t.2) (Text.trim text)).ends
      (Twin.opened ⟨h.world, h.state⟩ text (Text.trim text) file)
      with ⟨v, m, n, hm, hn, htwin⟩ | ⟨e, e', m, n, hm, hn, he, htwin⟩
    · rw [hm, hn]
      dsimp only
      rw [htwin.closed.1]
      exact ⟨.refl _, htwin.closed.2⟩
    · rw [hm, hn]
      exact ⟨sameFate_halted he _ _ _ m n, htwin.closed.2⟩
  lastValue {i j} h := by
    refine ⟨?_, h⟩
    show (i.names.get? lastName).map TypedValue.of = (j.names.get? lastName).map TypedValue.of
    rw [h.names]
  register text read file i := ⟨rfl, rfl, rfl, rfl, rfl, rfl⟩

/-- An expression that cannot be read is refused before anything is evaluated. -/
theorem refuses_of_unreadable {text : Text} {f : Misreading}
    (h : ∀ source, expression source (Text.trim text) = refuseReading source f) (file : Option Path)
    (m : Machine) : engine.Refuses ⟨text, true, file⟩ m := by
  have hended : engine.ended ⟨text, true, file⟩ m =
      (some <$> expression (engine.nextSource file m.2) (Text.trim text))
        (engine.begun ⟨text, true, file⟩ m) := rfl
  rw [h] at hended
  refine ⟨_, hended, fun x k hx => ?_⟩
  have hopen : Captures { m.1 with
      here := directory file m.1
      searchPath := World.nameOf (directory file m.1) :: m.1.searchPath }
      (engine.begun ⟨text, true, file⟩ m).1 [] := captures_iff.mpr rfl
  exact (eq_halted hopen hx).2

end Program

namespace Evaluator

open Program (engine)

theorem inPlace_root {c : Call} {w : World} (hc : c.file = none) (hw : w.here = []) : InPlace c w := by
  have hd : directory c.file w = [] := by rw [hc]; exact hw
  exact ⟨hd ▸ World.stands_root w, hw ▸ World.stands_root w⟩

theorem inPlaceEach_root [DecidableEq η] {session : Session τ} {listening : Listening η} {cs : List Call}
    {s : Workshop τ η} (hfile : ∀ c ∈ cs, c.file = none)
    (hhere : ∀ n ≤ cs.length, (answerAll session listening (cs.take n) s).2.1.here = []) :
    InPlaceEach session listening cs s := by
  induction cs generalizing s with
  | nil => trivial
  | cons c cs ih =>
    refine ⟨inPlace_root (hfile c List.mem_cons_self) (hhere 0 (Nat.zero_le _)), ih ?_ fun n hn => ?_⟩
    · exact fun d hd => hfile d (List.mem_cons_of_mem c hd)
    · have h := hhere (n + 1) (Nat.succ_le_succ hn)
      rwa [List.take_succ_cons] at h

def attentive : Listening Unit := fun _ _ w => (.finish, w)

def attended : Workshop Program.Interpreter Unit := ({}, { session := {}, failed := ⟨[()]⟩ })

def refused : Call := ⟨[')'], true, none⟩

/-- After two calls that fail and are announced, and one that fails and cannot be, statements print a
line and leave a value, from which another is made. -/
def firstCalls : List Call :=
  [refused, ⟨['x'], true, none⟩, ⟨"raise ValueError(10 ** 5000)".toList, false, none⟩,
    ⟨"print(2)\n1".toList, false, none⟩, ⟨"_ + 2".toList, true, none⟩]

theorem refuses_refused (m : World × Program.Interpreter) : engine.Refuses refused m := by
  have hread : (Program.readExpression [')']).toBool = false := by decide +kernel
  cases h : Program.readExpression [')'] with
  | ok e => simp [h, Except.toBool] at hread
  | error f =>
    refine Program.refuses_of_unreadable (f := f) (fun source => ?_) none m
    have hexpression : Program.expression source [')'] =
        Program.Run.inScope { source } (Program.readOrRaise source (Program.readExpression [')']) >>=
          Program.evalWhole source) := rfl
    rw [show Text.trim [')'] = [')'] by decide, hexpression, h]
    rfl

theorem answerAll_firstCalls :
    Settled attentive ∧ InPlaceEach engine.session attentive firstCalls attended ∧
      AnsweredEach engine attentive firstCalls attended
        (answerAll engine.session attentive firstCalls attended).1
        (answerAll engine.session attentive firstCalls attended).2 ∧
      (∀ m, engine.tryEval lastName m = (.ok (engine.session.lastValue m.2).1, m)) ∧
      Alike Program.Akin (inSession (workInDirectory engine.session [')'] true none) attended).2 attended ∧
      SameLater engine.session attentive (answerAll engine.session attentive firstCalls attended).2
        (answerAll engine.session attentive firstCalls attended).2 ∧
      ((answerAll engine.session attentive firstCalls attended).1.map fun r =>
        r.toOption.map fun o =>
          (o.output, o.itValue.map fun v => v.value.written, o.result.map fun v => v.value.written))
          = [some (none, none, none), some (none, none, none), none, some (some "2\n".toList, some ['1'], none),
            some (some [], none, some ['3'])] ∧
      ((answerAll engine.session attentive firstCalls attended).2.2.told.map fun t => t.2.text)
        = [[')'], ['x']] := by
  have hl : Settled attentive := fun _ _ _ => trivial
  have hplace : InPlaceEach engine.session attentive firstCalls attended :=
    inPlaceEach_root (by decide) (by decide +kernel)
  obtain ⟨heach, hlast, hlater⟩ := answeredEach_answerAll engine attentive hl firstCalls attended hplace
  obtain ⟨hsame, hrefused⟩ := hlater Program.Akin Program.engine_unaware
  refine ⟨hl, hplace, heach, hlast Program.engine_looksUp,
    hrefused refused (inPlace_root rfl rfl) (refuses_refused _), ?_, ?_⟩
  · exact hsame _ (Alike.refl Program.Akin.refl _)
  · decide +kernel

end Evaluator

end Weave
