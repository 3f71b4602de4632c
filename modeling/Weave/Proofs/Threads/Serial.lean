import Weave.Proofs.Threads.Progress
import Weave.Proofs.Threads.Sessions

/-!
# Calls at once

Calls that are made at once come to what they come to one after another, in the order in which they
get the lock. What those who listen do is left out of the order: they are told when the lock has been
released, and who of them is still subscribed by then depends on the schedule. So a call whose failure
is announced returns an empty outcome or raises what one of them raises; everything else is as it
would be in turn.
-/

set_option autoImplicit false

namespace Weave.Threads

variable {τ η : Type} {same : World → World → Prop} {session : Session τ}
  {listening : Listening η} {stage : Stage} {c : Call} {s : Workshop τ η} {calls : List Call}
  {order : List Nat} {r r' : Except Exception Outcome}

theorem Crew.results_eq_some {crew : Crew τ η} {k : Nat} : crew.results[k]? = some (some r) ↔
    ∃ t, crew.threads[k]? = some t ∧ t.stage = .finished r := by
  rw [results, List.getElem?_map, Option.map_eq_some_iff]
  refine exists_congr fun t => and_congr_right fun _ => ?_
  cases t.stage <;> simp

/-! ### What a call returns of its own -/

/-- What a call returns whose snippet comes to its end: what the session prints for it, and its value
or the last value that the session has then. -/
inductive Call.Returns (session : Session τ) (c : Call) (s : World × τ) : Outcome → Prop
  | statements {w : World} {output : Text} {n : World × τ} (hc : c.asExpression = false)
      (hw : s.1.visit (Evaluator.directory c.file s.1) = .ok w)
      (h : session.run c.text c.file (w, s.2) = (.ok output, n)) :
      Returns session c s { output := some output, itValue := (session.lastValue n.2).1 }
  | expression {w : World} {output : Text} {v : TypedValue} {n : World × τ} (hc : c.asExpression = true)
      (hw : s.1.visit (Evaluator.directory c.file s.1) = .ok w)
      (h : session.eval c.text c.file (w, s.2) = (.ok (output, v), n)) :
      Returns session c s { output := some output, result := some v }

theorem leaving_eq_ok {α : Type} {names previous : List Text} {p : Action (World × τ) Halt α} {s : World × τ}
    {a : α} (h : (leaving names previous p s).1 = .ok a) : (p s).1 = .ok a := by
  unfold leaving Action.andFinally at h
  rcases hp : p s with ⟨r, t⟩
  rw [hp] at h
  dsimp only at h ⊢
  split at h
  · exact h
  · cases h

theorem Call.returns_of_alone {o : Outcome} {s : World × τ} (h : (c.alone session s).1 = .ok o) :
    c.Returns session s o := by
  unfold alone Evaluator.workInDirectory at h
  rw [inDirectory_apply] at h
  cases hw : s.1.visit (Evaluator.directory c.file s.1) with
  | error e => simp [hw] at h
  | ok w =>
    rw [hw] at h
    have hwork := leaving_eq_ok h
    unfold Evaluator.work at hwork
    split at hwork
    next hc =>
      rw [Action.bind_apply] at hwork
      rcases heval : session.eval c.text c.file (w, s.2) with ⟨x | ⟨output, v⟩, n⟩
      · simp [heval] at hwork
      · rw [heval] at hwork
        obtain rfl := Except.ok.inj hwork
        exact .expression hc hw heval
    next hc =>
      rw [Action.bind_apply] at hwork
      rcases hrun : session.run c.text c.file (w, s.2) with ⟨x | output, n⟩
      · simp [hrun] at hwork
      · rw [hrun] at hwork
        obtain rfl := Except.ok.inj hwork
        exact .statements (by simpa using hc) hw hrun

variable [DecidableEq η]

/-! ### Answers -/

/-- Two answers of a call are the same, unless its failure has been announced to those who listen at
different times. -/
inductive Agree (listening : Listening η) :
    Except Exception Outcome → Except Exception Outcome → Prop
  | refl (r : Except Exception Outcome) : Agree listening r r
  | told (f : Failure) (failed failed' : Event η) (t t' : World × List (η × Failure)) :
    Agree listening (answer listening f failed t) (answer listening f failed' t')

theorem agree_of_follows {ended : Except Halt Outcome} (h : Follows listening c ended (.finished r))
    (h' : Follows listening c ended (.finished r')) : Agree listening r r' := by
  obtain h | ⟨f, failed, t, hf, h⟩ := follows_iff.mp h
  · obtain h' | ⟨f', failed', t', hf', -⟩ := follows_iff.mp h'
    · obtain rfl := Stage.finished.inj (h.trans h'.symm)
      exact .refl r
    · simp [← h] at hf'
  · obtain h' | ⟨f', failed', t', hf', h'⟩ := follows_iff.mp h'
    · simp [← h'] at hf
    · obtain rfl := Stage.report.inj (hf.symm.trans hf')
      rw [Stage.finished.inj h, Stage.finished.inj h']
      exact .told f failed failed' t t'

theorem eq_empty_of_answer {f : Failure} {failed : Event η} {t : World × List (η × Failure)} {o : Outcome}
    (h : answer listening f failed t = .ok o) : o = .empty := by
  unfold answer at h
  generalize (failed.trigger (Evaluator.tell listening) f t).1 = told at h
  cases told with
  | error e => cases h
  | ok u => exact (Except.ok.inj h).symm

/-- What two answers return is the same. -/
theorem Agree.eq_of_ok (h : Agree listening r r') {o o' : Outcome} (hr : r = .ok o) (hr' : r' = .ok o') :
    o = o' := by
  cases h with
  | refl r => exact Except.ok.inj (hr.symm.trans hr')
  | told f failed failed' t t' => rw [eq_empty_of_answer hr, eq_empty_of_answer hr']

/-- If nobody who listens raises, two answers are the same. -/
theorem Agree.eq_of_settled (h : Agree listening r r') (hl : Evaluator.Settled listening) : r = r' := by
  have hanswer : ∀ f failed (t : World × List (η × Failure)),
      answer listening f failed t = .ok .empty := by
    intro f failed t
    have hsettles : ∀ x f t, (Evaluator.tell listening x f t).1.Settles := fun x f t => hl x f t.1
    obtain ⟨e, he⟩ := Event.callEach_of_settles hsettles f failed.handlers failed t
    rw [answer, Event.trigger, he]
    rfl
  cases h with
  | refl r => rfl
  | told f failed failed' t t' => rw [hanswer, hanswer]

/-- What a call that has released the lock returns is its own, or nothing because its snippet has
failed. -/
theorem returns_of_follows {o : Outcome} {s : World × τ}
    (h : Follows listening c (c.alone session s).1 (.finished (.ok o))) :
    c.Returns session s o ∨
      o = .empty ∧ ∃ text cause errorText, (c.alone session s).1 = .error (.failed text cause errorText) := by
  obtain h | ⟨f, failed, t, hf, h⟩ := follows_iff.mp h
  · refine .inl (Call.returns_of_alone ?_)
    rcases hended : (c.alone session s).1 with (⟨text, cause, errorText⟩ | e) | o'
    · rw [hended] at h
      cases h
    · rw [hended] at h
      cases h
    · rw [hended] at h
      cases h
      rfl
  · refine .inr ⟨eq_empty_of_answer (Stage.finished.inj h).symm, ?_⟩
    rcases hended : (c.alone session s).1 with (⟨text, cause, errorText⟩ | e) | o'
    · exact ⟨text, cause, errorText, rfl⟩
    · rw [hended] at hf
      cases hf
    · rw [hended] at hf
      cases hf

/-! ### Those who listen -/

theorem told_announce (listening : Listening η) (f : Failure) (s : Workshop τ η) :
    ∃ hs : List η, (Evaluator.announce listening f s).2.2.told = s.2.told ++ hs.map fun h => (h, f) := by
  refine announce_keeps (P := fun t => ∃ hs : List η, t.2 = s.2.told ++ hs.map fun h => (h, f)) ?_ s
    ⟨[], by simp⟩
  rintro x t ⟨hs, ht⟩
  exact ⟨hs ++ [x], by simp [Evaluator.tell, ht]⟩

/-- Only who is at the report of a failure tells those who listen, and of this failure. -/
theorem told_act (session : Session τ) (listening : Listening η) (c : Call) (stage : Stage)
    (s : Workshop τ η) :
    (act session listening c stage s).2.2.told = s.2.told ∨
      ∃ f, stage = .report f ∧ ∃ hs : List η,
        (act session listening c stage s).2.2.told = s.2.told ++ hs.map fun h => (h, f) := by
  cases stage with
  | report f =>
    rw [act_report]
    exact .inr ⟨f, rfl, told_announce listening f s⟩
  | enter names =>
    rw [act]
    cases s.1.visit names <;> exact .inl rfl
  | run names previous =>
    rw [act, runStep]
    split <;> exact .inl rfl
  | leave ended names previous =>
    rw [act]
    rcases s.1.depart names previous with ⟨_ | _, w⟩ <;> exact .inl rfl
  | _ => exact .inl rfl

namespace Crew

variable {crew : Crew τ η} {k : Nat} {t : Thread}

/-- The calls of a crew that began with the workshop `s` are as they would be one after another in this
order. -/
structure Serial (same : World → World → Prop) (session : Session τ) (listening : Listening η)
    (s : Workshop τ η) (calls : List Call) (order : List Nat) (crew : Crew τ η) : Prop where
  /-- Every call gets the lock once. -/
  nodup : order.Nodup
  taken : ∀ k, k ∈ order ↔ ∃ t, crew.threads[k]? = some t ∧ t.stage ≠ .takeLock
  /-- No two calls have the lock at a time. -/
  exclusive : ∀ {j k : Nat} {t u : Thread}, crew.threads[j]? = some t → t.stage.holdsLock →
    crew.threads[k]? = some u → u.stage.holdsLock → j = k
  /-- What a call goes on with after the lock is the outcome that it has in its turn. -/
  outcomes : ∀ {i k : Nat} {t : Thread}, order[i]? = some k → crew.threads[k]? = some t →
    t.stage.holdsLock = false → Follows listening t.call
      (t.call.alone session (shared (inTurn session listening calls s (order.take i)))).1 t.stage
  /-- A call answers as it does in its turn: the same if nobody who listens raises, and the same whenever
  it returns both times. -/
  answers : ∀ {i k : Nat} {c : Call} {r r' : Except Exception Outcome}, order[i]? = some k →
    calls[k]? = some c → crew.results[k]? = some (some r) →
      (c.evaluate session listening (inTurn session listening calls s (order.take i))).1 = r' →
        Agree listening r r' ∧ (Evaluator.Settled listening → r = r') ∧
          ∀ o o', r = .ok o → r' = .ok o' → o = o'
  /-- What a call returns is what its own step of the session comes to in its turn; it is nothing if its
  snippet has failed. -/
  returns : ∀ {i k : Nat} {c : Call} {o : Outcome}, order[i]? = some k → calls[k]? = some c →
    crew.results[k]? = some (some (.ok o)) →
      c.Returns session (shared (inTurn session listening calls s (order.take i))) o ∨
        o = .empty ∧ ∃ text cause errorText,
          (c.alone session (shared (inTurn session listening calls s (order.take i)))).1 =
            .error (.failed text cause errorText)
  /-- Those who listen are told about a failure when its call has let go of the lock. -/
  told : ∀ k, (crew.step session listening k).workshop.2.told = crew.workshop.2.told ∨
    ∃ t f, crew.threads[k]? = some t ∧ t.stage = .report f ∧ k ∈ order ∧ t.stage.holdsLock = false ∧
      ∃ hs : List η, (crew.step session listening k).workshop.2.told =
        crew.workshop.2.told ++ hs.map fun h => (h, f)
  /-- While nobody has the lock the session is as the calls leave it in their turns. -/
  session : crew.isLocked = false →
    Alike same (shared (inTurn session listening calls s order)) (shared crew.workshop)

theorem Ordered.serial (h : Ordered same session listening s calls order crew) :
    Serial same session listening s calls order crew where
  nodup := h.nodup
  taken := h.taken
  exclusive hj hlock hk hlock' := h.exclusive hj hlock hk hlock'
  outcomes hi hk hlock := h.follows hi hk hlock
  answers {i k c r r'} hi hc hr hr' := by
    obtain ⟨t, hk, hstage⟩ := results_eq_some.mp hr
    obtain rfl : t.call = c := Option.some.inj ((h.getElem?_calls hk).symm.trans hc)
    have hfollows := h.follows hi hk (by rw [hstage]; rfl)
    rw [hstage] at hfollows
    have hagree := agree_of_follows hfollows (follows_evaluate t.call _)
    rw [hr'] at hagree
    exact ⟨hagree, hagree.eq_of_settled, fun o o' => hagree.eq_of_ok⟩
  returns {i k c o} hi hc hr := by
    obtain ⟨t, hk, hstage⟩ := results_eq_some.mp hr
    obtain rfl : t.call = c := Option.some.inj ((h.getElem?_calls hk).symm.trans hc)
    have hfollows := h.follows hi hk (by rw [hstage]; rfl)
    rw [hstage] at hfollows
    exact returns_of_follows hfollows
  told k := by
    obtain ⟨hsame, -⟩ | ⟨t, hk, hacted, -⟩ := crew.step_cases session listening k
    · exact .inl (by rw [hsame])
    · rw [hacted, acted]
      obtain hsame | ⟨f, hf, hs, htold⟩ := told_act session listening t.call t.stage crew.workshop
      · exact .inl hsame
      · exact .inr ⟨t, f, hk, hf, h.mem hk (by simp [hf]), by rw [hf]; rfl, hs, htold⟩
  session := h.free

/-- Calls that are made at once are on every schedule as they would be one after another in the order
of the lock. As long as nothing that is run changes the search path, a call without a file runs in the
directory the process was in at first, and this and the path are back whenever nobody has the lock. A
schedule that begins with enough rounds through all threads brings every call to its end. -/
theorem run_serial (hu : Unnoticed same session listening) (s : Workshop τ η) (calls : List Call)
    (schedule : List Nat) :
    Serial same session listening s calls (lockOrder session listening (start s calls) schedule)
        ((start s calls).run session listening schedule) ∧
      (s.1.Stands s.1.here → (∀ moment, moment <+: schedule →
          ((start s calls).run session listening moment).Calm session s.1.here) →
        AtHome s.1.here s.1.searchPath ((start s calls).run session listening schedule)) ∧
      ∀ rounds : List (List Nat), (∀ round ∈ rounds, ∀ k < calls.length, k ∈ round) →
        stepsPerThread * calls.length ≤ rounds.length → rounds.flatten <+: schedule →
          ∀ k < calls.length, ∃ r,
            ((start s calls).run session listening schedule).results[k]? = some (some r) := by
  refine ⟨(ordered_run hu s calls schedule).serial, fun hs hcalm => atHome_run hu hs hcalm,
    ?_⟩
  intro rounds hrounds hlength hstart k hk
  have hthreads : k < ((start s calls).run session listening schedule).threads.length := by
    rw [length_run, start, List.length_map]
    exact hk
  obtain ⟨r, hr⟩ := finished_run session listening hrounds hlength hstart
    (List.getElem?_eq_getElem hthreads)
  exact ⟨r, results_eq_some.mpr ⟨_, List.getElem?_eq_getElem hthreads, hr⟩⟩

/-- A call in a directory of its own, and two in the directory of the process, of which one fails. -/
def threeCalls : List Call :=
  [⟨"print('A')\n1".toList, false, some (Path.ofText "d/x.md".toList)⟩,
    ⟨"raise ValueError('b')".toList, false, none⟩, ⟨"print('C')".toList, false, none⟩]

def threeBegun : Workshop Program.Interpreter Listener :=
  ({ directories := [["d".toList]] }, { session := {}, failed := ⟨[.report]⟩ })

def threeRounds : List (List Nat) := List.replicate 24 [1, 0, 2]

def threeDone : Crew Program.Interpreter Listener :=
  (start threeBegun threeCalls).run Program.session Listener.alone threeRounds.flatten

theorem keepsPath_three : ∀ n ≤ threeRounds.flatten.length,
    ((start threeBegun threeCalls).run Program.session Listener.alone
      (threeRounds.flatten.take n)).KeepsPath Program.session := by
  decide +kernel

theorem run_serial_three :
    Unnoticed World.Said Program.session Listener.alone ∧
      lockOrder Program.session Listener.alone (start threeBegun threeCalls) threeRounds.flatten = [1, 0, 2] ∧
      Serial World.Said Program.session Listener.alone threeBegun threeCalls [1, 0, 2] threeDone ∧
      AtHome [] [] threeDone ∧
      (∀ k < 3, ∃ r, threeDone.results[k]? = some (some r)) ∧
      (threeDone.results.map fun r => r.bind fun r => r.toOption.map fun o =>
        (o.output, o.itValue.map fun v => v.value.written)) =
        [some (some "A\n".toList, some ['1']), some (none, none), some (some "C\n".toList, some ['1'])] := by
  have hu : Unnoticed World.Said Program.session Listener.alone := unnoticed_program said_alone
  have horder : lockOrder Program.session Listener.alone (start threeBegun threeCalls) threeRounds.flatten
    = [1, 0, 2] := by decide +kernel
  obtain ⟨hserial, hhome, hends⟩ := run_serial hu threeBegun threeCalls threeRounds.flatten
  rw [horder] at hserial
  refine ⟨hu, horder, hserial, ?_, ?_, by decide +kernel⟩
  · refine hhome (World.stands_root _) fun moment hm => calm_program ?_
    rw [List.prefix_iff_eq_take.mp hm]
    exact keepsPath_three _ hm.length_le
  · refine hends threeRounds ?_ (by decide) (List.prefix_refl _)
    intro round hround
    rw [List.eq_of_mem_replicate hround]
    decide

/-- Whoever hears of a failure with this takes the process to another directory. -/
def moving : Listening Unit := fun _ _ w => (.finish, { w with here := ["d".toList] })

def twoCalls : List Call := [⟨"y".toList, true, none⟩, ⟨"open('x').read()".toList, true, none⟩]

def twoFiles : Workshop Program.Interpreter Unit :=
  ({ files := [(["x".toList], "1".toList), (["d".toList, "x".toList], "2".toList)],
     directories := [["d".toList]] },
    { session := {}, failed := ⟨[()]⟩ })

/-- The second call gets the lock as soon as the first has let go of it, and its listeners hear of the
failure only then. -/
def overtaking : List Nat := List.replicate 6 0 ++ List.replicate 6 1 ++ [0]

/-- A call whose snippet takes its directory off the search path, and one that reads a file of the
current directory. -/
def strandedCalls : List Call :=
  [⟨"import sys\ndel sys.path[0]".toList, false, some (Path.ofText "d/x.md".toList)⟩,
    ⟨"open('x').read()".toList, true, none⟩]

def inOrder : List Nat := List.replicate 8 0 ++ List.replicate 8 1

/-- If a listener takes the process elsewhere, the second call has read the file where the process was
at first, and in its turn it would read the other one: not in the directory the process was in at
first. If the first call cannot leave its directory, the second one reads the file there. -/
theorem not_serial_moving :
    (lockOrder Program.session moving (start twoFiles twoCalls) overtaking = [0, 1] ∧
      (((start twoFiles twoCalls).run Program.session moving overtaking).results.map fun r =>
        r.bind fun r => r.toOption.bind fun o => o.result.map fun v => v.value.written) =
        [none, some "'1'".toList] ∧
      ((Call.evaluate Program.session moving ⟨"open('x').read()".toList, true, none⟩
        (inTurn Program.session moving twoCalls twoFiles [0])).1.toOption.bind fun o =>
          o.result.map fun v => v.value.written) = some "'2'".toList ∧
      (inTurn Program.session moving twoCalls twoFiles [0]).1.here ≠ twoFiles.1.here) ∧
    ((((start twoFiles strandedCalls).run Program.session moving inOrder).results.map fun r =>
        r.bind fun r => r.toOption.bind fun o => o.result.map fun v => v.value.written) =
        [none, some "'2'".toList] ∧
      ((start twoFiles strandedCalls).run Program.session moving inOrder).workshop.1.here =
        ["d".toList]) := by
  decide +kernel

end Crew

end Weave.Threads
