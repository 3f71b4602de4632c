import Weave.Evaluator.Threads
import Weave.Proofs.Engine.Captures
import Weave.Proofs.Evaluation.Listeners
import Weave.Proofs.Session.Directories

/-!
# Calls of an evaluator

A call goes to the directory of its document, runs its snippet there and comes back. How the snippet
ended decides what is returned and who is told; what is left of the call is, in either case, the
session as the executed code left it, known to have had another source, and the process where it was.
A snippet may bar the way back, as by taking the directory of its call off the search path: such a
call raises what comes of that.
-/

set_option autoImplicit false

namespace Weave

open Evaluator (directory)
open Threads (Call)

variable {τ κ χ ν ε η : Type}

/-! ### What the session makes of a call -/

namespace Engine

variable (E : Engine τ κ χ ν ε)

def snippet (c : Call) (source : Text) : Action (World × τ) ε (Option ν) :=
  if c.asExpression then some <$> E.evaluate source (Text.trim c.text)
  else (fun _ => none) <$> E.statements source c.text

/-- The machine in which the snippet of a call begins: in its directory, known by its source and with its
output captured. -/
def begun (c : Call) (m : World × τ) : World × τ :=
  let names := directory c.file m.1
  let read := if c.asExpression then Text.trim c.text else c.text
  openCapture ({ m.1 with here := names, searchPath := World.nameOf names :: m.1.searchPath },
    E.register c.text read c.file m.2)

/-- How the snippet of a call ends, and in which machine. -/
def ended (c : Call) (m : World × τ) : Except ε (Option ν) × World × τ :=
  E.snippet c (E.nextSource c.file m.2) (E.begun c m)

variable {E}

/-- What comes of a call that has gone to its directory, and the machine there. Statements leave the last
value, an expression its own. -/
inductive Comes (E : Engine τ κ χ ν ε) (c : Call) (m : World × τ) :
    Except Halt Outcome → World × τ → Prop where
  | ran {n : World × τ} (hc : c.asExpression = false) (h : E.ended c m = (.ok none, n)) :
      Comes E c m (.ok { output := some ((held n).onStream .output),
                         itValue := (E.last? n.2).map (E.typed n.2) }) (closed n)
  | evaluated {n : World × τ} {v : ν} (hc : c.asExpression = true) (h : E.ended c m = (.ok (some v), n)) :
      Comes E c m (.ok { output := some ((held n).onStream .output), result := some (E.typed n.2 v) })
        (closed n)
  | halted {n k : World × τ} {e : ε} {x : Halt} (h : E.ended c m = (.error e, n))
      (hx : E.Halts c.text (E.nextSource c.file m.2) e n x k) : Comes E c m (.error x) (closed k)

/-- The machine in the directory of a call. -/
def there (c : Call) (m : World × τ) : World × τ :=
  ({ m.1 with
    here := directory c.file m.1
    searchPath := World.nameOf (directory c.file m.1) :: m.1.searchPath }, m.2)

theorem ended_of_expression {c : Call} (hc : c.asExpression = true) (m : World × τ) :
    E.ended c m = (some <$> E.evaluate (E.nextSource c.file m.2) (Text.trim c.text))
      (openCapture ((there c m).1, E.register c.text (Text.trim c.text) c.file m.2)) := by
  rw [ended, snippet, if_pos hc, begun, if_pos hc]
  rfl

theorem ended_of_statements {c : Call} (hc : c.asExpression = false) (m : World × τ) :
    E.ended c m = ((fun _ => none) <$> E.statements (E.nextSource c.file m.2) c.text)
      (openCapture ((there c m).1, E.register c.text c.text c.file m.2)) := by
  rw [ended, snippet, begun, hc]
  rfl

theorem comes_work (c : Call) (m : World × τ) :
    ∃ r k, E.Comes c m r k ∧
      Evaluator.work E.session c.text c.asExpression c.file (there c m) = (r, k) := by
  cases hc : c.asExpression with
  | true =>
    have hended := ended_of_expression (E := E) hc m
    rw [Action.map_apply] at hended
    simp only [Evaluator.work, if_true, Action.bind_apply, session]
    rcases hn : E.evaluate (E.nextSource c.file m.2) (Text.trim c.text)
      (openCapture ((there c m).1, E.register c.text (Text.trim c.text) c.file m.2)) with ⟨e | v, n⟩
    · rw [hn] at hended
      rw [eval_of_error (m := there c m) hn]
      exact ⟨_, _, .halted hended (halts_halt E _ _ e n), rfl⟩
    · rw [hn] at hended
      rw [eval_of_ok (m := there c m) hn]
      exact ⟨_, _, .evaluated hc hended, rfl⟩
  | false =>
    have hended := ended_of_statements (E := E) hc m
    rw [Action.map_apply] at hended
    simp only [Evaluator.work, Bool.false_eq_true, if_false, Action.bind_apply, session]
    rcases hn : E.statements (E.nextSource c.file m.2) c.text
      (openCapture ((there c m).1, E.register c.text c.text c.file m.2)) with ⟨e | u, n⟩
    · rw [hn] at hended
      rw [run_of_error (m := there c m) hn]
      exact ⟨_, _, .halted hended (halts_halt E _ _ e n), rfl⟩
    · rw [hn] at hended
      rw [run_of_ok (m := there c m) hn]
      exact ⟨_, _, .ran hc hended, rfl⟩

end Engine

/-! ### The way back -/

/-- The directories of a call are there: its own, and the one to come back to. -/
structure InPlace (c : Call) (w : World) : Prop where
  directory : w.Stands (Evaluator.directory c.file w)
  here : w.Stands w.here

/-- From the world `w` a call goes back that was made in the world `v`, with its directory struck off
the search path. -/
def CanReturn (c : Call) (v w : World) : Prop :=
  w.depart (directory c.file v) v.here = (.ok (),
    { w with here := v.here, searchPath := w.searchPath.erase (World.nameOf (directory c.file v)) })

/-- A call either can go back or raises what comes of trying to. -/
theorem canReturn_or_stranded {c : Call} {v : World} (hp : InPlace c v) (w : World) :
    CanReturn c v w ∨ ∃ e u, w.depart (directory c.file v) v.here = (.error e, u) := by
  rcases hd : w.depart (directory c.file v) v.here with ⟨e | _, u⟩
  · exact .inr ⟨e, u, rfl⟩
  · refine .inl ?_
    by_cases hmem : World.nameOf (directory c.file v) ∈ w.searchPath
    · rw [CanReturn, World.depart_of_mem hmem]
      rw [World.depart_of_mem hmem] at hd
      cases henter : ({ w with searchPath := w.searchPath.erase (World.nameOf (directory c.file v)) } : World).enter
          v.here with
      | error e => simp [henter] at hd
      | ok x =>
        rw [World.enter_eq_of_stands hp.here henter]
    · rw [World.depart_of_not_mem hmem] at hd
      simp at hd

/-! ### What an evaluator answers -/

namespace Evaluator

variable {E : Engine τ κ χ ν ε} {listening : Listening η}

def machine (s : Workshop τ η) : World × τ := (s.1, s.2.session)

/-- What becomes of a workshop when the session is left as the machine `n`. -/
def withMachine (s : Workshop τ η) (n : World × τ) : Workshop τ η := (n.1, { s.2 with session := n.2 })

/-- What becomes of a workshop when a call goes back from the machine `n`. -/
def after (c : Call) (s : Workshop τ η) (n : World × τ) : Workshop τ η :=
  withMachine s ({ n.1 with
    here := s.1.here
    searchPath := n.1.searchPath.erase (World.nameOf (directory c.file s.1)) }, n.2)

/-- What a call returns and what it leaves. If it has failed, everyone who listens is told, once for
each subscription, and an empty outcome is returned; whatever else its session has raised is raised.
Nobody is told how a snippet ended that has barred the way back: what comes of that is raised, and the
process stays where this leaves it. -/
inductive Answered (E : Engine τ κ χ ν ε) (listening : Listening η) (c : Call) (s : Workshop τ η) :
    Except Exception Outcome → Workshop τ η → Prop where
  | returned {o : Outcome} {n : World × τ} (h : E.Comes c (machine s) (.ok o) n) (ho : CanReturn c s.1 n.1) :
      Answered E listening c s (.ok o) (after c s n)
  | announced {text errorText : Text} {cause : Exception} {n : World × τ}
      (h : E.Comes c (machine s) (.error (.failed text cause errorText)) n) (ho : CanReturn c s.1 n.1)
      (handlers : Event η) :
      Answered E listening c s (.ok .empty)
        (heard listening ⟨c.text, c.asExpression, c.file, cause, errorText⟩ s.2.failed.handlers (after c s n).1,
          { (after c s n).2 with
            failed := handlers
            told := s.2.told ++ s.2.failed.handlers.map fun h =>
              (h, ⟨c.text, c.asExpression, c.file, cause, errorText⟩) })
  | raised {e : Exception} {n : World × τ} (h : E.Comes c (machine s) (.error (.raised e)) n)
      (ho : CanReturn c s.1 n.1) : Answered E listening c s (.error e) (after c s n)
  | stranded {r : Except Halt Outcome} {n : World × τ} {e : Exception} {w : World}
      (h : E.Comes c (machine s) r n) (ho : n.1.depart (directory c.file s.1) s.1.here = (.error e, w)) :
      Answered E listening c s (.error e) (withMachine s (w, n.2))

/-- Each call of a sequence is answered in the state that those before it have left. -/
inductive AnsweredEach (E : Engine τ κ χ ν ε) (listening : Listening η) : List Call → Workshop τ η →
    List (Except Exception Outcome) → Workshop τ η → Prop where
  | nil (s : Workshop τ η) : AnsweredEach E listening [] s [] s
  | cons {c : Call} {cs : List Call} {s t u : Workshop τ η} {r : Except Exception Outcome}
      {rs : List (Except Exception Outcome)} (h : Answered E listening c s r t)
      (hs : AnsweredEach E listening cs t rs u) : AnsweredEach E listening (c :: cs) s (r :: rs) u

/-! ### One call -/

/-- A call goes to its directory and comes back as its session does, if it can. -/
theorem inSession_comes {c : Call} {s : Workshop τ η} (hp : InPlace c s.1) :
    ∃ r n, E.Comes c (machine s) r n ∧
      (CanReturn c s.1 n.1 →
        inSession (workInDirectory E.session c.text c.asExpression c.file) s = (r, after c s n)) ∧
      ∀ e w, n.1.depart (directory c.file s.1) s.1.here = (.error e, w) →
        inSession (workInDirectory E.session c.text c.asExpression c.file) s =
          (.error (.raised e), withMachine s (w, n.2)) := by
  obtain ⟨r, n, hcomes, hwork⟩ := E.comes_work c (machine s)
  have hdirectory := Session.inDirectory_of_visit (s := machine s) (World.visit_eq_ok hp.directory) hwork
  have hhere : (machine s).1.here = s.1.here := rfl
  have hin : inSession (workInDirectory E.session c.text c.asExpression c.file) s =
      ((Session.inDirectory (directory c.file s.1) (work E.session c.text c.asExpression c.file) (machine s)).1,
        withMachine s (Session.inDirectory (directory c.file s.1)
          (work E.session c.text c.asExpression c.file) (machine s)).2) := rfl
  rw [hdirectory, hhere] at hin
  refine ⟨r, n, hcomes, fun ho => ?_, fun e w ho => ?_⟩
  · rw [hin, ho]
    rfl
  · rw [hin, ho]

/-! ### One call after the other -/

variable [DecidableEq η]

def answer (session : Session τ) (listening : Listening η) (c : Call) :
    Action (Workshop τ η) Exception Outcome :=
  evaluate session listening c.text c.asExpression c.file

def answerAll (session : Session τ) (listening : Listening η) : List Call → Workshop τ η →
    List (Except Exception Outcome) × Workshop τ η
  | [], s => ([], s)
  | c :: cs, s =>
    let (r, t) := answer session listening c s
    let (rs, u) := answerAll session listening cs t
    (r :: rs, u)

/-- The directories of every call are there when it is made. -/
def InPlaceEach (session : Session τ) (listening : Listening η) : List Call → Workshop τ η → Prop
  | [], _ => True
  | c :: cs, s => InPlace c s.1 ∧ InPlaceEach session listening cs (answer session listening c s).2

theorem answer_apply (session : Session τ) (listening : Listening η) (c : Call) (s : Workshop τ η) :
    answer session listening c s =
      match inSession (workInDirectory session c.text c.asExpression c.file) s with
      | (.ok o, t) => (.ok o, t)
      | (.error (.raised e), t) => (.error e, t)
      | (.error (.failed _ cause errorText), t) =>
        match announce listening ⟨c.text, c.asExpression, c.file, cause, errorText⟩ t with
        | (.ok _, u) => (.ok .empty, u)
        | (.error e, u) => (.error e, u) := by
  simp only [answer, evaluate, Action.bind_apply, Action.attempt]
  rcases inSession (workInDirectory session c.text c.asExpression c.file) s
    with ⟨(⟨_, cause, errorText⟩ | e) | o, t⟩
  · dsimp only
    rw [Action.bind_apply]
    rcases announce listening ⟨c.text, c.asExpression, c.file, cause, errorText⟩ t
      with ⟨e | u, v⟩ <;> rfl
  · rfl
  · rfl

theorem answered_answer (hl : Settled listening) {c : Call} {s : Workshop τ η} (hp : InPlace c s.1) :
    Answered E listening c s (answer E.session listening c s).1 (answer E.session listening c s).2 := by
  obtain ⟨r, n, hcomes, hback, hstranded⟩ := inSession_comes (E := E) hp
  rw [answer_apply]
  rcases canReturn_or_stranded hp n.1 with ho | ⟨e, w, ho⟩
  · rw [hback ho]
    rcases r with (⟨text, cause, errorText⟩ | e) | o
    · obtain ⟨handlers, hsaid⟩ := announce_of_settled hl
        ⟨c.text, c.asExpression, c.file, cause, errorText⟩ (after c s n).1 (after c s n).2
      dsimp only
      rw [hsaid]
      exact .announced hcomes ho handlers
    · exact .raised hcomes ho
    · exact .returned hcomes ho
  · rw [hstranded e w ho]
    exact .stranded hcomes ho

theorem answeredEach_of_inPlaceEach (hl : Settled listening) {cs : List Call} {s : Workshop τ η}
    (hp : InPlaceEach E.session listening cs s) :
    AnsweredEach E listening cs s (answerAll E.session listening cs s).1
      (answerAll E.session listening cs s).2 := by
  induction cs generalizing s with
  | nil => exact .nil s
  | cons c cs ih => exact .cons (answered_answer hl hp.1) (ih hp.2)

end Evaluator

end Weave
