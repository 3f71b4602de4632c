import Weave.Proofs.Engine.LastValue
import Weave.Proofs.Program.Snippets
import Weave.Proofs.Program.SparingEffects

/-!
# Programs that spare the last value

A program that binds the name of the last value nowhere leaves it as it finds it, and so does what
says how the program has failed.
-/

set_option autoImplicit false

namespace Weave.Program

variable {α : Type} {A : Prop}

/-! ### Snippets that spare the last value -/

namespace Run

variable {c : Scope}

instance sparing_readOrRaise (source : Text) (r : Except Misreading α) :
    Sparing A c (readOrRaise source r) := by
  cases r with
  | ok a => exact Sparing.pure a
  | error f => exact Sparing.fail _

instance sparing_check (source : Text) (f : Option Misreading) : Sparing A c (check source f) := by
  cases f with
  | none => exact Sparing.pure ()
  | some f => exact Sparing.fail _

instance sparing_checkCharacters (text : Text) : Sparing A c (checkCharacters text) := by
  unfold checkCharacters refuse
  infer_instance

instance sparing_evalWhole (source : Text) (e : Expr) [At A c (Expr.spares · e)] :
    Sparing A c (evalWhole source e) := by
  unfold evalWhole
  infer_instance

end Run

def statementsSpare (text : Text) : Bool :=
  match readStatements text with
  | .ok body => Stmt.sparesEach false body
  | .error _ => true

def expressionSpares (text : Text) : Bool :=
  match readExpression text with
  | .ok e => e.spares false
  | .error _ => true

theorem readOrRaise_eq_ok {source : Text} {r : Except Misreading α} {m t : Machine} {a : α}
    (h : readOrRaise source r m = (.ok a, t)) : r = .ok a := by
  cases r with
  | error f => cases h
  | ok b =>
    cases h
    rfl

/-- An expression spares the last value if its text does; and in any case it ends where it began. -/
theorem sparing_expression {text : Text} (h : A → expressionSpares text = true) (c : Scope) (source : Text) :
    Sparing A c (expression source text) := by
  refine Run.sparing_inScope (Sparing.andThen inferInstance fun _ =>
    Sparing.andThenOf inferInstance (fun m e t => readOrRaise_eq_ok) fun e he => ?_)
  have : At A { source } (Expr.spares · e) := ⟨fun ha _ => by
    have hspares := h ha
    rwa [expressionSpares, he] at hspares⟩
  infer_instance

theorem sparing_noValue {text : Text} (h : A → expressionSpares text = true) (c : Scope) (source : Text) :
    Sparing A c ((fun _ => none) <$> expression source text : Run (Option Value)) := by
  have := sparing_expression h c source
  infer_instance

theorem sparing_value {e : Expr} (h : A → e.spares false = true) (c : Scope) (source : Text) :
    Sparing A c (value source e) := by
  have : At A { source } (Expr.spares · e) := ⟨fun ha _ => h ha⟩
  exact Run.sparing_inScope inferInstance

/-! ### Statements and what they keep -/

theorem sparing_read (c : Scope) (source text : Text) : Sparing A c (read source text) :=
  Run.sparing_inScope inferInstance

theorem inScope_eq_ok {c : Scope} {p : Run α} {m t : Machine} {a : α}
    (h : Run.inScope c p m = (.ok a, t)) : ∃ n, p (m.1, { m.2 with scope := c }) = (.ok a, n) :=
  have hfirst : (p (m.1, { m.2 with scope := c })).1 = .ok a := congrArg Prod.fst h
  ⟨_, Prod.ext hfirst rfl⟩

theorem readStatements_of_read {source text : Text} {m t : Machine} {body : List Stmt}
    (h : read source text m = (.ok body, t)) : readStatements text = .ok body := by
  obtain ⟨n, hn⟩ := inScope_eq_ok h
  obtain ⟨u, k, -, hread⟩ := Action.bind_eq_ok hn
  exact readOrRaise_eq_ok hread

theorem sparing_execute {body : List Stmt} (h : A → Stmt.sparesEach false body = true) (c : Scope)
    (source : Text) : Sparing A c (execute source body) := by
  have : At A { source } (Stmt.sparesEach · body) := ⟨fun ha _ => h ha⟩
  exact Run.sparing_inScope inferInstance

theorem sparing_executeAll {body : List Stmt} (h : A → Stmt.sparesEach false body = true) (c : Scope)
    (source : Text) : Sparing A c (engine.executeAll source body) := by
  cases body with
  | nil => exact Sparing.pure ()
  | cons st body => exact sparing_execute h c source

theorem sparing_conclude {body : List Stmt} (h : A → Stmt.sparesEach false body = true) (c : Scope)
    (source : Text) : Sparing A c (engine.conclude source body) := by
  have hfront : A → Stmt.sparesEach false body.dropLast = true := fun ha =>
    Stmt.sparesEach_iff.mpr fun st hst => Stmt.sparesEach_iff.mp (h ha) st (List.dropLast_subset body hst)
  unfold Engine.conclude
  cases hlast : body.getLast?.bind engine.expression? with
  | none => exact (sparing_executeAll h c source).andThen fun _ => Sparing.pure none
  | some e =>
    obtain ⟨st, hst, he⟩ := Option.bind_eq_some_iff.mp hlast
    have hspares : A → e.spares false = true := fun ha => by
      have hstatement := Stmt.sparesEach_iff.mp (h ha) st (List.mem_of_getLast? hst)
      cases st <;> cases he
      exact hstatement
    have := sparing_value hspares c source
    exact (sparing_executeAll hfront c source).andThen fun _ => Sparing.map some (value source e)

theorem sparing_conclusion {text : Text} (h : A → statementsSpare text = true) (c : Scope) (source : Text) :
    Sparing A c (engine.conclusion source text) :=
  Sparing.andThenOf (sparing_read c source text) (fun _ _ _ => readStatements_of_read) fun body hbody =>
    sparing_conclude (fun ha => by
      have hspares := h ha
      rwa [statementsSpare, hbody] at hspares) c source

/-! ### Evaluations -/

/-- To say how a program has failed changes nothing of what it leaves. -/
theorem halt_interpreter (text source : Text) (stop : Stop) (n : Machine) :
    (engine.halt text source stop n).2.2 = n.2 := by
  have hhalts := Engine.halts_halt engine text source stop n
  generalize engine.halt text source stop n = r at hhalts ⊢
  obtain ⟨x, k⟩ := r
  cases hhalts with
  | reported hf hs hw =>
    obtain ⟨-, -, rfl⟩ := shown_eq_ok hs
    obtain ⟨-, rfl⟩ := written_eq_ok hw
    rfl
  | unshown hf hs =>
    obtain ⟨-, -, -, rfl⟩ := shown_eq_error hs
    rfl
  | unwritten hf hs hw =>
    obtain ⟨-, -, rfl⟩ := shown_eq_ok hs
    obtain ⟨-, -, rfl⟩ := written_eq_error hw
    rfl
  | other hf => rfl

theorem reported_interpreter {α : Type} (text source : Text) (p : Run α) (m : Machine) :
    (engine.reported text source p m).2.2 = (p m).2.2 := by
  unfold Engine.reported
  rcases p m with ⟨stop | a, n⟩
  · exact halt_interpreter text source stop n
  · rfl

/-- Whether the program of an evaluation spares the last value, as far as its text tells. -/
def sparesLast : Errand → Bool
  | .run text _ => statementsSpare text
  | .eval text _ => expressionSpares (Text.trim text)
  | .tryEval text => expressionSpares (text.dropWhile isIndent)
  | .inside _ e => sparesLast e

theorem keeps_ending {e : Errand} (he : sparesLast e = true) {m : Machine} (hm : m.2.Spares) :
    Keeps True m.2 (engine.ending e m).2.2 := by
  induction e generalizing m with
  | run text file =>
    have h := (sparing_conclusion (A := True) (fun _ => he) m.2.scope (engine.nextSource file m.2)).keeps
      (m := openCapture (m.1, engine.register text text file m.2)) rfl fun _ => hm
    rw [Engine.ending, reported_interpreter]
    exact ⟨h.scope, h.objects, h.last⟩
  | eval text file =>
    have h := (sparing_noValue (A := True) (fun _ => he) m.2.scope (engine.nextSource file m.2)).keeps
      (m := openCapture (m.1, engine.register text (Text.trim text) file m.2)) rfl fun _ => hm
    rw [Engine.ending, reported_interpreter]
    exact ⟨h.scope, h.objects, h.last⟩
  | tryEval text =>
    exact (sparing_noValue (A := True) (fun _ => he) m.2.scope "<string>".toList).keeps (m := openCapture m) rfl
      fun _ => hm
  | inside names e ih =>
    unfold Engine.ending
    split
    next w _ => exact ih he (m := (w, m.2)) hm
    next => exact .refl fun _ => hm

/-! ### Histories -/

theorem engine_keeps : engine.Keeps := fun v i => by
  show (i.names.set lastName v).get? lastName = some v
  simp

theorem spares_keepIn {i : Interpreter} (h : i.Spares) (v : Option Value) : (engine.keepIn i v).Spares := by
  cases v with
  | none => exact h
  | some v =>
    show (if engine.isNothing v then i else engine.keep v i).Spares
    split <;> exact h

/-- Evaluations leave the last value alone if the texts of all of them spare it. -/
theorem leaveLast_of_spares {es : List Errand} (hes : ∀ e ∈ es, sparesLast e = true) {m : Machine}
    (hm : m.2.Spares) : engine.LeaveLast es m := by
  induction es generalizing m with
  | nil => trivial
  | cons e es ih =>
    obtain ⟨he, hes⟩ := List.forall_mem_cons.mp hes
    have hkeeps := keeps_ending he hm
    have hafter : (engine.after e m).2.Spares := by
      rw [Engine.after_eq]
      exact spares_keepIn (hkeeps.objects trivial) _
    exact ⟨hkeeps.last trivial, ih hes hafter⟩

theorem spares_first : ({} : Interpreter).Spares := by
  intro o ho
  have ho : o ∈ firstObjects := List.mem_toArray.mp ho
  simp only [firstObjects, List.mem_append, List.mem_map, List.mem_cons, List.not_mem_nil, or_false] at ho
  rcases ho with
    ((((⟨_, _, rfl⟩ | ⟨_, _, rfl⟩) | ⟨_, _, rfl⟩) | ⟨_, _, rfl⟩) | ⟨_, _, rfl⟩) | rfl | rfl | rfl | rfl
  all_goals trivial

/-- A value that is kept, and what does not change it: an expression, statements that end with no
expression or with nothing, a failure, and an expression on the quiet that fails. -/
def quietly : List Errand :=
  [.run "x = [2 for _ in '12']\nx".toList none, .eval "x + x".toList none, .run "y = x".toList none,
    .run "y\nNone".toList none, .run "1\nraise ValueError(y)\n3".toList none, .tryEval "z".toList]

theorem lastValue_afterAll_quietly :
    engine.Keeps ∧ engine.LeaveLast quietly ({}, {}) ∧
      ((session.lastValue (engine.afterAll quietly ({}, {})).2).1.map fun v => v.value.written) =
        some "[2, 2]".toList := by
  have hleave : engine.LeaveLast quietly ({}, {}) := leaveLast_of_spares (by decide +kernel) spares_first
  refine ⟨engine_keeps, hleave, ?_⟩
  obtain ⟨-, hvalue, -⟩ := Engine.lastValue_afterAll engine_keeps hleave
  rw [session, hvalue]
  decide +kernel

def firstValue (args : List Text) (w : World) : Option TypedValue :=
  match start args w with
  | (.ok i, _) => (session.lastValue i).1
  | (.error _, _) => none

/-- The name can be bound without any snippet, by an option, and be deleted by a snippet that binds
nothing. -/
theorem lastValue_defined_and_deleted :
    let snippets := [Errand.run "1".toList none, .run "del _".toList none]
    engine.latest [] ({}, {}) = none ∧ (firstValue ["--define=_=x".toList] {}).isSome ∧
      (engine.latest snippets ({}, {})).isSome ∧
      (session.lastValue (engine.afterAll snippets ({}, {})).2).1.isNone :=
  ⟨rfl, by decide +kernel⟩

end Weave.Program
