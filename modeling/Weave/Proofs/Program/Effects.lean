import Weave.Proofs.Program.Tame

/-!
# Programs are tame

Every step of a program is tame: first those that call no others, then all expressions and statements
together, by induction on the bound on the number of steps.
-/

set_option autoImplicit false

namespace Weave

namespace Program

variable {α : Type}

namespace Run

/-! ### Functions that call no others -/

instance tame_writeOthers (s : Span) (target : Stream) (between : Text) (vs : List Value) :
    Tame (writeOthers s target between vs) := by
  induction vs with
  | nil => exact Tame.pure ()
  | cons v vs ih =>
    exact (tame_write ..).andThen fun _ =>
      Tame.ask (fun i => inferInstance) fun i j h => by rw [h.plain]

instance tame_print (s : Span) (vs : List Value) (named : List (Text × Value)) :
    Tame (print s vs named) := by
  unfold print
  dsimp only
  refine Tame.ask (fun i => ?_) fun i j h => ?_
  · refine (tame_orRaise ..).andThen fun between => (tame_orRaise ..).andThen fun ending => ?_
    repeat' split
    all_goals infer_instance
  · simp only [h.plain]
    cases named? named "file" with
    | none => rfl
    | some v =>
      cases v with
      | object c k w =>
        rcases h.object? (.object c k w) with hv | ⟨r, s, hi, hj⟩
        · simp only [hv]
        · simp only [hi, hj]
      | _ => rfl

instance tame_openFile (s : Span) (vs : List Value) : Tame (openFile s vs) := by
  unfold openFile
  dsimp only
  split
  next p mode =>
    have hread : Tame (do
        let w ← lookFor fun _ => [Path.ofText p]
        let t ← orRaise s (w.readText p)
        alloc (.file t)) :=
      tame_lookFor (fun w => inferInstance) fun w k => by rw [w.readText_withConsole]
    repeat' split
    all_goals infer_instance
  all_goals infer_instance

theorem changeDirectory_apply (s : Span) (p : Text) (m : Machine) :
    changeDirectory s [.str p] m = match (m.1.want [Path.ofText p]).enterText p with
      | .ok w => (.ok .none, w, m.2)
      | .error e => raiseAt s e (m.1.want [Path.ofText p], m.2) := by
  have hlook : lookFor (fun _ => [Path.ofText p]) m
    = (.ok (m.1.want [Path.ofText p]), m.1.want [Path.ofText p], m.2) := rfl
  show (lookFor (fun _ => [Path.ofText p]) >>= _) m = _
  rw [Action.bind_ok hlook]
  cases (m.1.want [Path.ofText p]).enterText p <;> rfl

instance tame_changeDirectory (s : Span) (vs : List Value) : Tame (changeDirectory s vs) := by
  by_cases hp : ∃ p, vs = [.str p]
  · obtain ⟨p, rfl⟩ := hp
    refine ⟨fun m => ?_, fun m n h => ?_, fun m k => ⟨[], ?_⟩⟩
    · rw [changeDirectory_apply]
      have hwant := World.Worked.of_want m.1 [Path.ofText p]
      cases he : (m.1.want [Path.ofText p]).enterText p with
      | error e => exact hwant
      | ok w =>
        obtain ⟨place, rfl⟩ := World.enterText_eq_ok he
        exact hwant.trans (.of_here _ place)
    · rw [changeDirectory_apply, changeDirectory_apply, h.world]
      cases (n.1.want [Path.ofText p]).enterText p with
      | error e => exact Agree.raiseAt s s e ⟨rfl, h.interpreter⟩
      | ok w => exact ⟨.refl _, rfl, h.interpreter⟩
    · have hwant : (m.1.withConsole k).want [Path.ofText p] =
        (m.1.want [Path.ofText p]).withConsole k := rfl
      rw [changeDirectory_apply, changeDirectory_apply, hwant, World.enterText_withConsole]
      cases he : (m.1.want [Path.ofText p]).enterText p with
      | error e => exact ⟨rfl, rfl⟩
      | ok w =>
        obtain ⟨place, rfl⟩ := World.enterText_eq_ok he
        exact ⟨rfl, rfl⟩
  · unfold changeDirectory
    split
    next p => exact absurd ⟨p, rfl⟩ hp
    all_goals infer_instance

instance tame_currentDirectory : Tame (do let w ← world; pure (.str (World.nameOf w.here)) : Run Value) :=
  tame_askWorld (fun _ => inferInstance) fun _ _ => rfl

instance tame_isThere (p : Text) : Tame (do
    let w ← lookFor fun _ => [Path.ofText p]
    pure (.bool (match w.locateText p with
      | .ok names => (w.file? names).isSome || w.isDirectory names
      | .error _ => false)) : Run Value) :=
  tame_lookFor (fun w => inferInstance) fun w k => by
    rw [w.locateText_withConsole]
    rfl

instance tame_callBuiltin (s : Span) (n : Text) (vs : List Value) (named : List (Text × Value)) :
    Tame (callBuiltin s n vs named) := by
  unfold callBuiltin
  dsimp only
  refine (tame_orRaise ..).andThen fun _ => Tame.ask (fun i => ?_) fun i j h => ?_
  · repeat' split
    all_goals infer_instance
  · simp only [h.items, h.ofOne?, h.ofTwo?]

instance tame_callKind (s : Span) (n : Text) (vs : List Value) (named : List (Text × Value)) :
    Tame (callKind s n vs named) := by
  unfold callKind
  refine Tame.ask (fun i => ?_) fun i j h => ?_
  · dsimp only
    split
    · infer_instance
    · split
      · split <;> infer_instance
      · split
        · infer_instance
        · refine (tame_orRaise ..).andThen fun _ => ?_
          repeat' split
          all_goals infer_instance
  · have hitems : items i = items j := funext h.items
    simp only [hitems, h.entriesOf, h.conversion?]

/-! ### Members, loops and scopes -/

instance tame_member (s : Span) (v : Value) (n : Text) : Tame (member s v n) := by
  unfold member
  refine Tame.ask (fun i => ?_) fun i j h => ?_
  · split
    · refine tame_askWorld (fun w => ?_) fun w k => rfl
      split <;> infer_instance
    · split <;> infer_instance
    all_goals infer_instance
  · rcases h.object? v with hv | ⟨r, s, hi, hj⟩
    · simp only [hv, h.moduleValue?, h.repl, h.methodsOf]
    · simp only [hi, hj]

instance tame_setBuiltinMember (m n : Text) (x : Value) : Tame (setBuiltinMember m n x) := by
  unfold setBuiltinMember
  split
  · split
    · next path _ =>
      exact ⟨fun m => ⟨rfl, rfl, [], rfl⟩, fun m n h =>
        ⟨.refl _, congrArg (fun w : World => { w with searchPath := path }) h.world, h.interpreter⟩,
        fun m k => ⟨[], rfl, rfl⟩⟩
    · infer_instance
  · infer_instance

instance tame_setMember (s : Span) (v : Value) (n : Text) (x : Value) :
    Tame (setMember s v n x) := by
  unfold setMember
  refine Tame.ask (fun i => ?_) fun i j h => ?_
  · split
    · exact tame_changeInterpreter fun i j h => { h with repl := by rw [h.repl] }
    · split
      · exact tame_changeModules fun ms => ms.set _ _
      · infer_instance
    · infer_instance
  · rcases h.object? v with hv | ⟨r, s, hi, hj⟩
    · rw [hv, h.modules]
    · rw [hi, hj]

/-- What an action ends in may be taken for something else, unless it is an exception. -/
theorem tame_of_ends {β : Type} {p : Run α} {q : Run β} (f : Except Stop α → Except Stop β) (hp : Tame p)
    (hq : ∀ m, q m = (f (p m).1, (p m).2))
    (hf : ∀ e trace, f (.error (.raised e trace)) = .error (.raised e trace)) : Tame q := by
  refine ⟨fun m => hq m ▸ hp.worked m, fun m n hmn => ?_, hp.heedless.of_ends f hq⟩
  rw [hq m, hq n]
  rcases hp.agrees.ends hmn with ⟨r, m', n', hm, hn, ht⟩ | ⟨e, t, t', m', n', hm, hn, ht⟩
  · rw [hm, hn]
    exact ⟨.refl _, ht⟩
  · rw [hm, hn]
    exact ⟨hf e t ▸ hf e t' ▸ .raised e t t', ht⟩

def goesOn (p : Run Unit) : Run Bool := fun m =>
  match p m with
  | (.ok _, t) => (.ok true, t)
  | (.error .proceeded, t) => (.ok true, t)
  | (.error .left, t) => (.ok false, t)
  | (.error e, t) => (.error e, t)

instance tame_goesOn (p : Run Unit) [hp : Tame p] : Tame (goesOn p) := by
  refine tame_of_ends (fun r => match r with
    | .ok _ | .error .proceeded => .ok true
    | .error .left => .ok false
    | .error e => .error e) hp (fun m => ?_) fun _ _ => rfl
  unfold goesOn
  rcases p m with ⟨(_ | _ | _ | _ | _) | _, t⟩ <;> rfl

instance tame_returned (p : Run Unit) [hp : Tame p] : Tame (returned p) := by
  refine tame_of_ends (fun r => match r with
    | .ok _ => .ok .none
    | .error (.given v) => .ok v
    | .error e => .error e) hp (fun m => ?_) fun _ _ => rfl
  unfold returned
  rcases p m with ⟨(_ | _ | _ | _ | _) | _, t⟩ <;> rfl

theorem forItems_cons (body : Value → Run Unit) (v : Value) (vs : List Value) :
    forItems body (v :: vs) = (do
      if ← goesOn (body v) then forItems body vs else pure false) := by
  funext m
  simp only [forItems, Action.bind_apply, goesOn]
  rcases body v m with ⟨(_ | _ | _ | _ | _) | _, t⟩ <;> rfl

theorem whileTrue_succ (fuel : Nat) (condition : Run Bool) (body : Run Unit) :
    whileTrue (fuel + 1) condition body = (do
      if ← condition then
        if ← goesOn body then whileTrue fuel condition body else pure false
      else pure true) := by
  funext m
  simp only [whileTrue, Action.bind_apply]
  rcases condition m with ⟨e | b, t⟩
  · rfl
  · cases b with
    | false => rfl
    | true =>
      simp only [if_true, Action.bind_apply, goesOn]
      rcases body t with ⟨(_ | _ | _ | _ | _) | _, u⟩ <;> rfl

theorem tame_forItems {body : Value → Run Unit} (hb : ∀ v, Tame (body v)) (vs : List Value) :
    Tame (forItems body vs) := by
  induction vs with
  | nil => exact Tame.pure true
  | cons v vs ih =>
    rw [forItems_cons]
    infer_instance

theorem tame_whileTrue {condition : Run Bool} {body : Run Unit} (hc : Tame condition)
    (hb : Tame body) (fuel : Nat) : Tame (whileTrue fuel condition body) := by
  induction fuel with
  | zero => exact tame_exhausted
  | succ fuel ih =>
    rw [whileTrue_succ]
    infer_instance

instance tame_inComprehension (name : String) (clauses : List (Expr × Expr × List Expr)) (s : Span)
    (p : Run α) [hp : Tame p] : Tame (inComprehension name clauses s p) := by
  unfold inComprehension
  refine Tame.askAgree (fun i => inferInstance) fun i j h => ?_
  refine .inr (.bind (.change fun _ _ _ => h.addRoom {}) fun _ =>
    .under _ _ (.inScope ?_ hp.agrees))
  simp only [Scope.anywhere, h.rooms, Scope.labelStart_eq h.scope, Scope.locals_eq h.scope,
    Scope.home_eq h.scope, Scope.thread_eq h.scope]

instance tame_noteDroppedFile (receiver : Expr) (v : Value) : Tame (noteDroppedFile receiver v) := by
  refine ⟨fun m => ?_, fun m n hmn => ?_, .of_still fun w i => ?_⟩
  · unfold noteDroppedFile
    split <;> exact .refl m.1
  · have h := hmn.interpreter
    unfold noteDroppedFile
    rcases h.object? v with hv | ⟨r, s, hi, hj⟩
    · rw [hv]
      split
      · refine ⟨.refl _, hmn.world, ?_⟩
        dsimp only
        rw [h.globals]
        split
        · exact h
        · exact h.setGlobals _
      · exact ⟨.refl _, hmn⟩
    · rw [hi, hj]
      cases receiver <;> exact ⟨.refl _, hmn⟩
  · unfold noteDroppedFile
    dsimp only
    split <;> rfl

/-! ### Expressions and statements -/

/-- All that the parts of a program do within a number of steps. It is a class, so that in the step
from one bound to the next the hypotheses of the induction are found like the facts about the actions
above. -/
class TameAt (fuel : Nat) : Prop where
  eval (e : Expr) : Tame (eval fuel e)
  holds (e : Expr) : Tame (holds fuel e)
  spread (s : Span) (user : Text) (es : List Expr) : Tame (spread fuel s user es)
  textOf (parts : List Expr) : Tame (textOf fuel parts)
  firstSource (s : Span) (clauses : List (Expr × Expr × List Expr)) :
    Tame (firstSource fuel s clauses)
  comprehension (asked s : Span) (b : Brackets) (element : Expr)
    (clauses : List (Expr × Expr × List Expr)) : Tame (comprehension fuel asked s b element clauses)
  clauseItems (s : Span) (first : Option (List Value)) (clauses : List (Expr × Expr × List Expr))
    (element : Run Value) [Tame element] : Tame (clauseItems fuel s first clauses element)
  allHold (conditions : List Expr) : Tame (allHold fuel conditions)
  routine (name : Text) (parameters : List (Text × Option Expr)) (body : List Stmt) :
    Tame (routine fuel name parameters body)
  compareChain (s : Span) (v : Value) (others : List (Comparison × Expr)) :
    Tame (compareChain fuel s v others)
  callWith (s : Span) (f : Value) (arguments : List Expr)
    (named : List (Option Text × Span × Expr)) : Tame (callWith fuel s f arguments named)
  call (s : Span) (f : Value) (vs : List Value) (named : List (Text × Value)) :
    Tame (call fuel s f vs named)
  keys (s : Span) (f : Option Value) (vs : List Value) : Tame (keys fuel s f vs)
  callMethod (s : Span) (v : Value) (n : Text) (vs : List Value) : Tame (callMethod fuel s v n vs)
  assign (target : Expr) (v : Value) : Tame (assign fuel target v)
  delete (target : Expr) : Tame (delete fuel target)
  exec (st : Stmt) : Tame (exec fuel st)
  execEach (ss : List Stmt) : Tame (execEach fuel ss)
  importedName (s : Span) (moduleName : Text) (v : Value) (n : Text) :
    Tame (importedName fuel s moduleName v n)
  importNamed (s : Span) (name : Text) : Tame (importNamed fuel s name)
  loadModule (s : Span) (name : Text) (origin : Origin) : Tame (loadModule fuel s name origin)

attribute [instance] TameAt.eval TameAt.holds TameAt.spread TameAt.textOf TameAt.firstSource
  TameAt.comprehension TameAt.clauseItems TameAt.allHold TameAt.routine TameAt.compareChain
  TameAt.callWith TameAt.call TameAt.keys TameAt.callMethod TameAt.assign TameAt.delete TameAt.exec
  TameAt.execEach TameAt.importedName TameAt.importNamed TameAt.loadModule

-- `delete` is opened by evaluation here and below: one of its branches is a function where an action is
-- expected, and its equations take too long to come by.
theorem delete_name_apply (fuel : Nat) (s : Span) (n : Text) (m : Machine) :
    delete (fuel + 1) (.name s n) m = match unbind n m.2 with
      | .ok i => (.ok (), m.1, i)
      | .error e => raiseAt s e m := rfl

variable {fuel : Nat} [TameAt fuel]

instance tame_itemsOf (s : Span) (v : Value) :
    Tame (do let i ← interpreter; orRaise s (items i v)) :=
  Tame.ask (fun i => inferInstance) fun i j h => by rw [h.items]

theorem tame_eval_succ (e : Expr) : Tame (eval (fuel + 1) e) := by
  cases e with
  | literal s v => simp only [eval]; infer_instance
  | ellipsis s => simp only [eval]; infer_instance
  | name s n =>
    simp only [eval]
    exact Tame.ask (fun i => inferInstance) fun i j h => by rw [h.lookUp]
  | items s b es =>
    simp only [eval]
    refine (TameAt.spread ..).andThen fun vs => ?_
    split <;> infer_instance
  | starred s e => simp only [eval]; infer_instance
  | mapping s entries =>
    simp only [eval]
    refine Tame.andThen (Tame.forEach (fun e => ?_) _) fun ess => inferInstance
    split
    · infer_instance
    · refine Tame.andThen inferInstance fun v => ?_
      split <;> infer_instance
  | template s parts => simp only [eval]; infer_instance
  | field s e c format =>
    simp only [eval]
    refine Tame.andThen inferInstance fun v => Tame.andThen inferInstance fun t =>
      Tame.ask (fun i => ?_) fun i j h => by simp only [h.plain]
    split <;> infer_instance
  | unary s op e => cases op <;> simp only [eval] <;> infer_instance
  | binary s op l r => simp only [eval]; infer_instance
  | compare s first others => simp only [eval]; infer_instance
  | both s l r =>
    simp only [eval]
    exact Tame.andThen inferInstance fun v =>
      Tame.ask (fun i => inferInstance) fun i j h => by rw [h.truth]
  | either s l r =>
    simp only [eval]
    exact Tame.andThen inferInstance fun v =>
      Tame.ask (fun i => inferInstance) fun i j h => by rw [h.truth]
  | choice s c yes no => simp only [eval]; infer_instance
  | member s e n => simp only [eval]; infer_instance
  | subscript s e k =>
    simp only [eval]
    exact Tame.andThen inferInstance fun v => Tame.andThen inferInstance fun k =>
      Tame.ask (fun i => inferInstance) fun i j h => by rw [h.subscript]
  | slice s a b c =>
    simp only [eval]
    refine Tame.andThen (Tame.forEach (fun e => ?_) _) fun vs => ?_
    · split <;> infer_instance
    · split <;> infer_instance
  | call s f arguments named => cases f <;> simp only [eval] <;> infer_instance
  | comprehension s b element clauses => cases b <;> simp only [eval] <;> infer_instance
  | mappingComprehension s k v clauses => simp only [eval]; infer_instance
  | function s parameters body => simp only [eval]; infer_instance

theorem tame_holds_succ (e : Expr) : Tame (holds (fuel + 1) e) := by
  simp only [holds]
  exact Tame.andThen inferInstance fun v =>
    Tame.ask (fun i => inferInstance) fun i j h => by rw [h.truth]

theorem tame_spread_succ (s : Span) (user : Text) (es : List Expr) :
    Tame (spread (fuel + 1) s user es) := by
  simp only [spread]
  refine Tame.andThen (Tame.forEach (fun e => ?_) es) fun vss => inferInstance
  split
  · refine Tame.andThen inferInstance fun v => Tame.ask (fun i => ?_) fun i j h => by rw [h.items]
    split <;> infer_instance
  · infer_instance

theorem tame_textOf_succ (parts : List Expr) : Tame (textOf (fuel + 1) parts) := by
  simp only [textOf]
  infer_instance

theorem tame_firstSource_succ (s : Span) (clauses : List (Expr × Expr × List Expr)) :
    Tame (firstSource (fuel + 1) s clauses) := by
  cases clauses <;> simp only [firstSource] <;> infer_instance

theorem tame_comprehension_succ (asked s : Span) (b : Brackets) (element : Expr)
    (clauses : List (Expr × Expr × List Expr)) :
    Tame (comprehension (fuel + 1) asked s b element clauses) := by
  cases b <;> simp only [comprehension] <;> infer_instance

theorem tame_clauseItems_succ (s : Span) (first : Option (List Value))
    (clauses : List (Expr × Expr × List Expr)) (element : Run Value) [Tame element] :
    Tame (clauseItems (fuel + 1) s first clauses element) := by
  cases clauses with
  | nil => simp only [clauseItems]; infer_instance
  | cons clause others =>
    cases first with
    | some xs => simp only [clauseItems]; infer_instance
    | none =>
      simp only [clauseItems]
      exact Tame.andThen inferInstance fun v =>
        Tame.ask (fun i => inferInstance) fun i j h => by rw [h.items]

theorem tame_allHold_succ (conditions : List Expr) : Tame (allHold (fuel + 1) conditions) := by
  cases conditions <;> simp only [allHold] <;> infer_instance

theorem tame_routine_succ (name : Text) (parameters : List (Text × Option Expr))
    (body : List Stmt) : Tame (routine (fuel + 1) name parameters body) := by
  simp only [routine]
  refine Tame.andThen (Tame.forEach (fun p => ?_) _) fun ps =>
    Tame.askAgree (fun i => inferInstance) fun i j h => .inr (.alloc ?_)
  · split <;> infer_instance
  · simp only [Object.anywhere, Scope.labelStart_eq h.scope, Scope.home_eq h.scope,
      Scope.locals_eq h.scope]

theorem tame_compareChain_succ (s : Span) (v : Value) (others : List (Comparison × Expr)) :
    Tame (compareChain (fuel + 1) s v others) := by
  cases others with
  | nil => simp only [compareChain]; infer_instance
  | cons other rest =>
    simp only [compareChain]
    refine Tame.andThen inferInstance fun w => Tame.ask (fun i => inferInstance) fun i j h => ?_
    rcases h.object? w with hw | ⟨r, s, hi, hj⟩
    · rw [hw]
    · rw [hi, hj]
      cases other.1 <;> rfl

theorem tame_callWith_succ (s : Span) (f : Value) (arguments : List Expr)
    (named : List (Option Text × Span × Expr)) : Tame (callWith (fuel + 1) s f arguments named) := by
  simp only [callWith]
  refine Tame.ask (fun i => ?_) fun i j h => by simp only [h.label]
  repeat' first
    | infer_instance
    | split
    | refine Tame.andThen inferInstance fun _ => ?_
    | refine Tame.andThen (Tame.forEach (fun _ => ?_) _) fun _ => ?_

theorem tame_call_succ (s : Span) (f : Value) (vs : List Value) (named : List (Text × Value)) :
    Tame (call (fuel + 1) s f vs named) := by
  simp only [call]
  refine Tame.askAgree (fun i => ?_) fun i j h => ?_
  · repeat' first
      | infer_instance
      | split
      | refine Tame.andThen inferInstance fun _ => ?_
  · -- Only a routine knows where it was defined.
    by_cases hr : ∃ r, j.object? f = some (.routine r)
    · obtain ⟨r, hj⟩ := hr
      obtain ⟨source, hi⟩ := h.object?_routine hj
      rw [hi, hj]
      refine .inr (.bind (tame_orRaise ..).agrees fun d =>
        .bind (.change fun _ _ _ => h.addRoom d) fun _ => .under _ _ (.inScope ?_ Tame.agrees))
      simp only [Scope.anywhere, Routine.scope, Routine.ownNames, h.room_eq,
        Scope.thread_eq h.scope]
    · have hf : i.object? f = j.object? f := (h.object? f).resolve_right fun ⟨r, s, _, hj⟩ =>
        hr ⟨_, hj⟩
      rw [hf]
      refine .inl ?_
      rcases hj : j.object? f with _ | o
      · rfl
      · cases o with
        | routine r => exact absurd ⟨r, hj⟩ hr
        | builtin n => simp only [h.items]
        | kind n => simp only [h.items, h.truth]
        | _ => rfl

theorem tame_keys_succ (s : Span) (f : Option Value) (vs : List Value) :
    Tame (keys (fuel + 1) s f vs) := by
  simp only [keys]
  split <;> infer_instance

theorem tame_callMethod_succ (s : Span) (v : Value) (n : Text) (vs : List Value) :
    Tame (callMethod (fuel + 1) s v n vs) := by
  rw [callMethod]
  refine Tame.askAgree (fun i => ?_) fun i j h => ?_
  · dsimp only
    split
    case h_5 => split <;> infer_instance
    case h_7 =>
      split
      · exact Tame.attempt inferInstance (fun r => inferInstance) fun e t t' => rfl
      · infer_instance
    all_goals infer_instance
  · simp only [h.textMethod]
    rcases h.object? v with hv | ⟨r, s, hi, hj⟩
    · rw [hv]
      split
      case h_7 =>
        split
        · refine .inr (.attempt (.inScope ?_ Tame.agrees) (fun r => .pure _) fun e t t' => .pure _)
          exact congrArg (fun c : Scope => { c with thread := c.thread + 1 }) h.scope
        · exact .inl rfl
      all_goals exact .inl rfl
    · rw [hi, hj]
      cases v <;> exact .inl rfl

theorem tame_assign_succ (target : Expr) (v : Value) : Tame (assign (fuel + 1) target v) := by
  cases target with
  | items s b ts =>
    simp only [assign]
    refine Tame.ask (fun i => ?_) fun i j h => by rw [h.items]
    split <;> infer_instance
  | _ => simp only [assign]; infer_instance

theorem tame_delete_succ (target : Expr) : Tame (delete (fuel + 1) target) := by
  cases target with
  | name s n =>
    refine ⟨fun m => ?_, fun m m' hmn => ?_, .of_still fun w i => ?_⟩
    · rw [delete_name_apply]
      split <;> exact .refl m.1
    · rw [delete_name_apply, delete_name_apply]
      rcases hmn.interpreter.unbind n with ⟨i', j', hi, hj, h⟩ | ⟨e, hi, hj⟩
      · rw [hi, hj]
        exact ⟨.refl _, hmn.world, h⟩
      · rw [hi, hj]
        exact Agree.raiseAt s s e hmn
    · rw [delete_name_apply, delete_name_apply]
      dsimp only
      cases unbind n i <;> rfl
  | items s b ts =>
    show Tame (do let _ ← Action.each (delete fuel) ts)
    infer_instance
  | member s e n =>
    show Tame (do
      let owner ← eval fuel e
      raiseAt s (attributeError owner n))
    infer_instance
  | subscript s e k =>
    show Tame (do
      let owner ← eval fuel e
      let k ← eval fuel k
      assign fuel e (← orRaise s (withoutItem owner k)))
    infer_instance
  | _ => exact Tame.pure ()

theorem tame_exec_succ (st : Stmt) : Tame (exec (fuel + 1) st) := by
  cases st with
  | augment s t op e =>
    simp only [exec]
    refine Tame.andThen inferInstance fun v => Tame.andThen inferInstance fun w =>
      Tame.ask (fun i => ?_) fun i j h => by simp only [h.items, h.entriesOf]
    split <;> infer_instance
  | repeatWhile s c body no =>
    simp only [exec]
    exact (tame_whileTrue inferInstance inferInstance _).andThen fun b => inferInstance
  | forEach s t source body no =>
    simp only [exec]
    refine Tame.andThen inferInstance fun v => Tame.ask (fun i => ?_) fun i j h => by rw [h.items]
    exact Tame.andThen inferInstance fun xs =>
      (tame_forItems (fun x => inferInstance) xs).andThen fun b => inferInstance
  | give s e => cases e <;> simp only [exec] <;> infer_instance
  | «raise» s e cause =>
    cases e with
    | none => simp only [exec]; infer_instance
    | some e =>
      simp only [exec]
      refine Tame.andThen inferInstance fun v => Tame.andThen inferInstance fun causes =>
        Tame.ask (fun i => ?_) fun i j h => by simp only [h.raisable]
      refine Tame.andThen inferInstance fun x =>
        Tame.andThen (Tame.forEach (fun c => ?_) causes) fun _ => inferInstance
      split <;> infer_instance
  | load s ms =>
    simp only [exec]
    refine Tame.andThen (Tame.forEach (fun m => Tame.andThen inferInstance fun v => ?_) ms)
      fun _ => inferInstance
    split <;> infer_instance
  | loadFrom s m ns =>
    simp only [exec]
    refine Tame.andThen inferInstance fun v =>
      Tame.andThen (Tame.forEach (fun n => ?_) ns) fun _ => inferInstance
    split
    · exact Tame.ask (fun i => tame_changeInterpreter fun _ _ h => h.bindEach _)
        fun i j h => by rw [h.publicNames]
    · infer_instance
  | «check» s c message =>
    simp only [exec]
    refine Tame.andThen inferInstance fun b => ?_
    cases message <;> infer_instance
  | _ => simp only [exec]; infer_instance

theorem tame_execEach_succ (ss : List Stmt) : Tame (execEach (fuel + 1) ss) := by
  simp only [execEach]
  infer_instance

theorem tame_importedName_succ (s : Span) (moduleName : Text) (v : Value) (n : Text) :
    Tame (importedName (fuel + 1) s moduleName v n) := by
  simp only [importedName]
  refine Tame.attempt inferInstance (fun r => ?_) fun e t t' => rfl
  split
  · infer_instance
  · refine Tame.ask (fun i => ?_) fun i j h => by simp only [h.packagePlaces?, h.noImport]
    split
    · refine Tame.attemptAgree inferInstance (fun r => ?_) fun e t t' => ?_
      · split <;> infer_instance
      · dsimp only
        split
        · exact .raiseAt _ _ _
        · exact fun _ _ h => ⟨.raised .., h⟩
    · infer_instance

instance tame_join (package name : Text) (v : Value) :
    Tame (changeInterpreter fun i => { i with
      modules := i.modules.set package (((i.modules.get? package).getD {}).set name v) }) :=
  tame_changeModules fun ms => ms.set package (((ms.get? package).getD {}).set name v)

theorem origin?_withConsole (w : World) (k : Console) (places : List Text) (n : Text) :
    origin? (w.withConsole k) places n = origin? w places n := by
  have hsaid := w.said_withConsole k
  have hlocate : (w.withConsole k).locate = w.locate := funext (World.SameTree.of_said hsaid).locate
  have hread : (w.withConsole k).read = w.read := funext (World.read_of_said hsaid)
  unfold origin? originIn?
  rw [hlocate, hread]
  rfl

theorem tame_importNamed_succ (s : Span) (name : Text) : Tame (importNamed (fuel + 1) s name) := by
  simp only [importNamed]
  refine Tame.ask (fun i => tame_askWorld (fun w => ?_) fun w k => rfl) fun i j h => by rw [h.modules]
  repeat' first
    | infer_instance
    | split
    | refine tame_lookFor (fun _ => ?_) fun w k => by rw [origin?_withConsole]
    | refine Tame.ask (fun _ => ?_) fun i j h => by rw [h.packagePlaces?]
    | refine Tame.andThen inferInstance fun _ => ?_

theorem tame_loadModule_succ (s : Span) (name : Text) (origin : Origin) :
    Tame (loadModule (fuel + 1) s name origin) := by
  simp only [loadModule]
  have hset : ∀ d, Tame (changeInterpreter fun i => { i with modules := i.modules.set name d }) :=
    fun d => tame_changeModules fun ms => ms.set name d
  have hrun : ∀ d file l, Tame (changeInterpreter fun i =>
      { i with modules := i.modules.set name d, listings := i.listings.set file l }) :=
    fun d _ _ => tame_changeInterpreter fun i j h => { h with modules := by rw [h.modules] }
  have herase : Tame (changeInterpreter fun i => { i with modules := i.modules.erase name }) :=
    tame_changeModules fun ms => ms.erase name
  refine Tame.askAgree (fun i => ?_) fun i j h => ?_
  · split
    · infer_instance
    · split
      · infer_instance
      · refine Tame.andThen inferInstance fun _ => Tame.attemptAgree inferInstance (fun r => ?_)
          fun e t t' => herase.agrees.bind fun _ _ _ hmn => ⟨.raised .., hmn⟩
        split <;> infer_instance
  · cases origin with
    | directories ds => exact .inl rfl
    | file file text directory =>
      dsimp only
      split
      · exact .inl rfl
      · refine .inr (.bind Tame.agrees fun _ => .attempt (.under _ _ (.inScope ?_ Tame.agrees))
          (fun r => ?_) fun e t t' => herase.agrees.bind fun _ _ _ hmn => ⟨.raised .., hmn⟩)
        · rw [Scope.thread_eq h.scope]
        · split <;> exact Tame.agrees

end Run

/-- Within no steps at all nothing is done. -/
theorem Run.tameAt_zero : TameAt 0 where
  eval e := by rw [eval]; infer_instance
  holds e := by rw [holds]; infer_instance
  spread s user es := by rw [spread]; infer_instance
  textOf parts := by rw [textOf]; infer_instance
  firstSource s clauses := by rw [firstSource]; infer_instance
  comprehension asked s b element clauses := by rw [comprehension]; infer_instance
  clauseItems s first clauses element := by rw [clauseItems]; infer_instance
  allHold conditions := by rw [allHold]; infer_instance
  routine name parameters body := by rw [routine]; infer_instance
  compareChain s v others := by rw [compareChain]; infer_instance
  callWith s f arguments named := by rw [callWith]; infer_instance
  call s f vs named := by rw [call]; infer_instance
  keys s f vs := by rw [keys]; infer_instance
  callMethod s v n vs := by rw [callMethod]; infer_instance
  assign target v := by rw [assign]; infer_instance
  delete target := tame_exhausted
  exec st := by rw [exec]; infer_instance
  execEach ss := by rw [execEach]; infer_instance
  importedName s moduleName v n := by rw [importedName]; infer_instance
  importNamed s name := by rw [importNamed]; infer_instance
  loadModule s name origin := by rw [loadModule]; infer_instance

/-- Whatever a program does, it is tame. -/
instance Run.tameAt (fuel : Nat) : TameAt fuel := by
  induction fuel with
  | zero => exact tameAt_zero
  | succ fuel ih =>
    exact ⟨tame_eval_succ, tame_holds_succ, tame_spread_succ, tame_textOf_succ,
      tame_firstSource_succ, tame_comprehension_succ, tame_clauseItems_succ, tame_allHold_succ,
      tame_routine_succ, tame_compareChain_succ, tame_callWith_succ, tame_call_succ,
      tame_keys_succ, tame_callMethod_succ, tame_assign_succ, tame_delete_succ, tame_exec_succ,
      tame_execEach_succ, tame_importedName_succ, tame_importNamed_succ, tame_loadModule_succ⟩

/-! ### Snippets -/

instance tame_readOrRaise (source : Text) (r : Except Misreading α) : Tame (readOrRaise source r) := by
  cases r with
  | ok a => exact Tame.pure a
  | error f => exact Tame.fail _

instance tame_check (source : Text) (f : Option Misreading) : Tame (check source f) := by
  cases f with
  | none => exact Tame.pure ()
  | some f => exact Tame.fail _

instance tame_checkCharacters (text : Text) : Tame (checkCharacters text) := by
  unfold checkCharacters refuse
  infer_instance

instance tame_read (source text : Text) : Tame (read source text) := by
  unfold read
  infer_instance

instance tame_execute (source : Text) (body : List Stmt) : Tame (execute source body) := by
  unfold execute
  infer_instance

instance tame_evalWhole (source : Text) (e : Expr) : Tame (evalWhole source e) := by
  unfold evalWhole
  infer_instance

instance tame_value (source : Text) (e : Expr) : Tame (value source e) := by
  unfold value
  infer_instance

instance tame_expression (source text : Text) : Tame (expression source text) := by
  unfold expression
  infer_instance

instance tame_executeAll (source : Text) (body : List Stmt) : Tame (engine.executeAll source body) := by
  cases body with
  | nil => exact Tame.pure ()
  | cons st body => exact tame_execute source (st :: body)

instance tame_conclude (source : Text) (body : List Stmt) : Tame (engine.conclude source body) := by
  unfold Engine.conclude
  cases body.getLast?.bind engine.expression? with
  | some e =>
    have hvalue : Tame (engine.value source e) := tame_value source e
    infer_instance
  | none => infer_instance

instance tame_keep (v : Option Value) :
    Tame (Action.change fun m : Machine => (m.1, engine.keepIn m.2 v) : Run Unit) := by
  refine Run.tame_changeInterpreter (f := fun i => engine.keepIn i v) fun i j h => ?_
  cases v with
  | none => exact h
  | some v =>
    show Akin (if engine.isNothing v then i else engine.keep v i)
      (if engine.isNothing v then j else engine.keep v j)
    split
    · exact h
    · exact { h with names := congrArg (·.set lastName v) h.names }

abbrev statements (source text : Text) : Run Unit := engine.statements source text

instance tame_statements (source text : Text) : Tame (statements source text) := by
  have hread : Tame (engine.read source text) := tame_read source text
  exact (hread.andThen fun body => tame_conclude source body).andThen tame_keep

end Program

end Weave
