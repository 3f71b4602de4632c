import Weave.Proofs.Program.Effects
import Weave.Proofs.Program.Sparing

/-!
# What spares the last value

An expression or a statement that spares the last value, as far as its text tells, leaves the value as
it is when it is evaluated or executed, however that ends. The functions that are always there and the
modules that are loaded cannot reach the value, and the routines of the session spare it too. As
everything calls everything, this is one induction on the bound on the number of steps.
-/

set_option autoImplicit false

namespace Weave.Program.Run

variable {α : Type} {A : Prop} {c : Scope}

/-! ### Functions that call no others -/

section Objects

-- Only a routine can fail to spare the last value.
instance sparing_allocKind (n : Text) : Sparing A c (alloc (.kind n)) := sparing_alloc fun _ => trivial

instance sparing_allocMethod (v : Value) (n : Text) : Sparing A c (alloc (.method v n)) :=
  sparing_alloc fun _ => trivial

instance sparing_allocModule (n : Text) : Sparing A c (alloc (.moduleNamed n)) := sparing_alloc fun _ => trivial

instance sparing_allocException (e : Exception) : Sparing A c (alloc (.exception e)) :=
  sparing_alloc fun _ => trivial

instance sparing_allocFile (t : Text) : Sparing A c (alloc (.file t)) := sparing_alloc fun _ => trivial

instance sparing_allocSlice (x y z : Value) : Sparing A c (alloc (.slice x y z)) :=
  sparing_alloc fun _ => trivial

instance sparing_allocView (n : Text) (vs : List Value) : Sparing A c (alloc (.view n vs)) :=
  sparing_alloc fun _ => trivial

instance sparing_allocThread (f : Value) (vs : List Value) : Sparing A c (alloc (.thread f vs)) :=
  sparing_alloc fun _ => trivial

instance sparing_allocReplMember (m : ReplMember Value) : Sparing A c (alloc (.replMember m)) :=
  sparing_alloc fun _ => trivial

end Objects

instance sparing_writeOthers (s : Span) (target : Stream) (between : Text) (vs : List Value) :
    Sparing A c (writeOthers s target between vs) := by
  induction vs with
  | nil => exact Sparing.pure ()
  | cons v vs ih =>
    unfold writeOthers
    infer_instance

instance sparing_print (s : Span) (vs : List Value) (named : List (Text × Value)) :
    Sparing A c (print s vs named) := by
  unfold print
  dsimp only
  refine Sparing.andThen inferInstance fun i => (sparing_orRaise ..).andThen fun between =>
    (sparing_orRaise ..).andThen fun ending => ?_
  repeat' split
  all_goals infer_instance

instance sparing_openFile (s : Span) (vs : List Value) : Sparing A c (openFile s vs) := by
  unfold openFile
  dsimp only
  repeat' split
  all_goals infer_instance

instance sparing_changeDirectory (s : Span) (vs : List Value) : Sparing A c (changeDirectory s vs) := by
  unfold changeDirectory
  split
  · exact (sparing_lookFor _).andThen fun w => (sparing_orRaise ..).andThen fun w' => .of_same fun _ => rfl
  all_goals infer_instance

instance sparing_callBuiltin (s : Span) (n : Text) (vs : List Value) (named : List (Text × Value)) :
    Sparing A c (callBuiltin s n vs named) := by
  unfold callBuiltin
  dsimp only
  refine (sparing_orRaise ..).andThen fun _ => Sparing.andThen inferInstance fun i => ?_
  repeat' split
  all_goals infer_instance

theorem spares_of_rangeOf {vs : List Value} {o : Object} (h : rangeOf vs = .ok o) : o.Spares := by
  unfold rangeOf at h
  cases hns : vs.mapM wholeOf with
  | error e =>
    rw [hns] at h
    cases h
  | ok ns =>
    rw [hns] at h
    rcases ns with _ | ⟨x, _ | ⟨y, _ | ⟨z, _ | ⟨_, _⟩⟩⟩⟩
    case cons.cons.cons.nil =>
      change (if z = 0 then .error _ else .ok (.range x y z)) = Except.ok o at h
      split at h <;> cases h
      trivial
    all_goals
      cases h
      try trivial

instance sparing_allocRange (s : Span) (vs : List Value) :
    Sparing A c (do let o ← orRaise s (rangeOf vs); alloc o) := by
  cases h : rangeOf vs with
  | error e => exact .of_same fun _ => rfl
  | ok o => exact sparing_alloc fun _ => spares_of_rangeOf h

instance sparing_callKind (s : Span) (n : Text) (vs : List Value) (named : List (Text × Value)) :
    Sparing A c (callKind s n vs named) := by
  unfold callKind
  refine Sparing.andThen inferInstance fun i => ?_
  dsimp only
  split
  · infer_instance
  · split
    · split <;> infer_instance
    · split
      · infer_instance
      · refine (sparing_orRaise ..).andThen fun _ => ?_
        repeat' split
        all_goals infer_instance

/-! ### Members, loops and scopes -/

instance sparing_member (s : Span) (v : Value) (n : Text) : Sparing A c (member s v n) := by
  unfold member
  refine Sparing.andThen inferInstance fun i => ?_
  repeat' first
    | infer_instance
    | split
    | refine Sparing.andThen inferInstance fun _ => ?_

instance sparing_setBuiltinMember (m n : Text) (x : Value) : Sparing A c (setBuiltinMember m n x) := by
  unfold setBuiltinMember
  split
  · split
    · exact .of_same fun _ => rfl
    · infer_instance
  · infer_instance

instance sparing_setMember (s : Span) (v : Value) (n : Text) (x : Value) :
    Sparing A c (setMember s v n x) := by
  unfold setMember
  refine Sparing.andThen inferInstance fun i => ?_
  split
  · exact sparing_changeInterpreter fun _ => ⟨rfl, rfl, rfl⟩
  · split
    · exact sparing_changeInterpreter fun _ => ⟨rfl, rfl, rfl⟩
    · infer_instance
  · infer_instance

instance sparing_goesOn (p : Run Unit) [hp : Sparing A c p] : Sparing A c (goesOn p) := by
  refine .of_ends hp fun m => ?_
  unfold goesOn
  rcases p m with ⟨(_ | _ | _ | _ | _) | _, t⟩ <;> rfl

instance sparing_returned (p : Run Unit) [hp : Sparing A c p] : Sparing A c (returned p) := by
  refine .of_ends hp fun m => ?_
  unfold returned
  rcases p m with ⟨(_ | _ | _ | _ | _) | _, t⟩ <;> rfl

theorem sparing_forItems {body : Value → Run Unit} (hb : ∀ v, Sparing A c (body v)) (vs : List Value) :
    Sparing A c (forItems body vs) := by
  induction vs with
  | nil => exact Sparing.pure true
  | cons v vs ih =>
    rw [forItems_cons]
    infer_instance

theorem sparing_whileTrue {condition : Run Bool} {body : Run Unit} (hc : Sparing A c condition)
    (hb : Sparing A c body) (fuel : Nat) : Sparing A c (whileTrue fuel condition body) := by
  induction fuel with
  | zero => exact sparing_exhausted
  | succ fuel ih =>
    rw [whileTrue_succ]
    infer_instance

/-- A room is added for names of a scope in which something is then done. -/
theorem sparing_room {d : Scope} {q : Run α} (hq : Sparing A d q) (f : Frame) (names : Dictionary Value)
    {m : Machine} (hm : A → m.2.Spares) :
    Keeps A m.2 ((do
      changeInterpreter fun _ => (m.2.addRoom names).2
      under f (inScope d q) : Run α) m).2.2 := by
  have hroom : Keeps A m.2 (m.2.addRoom names).2 := .of_eq hm rfl rfl fun _ => rfl
  have hinside : Sparing A m.2.scope (inScope d q) := sparing_inScope hq
  have hunder : Sparing A m.2.scope (under f (inScope d q)) := sparing_under f _
  exact hroom.trans (hunder.keeps (m := (m.1, (m.2.addRoom names).2)) hroom.scope hroom.objects)

instance sparing_noteDroppedFile (receiver : Expr) (v : Value) : Sparing A c (noteDroppedFile receiver v) := by
  refine ⟨fun {m} hc hm => ?_⟩
  unfold noteDroppedFile
  split
  · dsimp only
    split
    · exact .refl hm
    · have hlast : (m.2.setGlobals (m.2.globals.set "__warningregistry__".toList (.dict []))).names.get?
          lastName = m.2.names.get? lastName := by
        rw [names_setGlobals]
        split
        next hhome => rw [Dictionary.get?_set, if_neg (by decide), globals_of_home hhome]
        next => rfl
      refine .of_eq hm ?_ ?_ fun _ => hlast
      all_goals
        unfold Interpreter.setGlobals
        split <;> rfl
  · exact .refl hm

theorem sparing_inComprehension {name : String} {clauses : List (Expr × Expr × List Expr)} {s : Span}
    {p : Run α} (hp : ∀ d : Scope, d.home = c.home →
      d.holdsLast = (c.holdsLast || decide (lastName ∈ clauseNames clauses)) → Sparing A d p) :
    Sparing A c (inComprehension name clauses s p) := by
  refine ⟨fun {m} hc hm => ?_⟩
  let d : Scope := { m.2.scope with
    routine := name.toList
    labelStart := m.2.scope.labelStart ++ name.toList ++ ".<locals>.".toList
    locals := { own := clauseNames clauses, room := m.2.rooms.size } :: m.2.scope.locals }
  have hholds : d.holdsLast = (c.holdsLast || decide (lastName ∈ clauseNames clauses)) := by
    rw [← hc, Scope.holdsLast, roomOf?]
    by_cases hn : lastName ∈ clauseNames clauses <;> simp [hn, Scope.holdsLast]
  exact sparing_room (hp d (by rw [← hc]) hholds) (frameAt s m.2) {} hm

/-! ### Expressions and statements -/

/-- All that spares the last value within a number of steps. It is a class, so that in the step from
one bound to the next the hypotheses of the induction are found like the facts about the actions
above. -/
class SparesAt (A : Prop) (fuel : Nat) : Prop where
  eval {c : Scope} (e : Expr) [At A c (Expr.spares · e)] : Sparing A c (eval fuel e)
  holds {c : Scope} (e : Expr) [At A c (Expr.spares · e)] : Sparing A c (holds fuel e)
  spread {c : Scope} (s : Span) (user : Text) (es : List Expr) [At A c (Expr.sparesEach · es)] :
    Sparing A c (spread fuel s user es)
  textOf {c : Scope} (parts : List Expr) [At A c (Expr.sparesEach · parts)] : Sparing A c (textOf fuel parts)
  firstSource {c : Scope} (s : Span) (clauses : List (Expr × Expr × List Expr)) {within : Bool → Bool}
    (h : At A c fun held => Expr.clausesSpare held (within held) clauses) :
    Sparing A c (firstSource fuel s clauses)
  comprehension {c : Scope} (asked s : Span) (b : Brackets) (element : Expr)
    (clauses : List (Expr × Expr × List Expr)) [At A c (Expr.spares · (.comprehension s b element clauses))] :
    Sparing A c (comprehension fuel asked s b element clauses)
  clauseItems {c : Scope} (s : Span) (first : Option (List Value))
    (clauses : List (Expr × Expr × List Expr)) (element : Run Value) {outside : Bool → Bool}
    (houtside : first = none → outside = id)
    (h : At A c fun within => Expr.clausesSpare (outside within) within clauses) [Sparing A c element] :
    Sparing A c (clauseItems fuel s first clauses element)
  allHold {c : Scope} (conditions : List Expr) [At A c (Expr.sparesEach · conditions)] :
    Sparing A c (allHold fuel conditions)
  routine {c : Scope} (name : Text) (parameters : List (Text × Option Expr)) (body : List Stmt)
    [At A c (Expr.parametersSpare · parameters)]
    [At A c fun held => Stmt.sparesEach (Stmt.holdsLast (parameters.map Prod.fst) body held) body] :
    Sparing A c (routine fuel name parameters body)
  compareChain {c : Scope} (s : Span) (v : Value) (others : List (Comparison × Expr))
    [At A c (Expr.othersSpare · others)] : Sparing A c (compareChain fuel s v others)
  callWith {c : Scope} (s : Span) (f : Value) (arguments : List Expr)
    (named : List (Option Text × Span × Expr)) [At A c (Expr.sparesEach · arguments)]
    [At A c (Expr.namedSpare · named)] : Sparing A c (callWith fuel s f arguments named)
  call {c : Scope} (s : Span) (f : Value) (vs : List Value) (named : List (Text × Value)) :
    Sparing A c (call fuel s f vs named)
  keys {c : Scope} (s : Span) (f : Option Value) (vs : List Value) : Sparing A c (keys fuel s f vs)
  callMethod {c : Scope} (s : Span) (v : Value) (n : Text) (vs : List Value) :
    Sparing A c (callMethod fuel s v n vs)
  assign {c : Scope} (target : Expr) (v : Value) [At A c (Expr.targetSpares · target)] :
    Sparing A c (assign fuel target v)
  delete {c : Scope} (target : Expr) [At A c (Expr.targetSpares · target)] : Sparing A c (delete fuel target)
  exec {c : Scope} (st : Stmt) [At A c (Stmt.spares · st)] : Sparing A c (exec fuel st)
  execEach {c : Scope} (ss : List Stmt) [At A c (Stmt.sparesEach · ss)] : Sparing A c (execEach fuel ss)
  importedName {c : Scope} (s : Span) (moduleName : Text) (v : Value) (n : Text) :
    Sparing A c (importedName fuel s moduleName v n)
  importNamed {c : Scope} (s : Span) (name : Text) : Sparing A c (importNamed fuel s name)
  loadModule {c : Scope} (s : Span) (name : Text) (origin : Origin) :
    Sparing A c (loadModule fuel s name origin)

attribute [instance] SparesAt.eval SparesAt.holds SparesAt.spread SparesAt.textOf SparesAt.comprehension
  SparesAt.allHold SparesAt.routine SparesAt.compareChain SparesAt.callWith SparesAt.call SparesAt.keys
  SparesAt.callMethod SparesAt.assign SparesAt.delete SparesAt.exec SparesAt.execEach SparesAt.importedName
  SparesAt.importNamed SparesAt.loadModule

section

variable {fuel : Nat} [SparesAt A fuel]

/-- Each of some expressions spares what all of them spare. -/
theorem at_of_mem {es : List Expr} {e : Expr} (h : At A c (Expr.sparesEach · es)) (he : e ∈ es) :
    At A c (Expr.spares · e) := h.imp fun _ hb => Expr.sparesEach_iff.mp hb e he

theorem at_of_some {o : Option Expr} {e : Expr} (h : At A c (Expr.optionSpares · o)) (he : e ∈ o) :
    At A c (Expr.spares · e) := h.imp fun _ hb => Expr.optionSpares_iff.mp hb e he

theorem sparing_evalEach {es : List Expr} (h : At A c (Expr.sparesEach · es)) :
    Sparing A c (Action.each (eval fuel) es) :=
  .forEach fun e he => by
    have := at_of_mem h he
    infer_instance

/-- The clauses of a comprehension and what it evaluates for each item, in a room of their own. -/
theorem sparing_clauses {name : String} {asked s : Span} {first : List Value}
    {clauses : List (Expr × Expr × List Expr)} {element : Run Value}
    (hclauses : At A c fun held =>
      Expr.clausesSpare held (held || decide (lastName ∈ clauseNames clauses)) clauses)
    (helement : ∀ d : Scope, d.home = c.home →
      d.holdsLast = (c.holdsLast || decide (lastName ∈ clauseNames clauses)) → Sparing A d element) :
    Sparing A c (inComprehension name clauses asked (clauseItems fuel s (some first) clauses element)) := by
  refine sparing_inComprehension fun d hhome hholds => ?_
  have := helement d hhome hholds
  have hinside : At A d fun within => Expr.clausesSpare ((fun _ => c.holdsLast) within) within clauses :=
    ⟨fun ha hd => by rw [hholds]; exact hclauses.spares ha (hhome ▸ hd)⟩
  exact SparesAt.clauseItems s (some first) clauses element nofun hinside

theorem sparing_eval_succ (e : Expr) [h : At A c (Expr.spares · e)] : Sparing A c (eval (fuel + 1) e) := by
  cases e with
  | literal s v => simp only [eval]; infer_instance
  | ellipsis s => simp only [eval]; infer_instance
  | name s n => simp only [eval]; infer_instance
  | items s b es =>
    simp only [Expr.spares] at h
    simp only [eval]
    refine (SparesAt.spread ..).andThen fun vs => ?_
    split <;> infer_instance
  | starred s e =>
    simp only [Expr.spares] at h
    simp only [eval]
    infer_instance
  | mapping s entries =>
    simp only [Expr.spares] at h
    simp only [eval]
    refine Sparing.andThen (Sparing.forEach fun e he => ?_) fun ess => inferInstance
    have hk : At A c (Expr.optionSpares · e.1) := h.imp fun _ hb => (Expr.entriesSpare_iff.mp hb e he).1
    have hv : At A c (Expr.spares · e.2) := h.imp fun _ hb => (Expr.entriesSpare_iff.mp hb e he).2
    split
    next k hsome =>
      have := at_of_some hk hsome
      infer_instance
    next =>
      refine Sparing.andThen inferInstance fun v => ?_
      split <;> infer_instance
  | template s parts =>
    simp only [Expr.spares] at h
    simp only [eval]
    infer_instance
  | field s e conversion format =>
    simp only [Expr.spares] at h
    obtain ⟨_, _⟩ := h.and
    simp only [eval]
    refine Sparing.andThen inferInstance fun v => Sparing.andThen inferInstance fun t =>
      Sparing.andThen inferInstance fun i => ?_
    split <;> infer_instance
  | unary s op e =>
    simp only [Expr.spares] at h
    cases op <;> simp only [eval] <;> infer_instance
  | binary s op l r =>
    simp only [Expr.spares] at h
    obtain ⟨_, _⟩ := h.and
    simp only [eval]
    infer_instance
  | compare s first others =>
    simp only [Expr.spares] at h
    obtain ⟨_, _⟩ := h.and
    simp only [eval]
    infer_instance
  | both s l r =>
    simp only [Expr.spares] at h
    obtain ⟨_, _⟩ := h.and
    simp only [eval]
    infer_instance
  | either s l r =>
    simp only [Expr.spares] at h
    obtain ⟨_, _⟩ := h.and
    simp only [eval]
    infer_instance
  | choice s condition yes no =>
    simp only [Expr.spares] at h
    obtain ⟨_, hrest⟩ := h.and
    obtain ⟨_, _⟩ := hrest.and
    simp only [eval]
    infer_instance
  | member s e n =>
    simp only [Expr.spares] at h
    simp only [eval]
    infer_instance
  | subscript s e k =>
    simp only [Expr.spares] at h
    obtain ⟨_, _⟩ := h.and
    simp only [eval]
    infer_instance
  | slice s x y z =>
    simp only [Expr.spares] at h
    obtain ⟨hx, hrest⟩ := h.and
    obtain ⟨hy, hz⟩ := hrest.and
    simp only [eval]
    refine Sparing.andThen (Sparing.forEach fun o ho => ?_) fun vs => ?_
    · have ho : At A c (Expr.optionSpares · o) := by
        simp only [List.mem_cons, List.not_mem_nil, or_false] at ho
        rcases ho with rfl | rfl | rfl <;> assumption
      split
      · have := at_of_some ho rfl
        infer_instance
      · infer_instance
    · split <;> infer_instance
  | call s f arguments named =>
    simp only [Expr.spares] at h
    obtain ⟨hf, hrest⟩ := h.and
    obtain ⟨_, _⟩ := hrest.and
    cases f with
    | member ms receiver n =>
      simp only [Expr.spares] at hf
      simp only [eval]
      infer_instance
    | _ => simp only [eval]; infer_instance
  | comprehension s b element clauses => cases b <;> simp only [eval] <;> infer_instance
  | mappingComprehension s k v clauses =>
    simp only [Expr.spares] at h
    obtain ⟨hclauses, hrest⟩ := h.and
    obtain ⟨hk, hv⟩ := hrest.and
    simp only [eval]
    refine (SparesAt.firstSource s clauses hclauses).andThen fun first =>
      (sparing_clauses hclauses fun d hhome hholds => ?_).andThen fun es => inferInstance
    have : At A d (Expr.spares · k) := hk.within hhome hholds
    have : At A d (Expr.spares · v) := hv.within hhome hholds
    infer_instance
  | function s parameters body =>
    simp only [Expr.spares] at h
    obtain ⟨_, hbody⟩ := h.and
    have : At A c fun held =>
        Stmt.sparesEach (Stmt.holdsLast (parameters.map Prod.fst) [.give body.span (some body)] held)
          [.give body.span (some body)] :=
      hbody.imp fun held hb => by
        rw [Stmt.holdsLast_give, Stmt.sparesEach_iff]
        simpa [Stmt.spares, Expr.optionSpares] using hb
    simp only [eval]
    infer_instance

theorem sparing_holds_succ (e : Expr) [At A c (Expr.spares · e)] : Sparing A c (holds (fuel + 1) e) := by
  simp only [holds]
  infer_instance

theorem sparing_spread_succ (s : Span) (user : Text) (es : List Expr) [h : At A c (Expr.sparesEach · es)] :
    Sparing A c (spread (fuel + 1) s user es) := by
  simp only [spread]
  refine Sparing.andThen (Sparing.forEach fun e he => ?_) fun vss => inferInstance
  have he := at_of_mem h he
  split
  · simp only [Expr.spares] at he
    refine Sparing.andThen inferInstance fun v => Sparing.andThen inferInstance fun i => ?_
    split <;> infer_instance
  · infer_instance

theorem sparing_textOf_succ (parts : List Expr) [h : At A c (Expr.sparesEach · parts)] :
    Sparing A c (textOf (fuel + 1) parts) := by
  simp only [textOf]
  exact (sparing_evalEach h).andThen fun vs => inferInstance

theorem sparing_firstSource_succ (s : Span) (clauses : List (Expr × Expr × List Expr)) {within : Bool → Bool}
    (h : At A c fun held => Expr.clausesSpare held (within held) clauses) :
    Sparing A c (firstSource (fuel + 1) s clauses) := by
  cases clauses with
  | nil => simp only [firstSource]; infer_instance
  | cons clause others =>
    simp only [Expr.clausesSpare] at h
    have := h.and.1
    simp only [firstSource]
    infer_instance

theorem sparing_comprehension_succ (asked s : Span) (b : Brackets) (element : Expr)
    (clauses : List (Expr × Expr × List Expr))
    [h : At A c (Expr.spares · (.comprehension s b element clauses))] :
    Sparing A c (comprehension (fuel + 1) asked s b element clauses) := by
  simp only [Expr.spares] at h
  obtain ⟨hclauses, helement⟩ := h.and
  simp only [comprehension]
  refine (SparesAt.firstSource s clauses hclauses).andThen fun first =>
    sparing_clauses hclauses fun d hhome hholds => ?_
  have : At A d (Expr.spares · element) := helement.within hhome hholds
  cases b <;> infer_instance

theorem sparing_clauseItems_succ (s : Span) (first : Option (List Value))
    (clauses : List (Expr × Expr × List Expr)) (element : Run Value) {outside : Bool → Bool}
    (houtside : first = none → outside = id)
    (h : At A c fun within => Expr.clausesSpare (outside within) within clauses) [Sparing A c element] :
    Sparing A c (clauseItems (fuel + 1) s first clauses element) := by
  cases clauses with
  | nil => simp only [clauseItems]; infer_instance
  | cons clause others =>
    obtain ⟨target, source, conditions⟩ := clause
    simp only [Expr.clausesSpare] at h
    obtain ⟨hsource, hrest⟩ := h.and
    obtain ⟨hfree, hrest⟩ := hrest.and
    obtain ⟨htarget, hrest⟩ := hrest.and
    obtain ⟨hconditions, hothers⟩ := hrest.and
    have : At A c (Expr.targetSpares · target) :=
      ⟨fun ha hc => by rw [Expr.targetSpares, hfree.spares ha hc, htarget.spares ha hc]; rfl⟩
    have (xs : List Value) : Sparing A c (Action.each (fun x => do
        assign fuel target x
        if ← allHold fuel conditions then clauseItems fuel s none others element else pure []) xs) := by
      have : Sparing A c (clauseItems fuel s none others element) :=
        SparesAt.clauseItems s none others element (fun _ => rfl) hothers
      infer_instance
    cases first with
    | some xs => simp only [clauseItems]; infer_instance
    | none =>
      obtain rfl := houtside rfl
      have : At A c (Expr.spares · source) := hsource
      simp only [clauseItems]
      infer_instance

theorem sparing_allHold_succ (conditions : List Expr) [h : At A c (Expr.sparesEach · conditions)] :
    Sparing A c (allHold (fuel + 1) conditions) := by
  cases conditions with
  | nil => simp only [allHold]; infer_instance
  | cons condition others =>
    simp only [Expr.sparesEach] at h
    obtain ⟨_, _⟩ := h.and
    simp only [allHold]
    infer_instance

/-- Parameters keep their names when their defaults are evaluated. -/
theorem names_of_each {β γ : Type} {f : Text × β → Run (Text × γ)}
    (hf : ∀ p m q t, f p m = (.ok q, t) → q.1 = p.1) {ps : List (Text × β)} {m t : Machine}
    {qs : List (Text × γ)} (h : Action.each f ps m = (.ok qs, t)) : qs.map Prod.fst = ps.map Prod.fst := by
  induction ps generalizing m qs with
  | nil =>
    cases h
    rfl
  | cons p ps ih =>
    obtain ⟨q, m', hq, hrest⟩ := Action.bind_eq_ok h
    obtain ⟨qs', m'', hqs, hpure⟩ := Action.bind_eq_ok hrest
    cases hpure
    rw [List.map_cons, List.map_cons, hf p m q m' hq, ih hqs]

theorem sparing_routine_succ (name : Text) (parameters : List (Text × Option Expr)) (body : List Stmt)
    [hparameters : At A c (Expr.parametersSpare · parameters)]
    [hbody : At A c fun held => Stmt.sparesEach (Stmt.holdsLast (parameters.map Prod.fst) body held) body] :
    Sparing A c (routine (fuel + 1) name parameters body) := by
  simp only [routine]
  refine Sparing.andThenOf (Sparing.forEach fun p hp => ?_) (fun m qs t => names_of_each ?_) fun qs hqs =>
    .ask fun i hi _ => sparing_alloc fun ha hhome => ?_
  · have hp : At A c (Expr.optionSpares · p.2) :=
      hparameters.imp fun _ hb => Expr.parametersSpare_iff.mp hb p hp
    split
    next e hsome =>
      have := at_of_some hp hsome
      infer_instance
    next => infer_instance
  · rintro ⟨n, _ | e⟩ m q t hq
    · cases hq
      rfl
    · obtain ⟨v, u, -, hpure⟩ := Action.bind_eq_ok hq
      cases hpure
      rfl
  · subst hi
    rw [hqs]
    exact hbody.spares ha hhome

theorem sparing_compareChain_succ (s : Span) (v : Value) (others : List (Comparison × Expr))
    [h : At A c (Expr.othersSpare · others)] : Sparing A c (compareChain (fuel + 1) s v others) := by
  cases others with
  | nil => simp only [compareChain]; infer_instance
  | cons other rest =>
    simp only [Expr.othersSpare] at h
    obtain ⟨_, _⟩ := h.and
    simp only [compareChain]
    infer_instance

theorem sparing_callWith_succ (s : Span) (f : Value) (arguments : List Expr)
    (named : List (Option Text × Span × Expr)) [h : At A c (Expr.sparesEach · arguments)]
    [hnamed : At A c (Expr.namedSpare · named)] : Sparing A c (callWith (fuel + 1) s f arguments named) := by
  simp only [callWith]
  refine Sparing.andThen inferInstance fun i => ?_
  have hnamed (n) (hn : n ∈ named) : At A c (Expr.spares · n.2.2) :=
    hnamed.imp fun _ hb => Expr.namedSpare_iff.mp hb n hn
  split
  · have := at_of_mem h List.mem_cons_self
    exact Sparing.andThen inferInstance fun vs => Sparing.andThen inferInstance fun g =>
      Sparing.andThen inferInstance fun vs =>
        Sparing.andThen (Sparing.forEach fun n hn => absurd hn List.not_mem_nil) fun nss => inferInstance
  all_goals
    refine Sparing.andThen inferInstance fun vs =>
      Sparing.andThen (Sparing.forEach fun n hn => ?_) fun nss => inferInstance
    have := hnamed n hn
    refine Sparing.andThen inferInstance fun v => ?_
    split <;> infer_instance

/-- A routine of the session spares the last value where it acts. -/
theorem at_scope {i : Interpreter} (hi : A → i.Spares) {f : Value} {r : Routine}
    (hf : i.object? f = some (.routine r)) (thread room : Nat) :
    At A (r.scope thread room) (Stmt.sparesEach · r.body) := by
  refine ⟨fun ha hhome => ?_⟩
  have hmem : Object.routine r ∈ i.objects := by
    unfold Interpreter.object? at hf
    split at hf
    · exact Array.mem_of_getElem? hf
    · cases hf
  rw [Routine.holdsLast_scope]
  exact hi ha _ hmem hhome

theorem sparing_call_succ (s : Span) (f : Value) (vs : List Value) (named : List (Text × Value)) :
    Sparing A c (call (fuel + 1) s f vs named) := by
  simp only [call]
  refine ⟨fun {m} hc hm => ?_⟩
  rw [Action.bind_ok (show interpreter m = (.ok m.2, m) from rfl)]
  cases hf : m.2.object? f with
  | none => exact (sparing_raiseAt (c := c) s _).keeps hc hm
  | some o =>
    cases o with
    | routine r =>
      -- A routine gets a room in the interpreter that it is called in, which is therefore looked at as it is.
      cases hbindings : r.bindings vs named with
      | error e =>
        simp only [hbindings]
        exact .refl hm
      | ok d =>
        have := at_scope hm hf m.2.scope.thread (m.2.addRoom d).1
        have hbody : Sparing A (r.scope m.2.scope.thread (m.2.addRoom d).1)
            (returned (execEach fuel r.body)) := inferInstance
        simp only [hbindings]
        exact sparing_room hbody (frameAt s m.2) d hm
    | _ =>
      refine (?_ : Sparing A c _).keeps hc hm
      dsimp only
      repeat' first
        | infer_instance
        | split
        | refine Sparing.andThen inferInstance fun _ => ?_

theorem sparing_keys_succ (s : Span) (f : Option Value) (vs : List Value) :
    Sparing A c (keys (fuel + 1) s f vs) := by
  simp only [keys]
  split <;> infer_instance

theorem sparing_callMethod_succ (s : Span) (v : Value) (n : Text) (vs : List Value) :
    Sparing A c (callMethod (fuel + 1) s v n vs) := by
  rw [callMethod]
  refine Sparing.andThen inferInstance fun i => ?_
  dsimp only
  split
  case h_5 => split <;> infer_instance
  case h_7 =>
    split
    · refine Sparing.andThen (Sparing.tried (sparing_inScope inferInstance)) fun r => inferInstance
    · infer_instance
  all_goals infer_instance

/-- What items are shared among is items, or what stands behind the star of one. -/
theorem mem_of_shared {ts : List Expr} {xs : List Value} {parts : List (Expr × Value)}
    (h : shared ts xs = .ok parts) {part : Expr × Value} (hpart : part ∈ parts) :
    part.1 ∈ ts ∨ ∃ s, .starred s part.1 ∈ ts := by
  have hzip {es : List Expr} {vs : List Value} (hes : es ⊆ ts) (hmem : part ∈ es.zip vs) : part.1 ∈ ts :=
    hes (List.of_mem_zip hmem).1
  unfold shared at h
  dsimp only at h
  split at h
  next s rest behind hdrop =>
    have hrest : .starred s rest :: behind ⊆ ts := hdrop ▸ List.drop_subset _ _
    split at h
    · cases h
    · cases h
      rcases List.mem_append.mp hpart with hmem | hmem
      · exact .inl (hzip (List.takeWhile_subset _) hmem)
      · rcases List.mem_cons.mp hmem with rfl | hmem
        · exact .inr ⟨s, hrest List.mem_cons_self⟩
        · exact .inl (hzip (fun e he => hrest (List.mem_cons_of_mem _ he)) hmem)
  next =>
    repeat' split at h
    all_goals cases h
    exact .inl (hzip (List.Subset.refl _) hpart)

theorem at_shared {s : Span} {b : Brackets} {ts : List Expr} (h : At A c (Expr.targetSpares · (.items s b ts)))
    {xs : List Value} {parts : List (Expr × Value)} (hparts : shared ts xs = .ok parts)
    {part : Expr × Value} (hpart : part ∈ parts) : At A c (Expr.targetSpares · part.1) := by
  refine h.imp fun held hb => ?_
  rcases mem_of_shared hparts hpart with ht | ⟨s, ht⟩
  · exact Expr.targetSpares_of_mem hb ht
  · have hstarred : Expr.targetSpares held (.starred s part.1) = true := Expr.targetSpares_of_mem hb ht
    exact hstarred

theorem orRaise_eq_ok {s : Span} {x : Except Exception α} {m t : Machine} {a : α}
    (h : orRaise s x m = (.ok a, t)) : x = .ok a := by
  cases x with
  | error e => cases h
  | ok b =>
    cases h
    rfl

theorem at_name {s : Span} {n : Text} (h : At A c (Expr.targetSpares · (.name s n))) :
    At A c fun held => held || n ≠ lastName := by
  refine h.imp fun held hb => ?_
  have hfree := (Expr.targetSpares_iff.mp hb).1
  simp only [Expr.rebinds, List.mem_singleton] at hfree
  simpa using hfree.imp_right Ne.symm

theorem sparing_assign_succ (target : Expr) (v : Value) [h : At A c (Expr.targetSpares · target)] :
    Sparing A c (assign (fuel + 1) target v) := by
  have hspares : At A c (Expr.spares · target) := h.and.2
  cases target with
  | name s n =>
    simp only [assign]
    exact sparing_bind (at_name h) v
  | member s e n =>
    simp only [Expr.spares] at hspares
    simp only [assign]
    infer_instance
  | items s b ts =>
    simp only [assign]
    refine Sparing.andThen inferInstance fun i => ?_
    split
    · infer_instance
    · refine Sparing.andThenOf (sparing_orRaise ..) (fun m parts t => orRaise_eq_ok) fun parts hparts =>
        Sparing.andThen (Sparing.forEach fun part hpart => ?_) fun us => inferInstance
      have := at_shared h hparts hpart
      infer_instance
  | subscript s e k =>
    have : At A c (Expr.targetSpares · e) := h.imp fun _ => Expr.targetSpares_of_subscript
    simp only [Expr.spares] at hspares
    obtain ⟨_, _⟩ := hspares.and
    simp only [assign]
    infer_instance
  | _ => simp only [assign]; infer_instance

theorem sparing_delete_succ (target : Expr) [h : At A c (Expr.targetSpares · target)] :
    Sparing A c (delete (fuel + 1) target) := by
  have hspares : At A c (Expr.spares · target) := h.and.2
  cases target with
  | name s n =>
    refine ⟨fun {m} hc hm => ?_⟩
    rw [delete_name_apply]
    split
    next j hj =>
      exact .of_eq hm (objects_unbind hj).2 (objects_unbind hj).1 fun ha =>
        last_unbind (hc ▸ at_name h) ha hj
    next => exact .refl hm
  | items s b ts =>
    have : Sparing A c (Action.each (delete fuel) ts) := .forEach fun t ht => by
      have : At A c (Expr.targetSpares · t) := h.imp fun _ hb => Expr.targetSpares_of_mem hb ht
      infer_instance
    show Sparing A c (do let _ ← Action.each (delete fuel) ts)
    infer_instance
  | member s e n =>
    simp only [Expr.spares] at hspares
    show Sparing A c (do
      let owner ← eval fuel e
      raiseAt s (attributeError owner n))
    infer_instance
  | subscript s e k =>
    have : At A c (Expr.targetSpares · e) := h.imp fun _ => Expr.targetSpares_of_subscript
    simp only [Expr.spares] at hspares
    obtain ⟨_, _⟩ := hspares.and
    show Sparing A c (do
      let owner ← eval fuel e
      let k ← eval fuel k
      assign fuel e (← orRaise s (withoutItem owner k)))
    infer_instance
  | _ => exact Sparing.pure ()

theorem sparing_execEach_succ (ss : List Stmt) [h : At A c (Stmt.sparesEach · ss)] :
    Sparing A c (execEach (fuel + 1) ss) := by
  simp only [execEach]
  refine Sparing.andThen (Sparing.forEach fun st hst => ?_) fun us => inferInstance
  have : At A c (Stmt.spares · st) := h.imp fun _ hb => Stmt.sparesEach_iff.mp hb st hst
  infer_instance

/-- Many names are bound where the name of the last value is held by a routine. -/
theorem sparing_bindEach (h : At A c fun held => held) (es : List (Text × Value)) :
    Sparing A c (changeInterpreter fun i => es.foldl (fun i e => Program.bind e.1 e.2 i) i) := by
  refine ⟨fun {m} hc hm => ?_⟩
  show Keeps A m.2 (es.foldl (fun i e => Program.bind e.1 e.2 i) m.2)
  generalize m.2 = i at hc hm
  induction es generalizing i with
  | nil => exact .refl hm
  | cons e es ih =>
    have hbind : Keeps A i (Program.bind e.1 e.2 i) :=
      .bind hm (hc ▸ h.imp fun held hb => by rw [hb, Bool.true_or]) e.2
    exact hbind.trans (ih _ (hbind.scope.trans hc) hbind.objects)

theorem sparing_exec_succ (st : Stmt) [h : At A c (Stmt.spares · st)] : Sparing A c (exec (fuel + 1) st) := by
  cases st with
  | expr s e =>
    simp only [Stmt.spares] at h
    simp only [exec]
    infer_instance
  | assign s ts e =>
    simp only [Stmt.spares] at h
    obtain ⟨hts, _⟩ := h.and
    simp only [exec]
    refine Sparing.andThen inferInstance fun v =>
      Sparing.andThen (Sparing.forEach fun t ht => ?_) fun us => inferInstance
    have : At A c (Expr.targetSpares · t) := hts.imp fun _ hb => List.all_eq_true.mp hb t ht
    infer_instance
  | augment s t op e =>
    simp only [Stmt.spares] at h
    obtain ⟨ht, _⟩ := h.and
    have : At A c (Expr.spares · t) := ht.and.2
    simp only [exec]
    refine Sparing.andThen inferInstance fun v => Sparing.andThen inferInstance fun w =>
      Sparing.andThen inferInstance fun i => ?_
    split <;> infer_instance
  | delete s ts =>
    simp only [Stmt.spares] at h
    simp only [exec]
    refine Sparing.andThen (Sparing.forEach fun t ht => ?_) fun us => inferInstance
    have : At A c (Expr.targetSpares · t) := h.imp fun _ hb => List.all_eq_true.mp hb t ht
    infer_instance
  | branch s condition yes no =>
    simp only [Stmt.spares] at h
    obtain ⟨_, hrest⟩ := h.and
    obtain ⟨_, _⟩ := hrest.and
    simp only [exec]
    infer_instance
  | repeatWhile s condition body no =>
    simp only [Stmt.spares] at h
    obtain ⟨_, hrest⟩ := h.and
    obtain ⟨_, _⟩ := hrest.and
    simp only [exec]
    exact (sparing_whileTrue inferInstance inferInstance _).andThen fun b => inferInstance
  | forEach s t source body no =>
    simp only [Stmt.spares] at h
    obtain ⟨_, hrest⟩ := h.and
    obtain ⟨_, hrest⟩ := hrest.and
    obtain ⟨_, _⟩ := hrest.and
    simp only [exec]
    exact Sparing.andThen inferInstance fun v => Sparing.andThen inferInstance fun i =>
      Sparing.andThen inferInstance fun xs =>
        (sparing_forItems (fun x => inferInstance) xs).andThen fun b => inferInstance
  | define s n parameters body =>
    simp only [Stmt.spares] at h
    obtain ⟨hn, hrest⟩ := h.and
    obtain ⟨_, _⟩ := hrest.and
    simp only [exec]
    exact Sparing.andThen inferInstance fun f => sparing_bind hn f
  | give s e =>
    simp only [Stmt.spares] at h
    cases e with
    | none => simp only [exec]; infer_instance
    | some e =>
      have := at_of_some h rfl
      simp only [exec]
      infer_instance
  | «raise» s e cause =>
    simp only [Stmt.spares] at h
    obtain ⟨he, hcause⟩ := h.and
    cases e with
    | none => simp only [exec]; infer_instance
    | some e =>
      have := at_of_some he rfl
      simp only [exec]
      refine Sparing.andThen inferInstance fun v =>
        Sparing.andThen (Sparing.forEach fun e he => ?_) fun causes => Sparing.andThen inferInstance fun i =>
          Sparing.andThen inferInstance fun x => Sparing.andThen ?_ fun us => inferInstance
      · have := at_of_some hcause (Option.mem_toList.mp he)
        infer_instance
      · refine Sparing.forEach fun v _ => ?_
        split <;> infer_instance
  | load s ms =>
    simp only [Stmt.spares] at h
    simp only [exec]
    refine Sparing.andThen (Sparing.forEach fun m hm => ?_) fun us => inferInstance
    have hbound : At A c fun held => held || m.2.getD (Stmt.firstName m.1) ≠ lastName := h.imp fun held hb => by
      simp only [Bool.or_eq_true, List.all_eq_true] at hb ⊢
      exact hb.imp_right fun hall => hall m hm
    refine Sparing.andThen inferInstance fun v => ?_
    split
    next n hn =>
      rw [hn] at hbound
      exact sparing_bind hbound v
    next hn =>
      rw [hn] at hbound
      exact Sparing.andThen inferInstance fun top => sparing_bind hbound top
  | loadFrom s m ns =>
    simp only [Stmt.spares] at h
    simp only [exec]
    refine Sparing.andThen inferInstance fun v =>
      Sparing.andThen (Sparing.forEach fun n hn => ?_) fun us => inferInstance
    have hn : At A c fun held => held || (n.1 ≠ ['*'] && n.2.getD n.1 ≠ lastName) := h.imp fun held hb => by
      simp only [Bool.or_eq_true, List.all_eq_true] at hb ⊢
      exact hb.imp_right fun hall => hall n hn
    split
    next hstar =>
      have hheld : At A c fun held => held := hn.imp fun held hb => by simpa [hstar] using hb
      exact Sparing.andThen inferInstance fun i => sparing_bindEach hheld _
    next hstar =>
      have hbound : At A c fun held => held || n.2.getD n.1 ≠ lastName := hn.imp fun held hb => by
        simpa [hstar] using hb
      exact Sparing.andThen inferInstance fun x => sparing_bind hbound x
  | «check» s condition message =>
    simp only [Stmt.spares] at h
    obtain ⟨_, hmessage⟩ := h.and
    simp only [exec]
    refine Sparing.andThen inferInstance fun b => ?_
    split
    · infer_instance
    · split
      · infer_instance
      · have := at_of_some hmessage rfl
        infer_instance
  | _ => simp only [exec]; infer_instance

theorem sparing_importedName_succ (s : Span) (moduleName : Text) (v : Value) (n : Text) :
    Sparing A c (importedName (fuel + 1) s moduleName v n) := by
  simp only [importedName]
  refine Sparing.andThen inferInstance fun r => ?_
  split
  · infer_instance
  · refine Sparing.andThen inferInstance fun i => ?_
    split
    · refine Sparing.andThen inferInstance fun r => ?_
      repeat' split
      all_goals infer_instance
    · infer_instance

theorem sparing_importNamed_succ (s : Span) (name : Text) : Sparing A c (importNamed (fuel + 1) s name) := by
  simp only [importNamed]
  refine Sparing.andThen inferInstance fun i => Sparing.andThen inferInstance fun w => ?_
  have (p n : Text) (v : Value) : Sparing A c (changeInterpreter fun i => { i with
      modules := i.modules.set p (((i.modules.get? p).getD {}).set n v) }) :=
    sparing_changeInterpreter fun _ => ⟨rfl, rfl, rfl⟩
  repeat' first
    | infer_instance
    | split
    | refine Sparing.andThen inferInstance fun _ => ?_

theorem sparing_loadModule_succ (s : Span) (name : Text) (origin : Origin) :
    Sparing A c (loadModule (fuel + 1) s name origin) := by
  simp only [loadModule]
  refine Sparing.andThen inferInstance fun i => ?_
  split
  · exact sparing_changeInterpreter fun _ => ⟨rfl, rfl, rfl⟩
  · next file text directory =>
    split
    · infer_instance
    · next body _ =>
      -- Whatever a module binds is its own.
      have : At A { source := file, home := some name, thread := i.scope.thread } (Stmt.sparesEach · body) :=
        ⟨nofun⟩
      have hrun : Sparing A c (inScope { source := file, home := some name, thread := i.scope.thread }
          (execEach fuel body)) := sparing_inScope inferInstance
      refine Sparing.andThen (sparing_changeInterpreter fun _ => ⟨rfl, rfl, rfl⟩) fun _ =>
        Sparing.andThen inferInstance fun r => ?_
      split
      · infer_instance
      · exact Sparing.andThen (sparing_changeInterpreter fun _ => ⟨rfl, rfl, rfl⟩) fun _ => inferInstance

end

/-- Within no steps at all nothing is done. -/
theorem sparesAt_zero : SparesAt A 0 where
  eval e _ := by rw [eval]; infer_instance
  holds e _ := by rw [holds]; infer_instance
  spread s user es _ := by rw [spread]; infer_instance
  textOf parts _ := by rw [textOf]; infer_instance
  firstSource s clauses _ _ := by rw [firstSource]; infer_instance
  comprehension asked s b element clauses _ := by rw [comprehension]; infer_instance
  clauseItems s first clauses element _ _ _ _ := by rw [clauseItems]; infer_instance
  allHold conditions _ := by rw [allHold]; infer_instance
  routine name parameters body _ _ := by rw [routine]; infer_instance
  compareChain s v others _ := by rw [compareChain]; infer_instance
  callWith s f arguments named _ _ := by rw [callWith]; infer_instance
  call s f vs named := by rw [call]; infer_instance
  keys s f vs := by rw [keys]; infer_instance
  callMethod s v n vs := by rw [callMethod]; infer_instance
  assign target v _ := by rw [assign]; infer_instance
  delete target _ := sparing_exhausted
  exec st _ := by rw [exec]; infer_instance
  execEach ss _ := by rw [execEach]; infer_instance
  importedName s moduleName v n := by rw [importedName]; infer_instance
  importNamed s name := by rw [importNamed]; infer_instance
  loadModule s name origin := by rw [loadModule]; infer_instance

/-- What spares the last value as far as its text tells does spare it, within any number of steps. -/
instance sparesAt (A : Prop) (fuel : Nat) : SparesAt A fuel := by
  induction fuel with
  | zero => exact sparesAt_zero
  | succ fuel ih =>
    exact ⟨sparing_eval_succ, sparing_holds_succ, sparing_spread_succ, sparing_textOf_succ,
      sparing_firstSource_succ, sparing_comprehension_succ, sparing_clauseItems_succ, sparing_allHold_succ,
      sparing_routine_succ, sparing_compareChain_succ, sparing_callWith_succ, sparing_call_succ,
      sparing_keys_succ, sparing_callMethod_succ, sparing_assign_succ, sparing_delete_succ,
      sparing_exec_succ, sparing_execEach_succ, sparing_importedName_succ, sparing_importNamed_succ,
      sparing_loadModule_succ⟩

end Weave.Program.Run
