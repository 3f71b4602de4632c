import Weave.Program.Session

/-!
# Programs that spare the last value

The name of the last value is a name like any other, and a program may bind it itself. What matters
for the session is whether it does so where the name is the session's own: the parameters of a
routine, the names that it binds and those of a comprehension belong to a room of their own. A program
spares the last value if it binds the name nowhere in the session, not even in the routines that it
defines. An assignment to an item counts as one to what holds the item, and a star import as one to
every name.
-/

set_option autoImplicit false

namespace Weave.Program

/-! ### Expressions and statements -/

namespace Expr

mutual

def rebinds : Expr → List Text
  | .name _ n => [n]
  | .starred _ e => rebinds e
  | .items _ _ es => rebindsEach es
  | .subscript _ e _ => rebinds e
  | _ => []

def rebindsEach : List Expr → List Text
  | [] => []
  | e :: es => rebinds e ++ rebindsEach es

end

mutual

/-- Whether an expression spares the last value, where its name is `held` by a routine or is not. -/
def spares (held : Bool) : Expr → Bool
  | .literal .. => true
  | .ellipsis _ => true
  | .name .. => true
  | .items _ _ es => sparesEach held es
  | .starred _ e => spares held e
  | .mapping _ es => entriesSpare held es
  | .template _ es => sparesEach held es
  | .field _ e _ es => spares held e && sparesEach held es
  | .unary _ _ e => spares held e
  | .binary _ _ l r => spares held l && spares held r
  | .compare _ e es => spares held e && othersSpare held es
  | .both _ l r => spares held l && spares held r
  | .either _ l r => spares held l && spares held r
  | .choice _ c y n => spares held c && (spares held y && spares held n)
  | .member _ e _ => spares held e
  | .subscript _ e i => spares held e && spares held i
  | .slice _ a b c => optionSpares held a && (optionSpares held b && optionSpares held c)
  | .call _ f es ns => spares held f && (sparesEach held es && namedSpare held ns)
  | .comprehension _ _ e cs =>
    clausesSpare held (held || lastName ∈ Run.clauseNames cs) cs
      && spares (held || lastName ∈ Run.clauseNames cs) e
  | .mappingComprehension _ k v cs =>
    clausesSpare held (held || lastName ∈ Run.clauseNames cs) cs
      && (spares (held || lastName ∈ Run.clauseNames cs) k
        && spares (held || lastName ∈ Run.clauseNames cs) v)
  | .function _ ps e => parametersSpare held ps && spares (held || lastName ∈ ps.map Prod.fst) e

def sparesEach (held : Bool) : List Expr → Bool
  | [] => true
  | e :: es => spares held e && sparesEach held es

def optionSpares (held : Bool) : Option Expr → Bool
  | none => true
  | some e => spares held e

def entriesSpare (held : Bool) : List (Option Expr × Expr) → Bool
  | [] => true
  | (k, v) :: es => optionSpares held k && (spares held v && entriesSpare held es)

def othersSpare (held : Bool) : List (Comparison × Expr) → Bool
  | [] => true
  | (_, e) :: es => spares held e && othersSpare held es

def namedSpare (held : Bool) : List (Option Text × Span × Expr) → Bool
  | [] => true
  | (_, _, e) :: ns => spares held e && namedSpare held ns

/-- Only the first source is evaluated outside of the room of a comprehension. -/
def clausesSpare (held within : Bool) : List (Expr × Expr × List Expr) → Bool
  | [] => true
  | (t, e, cs) :: others =>
    spares held e && ((within || lastName ∉ t.rebinds)
      && (spares within t && (sparesEach within cs && clausesSpare within within others)))

def parametersSpare (held : Bool) : List (Text × Option Expr) → Bool
  | [] => true
  | (_, e) :: ps => optionSpares held e && parametersSpare held ps

end

def targetSpares (held : Bool) (t : Expr) : Bool := (held || lastName ∉ t.rebinds) && spares held t

def targetsSpare (held : Bool) (ts : List Expr) : Bool := ts.all (targetSpares held)

end Expr

namespace Stmt

def holdsLast (parameters : List Text) (body : List Stmt) (around : Bool) : Bool :=
  if lastName ∈ parameters ∨
    lastName ∈ bindsEach body ∧ lastName ∉ sharesEach body ++ borrowsEach body then true
  else if lastName ∈ sharesEach body then false
  else around

theorem holdsLast_give (parameters : List Text) (s : Span) (e : Option Expr) (around : Bool) :
    holdsLast parameters [.give s e] around = (around || decide (lastName ∈ parameters)) := by
  by_cases h : lastName ∈ parameters <;> simp [holdsLast, bindsEach, binds, sharesEach, shares, h]

mutual

def spares (held : Bool) : Stmt → Bool
  | .expr _ e => e.spares held
  | .assign _ ts e => Expr.targetsSpare held ts && e.spares held
  | .augment _ t _ e => Expr.targetSpares held t && e.spares held
  | .delete _ ts => Expr.targetsSpare held ts
  | .pass _ => true
  | .leave _ => true
  | .proceed _ => true
  | .branch _ c yes no => c.spares held && (sparesEach held yes && sparesEach held no)
  | .repeatWhile _ c body no => c.spares held && (sparesEach held body && sparesEach held no)
  | .forEach _ t source body no =>
    Expr.targetSpares held t && (source.spares held && (sparesEach held body && sparesEach held no))
  | .define _ n ps body =>
    (held || n ≠ lastName) && (Expr.parametersSpare held ps
      && sparesEach (holdsLast (ps.map Prod.fst) body held) body)
  | .give _ e => Expr.optionSpares held e
  | .raise _ e cause => Expr.optionSpares held e && Expr.optionSpares held cause
  | .load _ ms => held || ms.all fun m => m.2.getD (firstName m.1) ≠ lastName
  | .loadFrom _ _ ns => held || ns.all fun n => n.1 ≠ ['*'] && n.2.getD n.1 ≠ lastName
  | .share .. => true
  | .borrow .. => true
  | .check _ c message => c.spares held && Expr.optionSpares held message

def sparesEach (held : Bool) : List Stmt → Bool
  | [] => true
  | s :: ss => spares held s && sparesEach held ss

end

end Stmt

namespace Expr

variable {held within : Bool}

theorem sparesEach_iff {es : List Expr} : sparesEach held es = true ↔ ∀ e ∈ es, e.spares held = true := by
  induction es with
  | nil => simp [sparesEach]
  | cons e es ih => simp [sparesEach, ih]

theorem optionSpares_iff {o : Option Expr} :
    optionSpares held o = true ↔ ∀ e ∈ o, e.spares held = true := by
  cases o <;> simp [optionSpares]

theorem entriesSpare_iff {es : List (Option Expr × Expr)} :
    entriesSpare held es = true ↔
      ∀ e ∈ es, optionSpares held e.1 = true ∧ e.2.spares held = true := by
  induction es with
  | nil => simp [entriesSpare]
  | cons e es ih => simp [entriesSpare, ih, and_assoc]

theorem namedSpare_iff {ns : List (Option Text × Span × Expr)} :
    namedSpare held ns = true ↔ ∀ n ∈ ns, n.2.2.spares held = true := by
  induction ns with
  | nil => simp [namedSpare]
  | cons n ns ih => simp [namedSpare, ih]

theorem parametersSpare_iff {ps : List (Text × Option Expr)} :
    parametersSpare held ps = true ↔ ∀ p ∈ ps, optionSpares held p.2 = true := by
  induction ps with
  | nil => simp [parametersSpare]
  | cons p ps ih => simp [parametersSpare, ih]

theorem targetSpares_iff {t : Expr} :
    targetSpares held t = true ↔ (held = true ∨ lastName ∉ t.rebinds) ∧ t.spares held = true := by
  simp [targetSpares]

theorem mem_rebindsEach {n : Text} {ts : List Expr} : n ∈ rebindsEach ts ↔ ∃ t ∈ ts, n ∈ t.rebinds := by
  induction ts with
  | nil => simp [rebindsEach]
  | cons t ts ih => simp [rebindsEach, ih]

theorem targetSpares_of_mem {s : Span} {b : Brackets} {ts : List Expr} {t : Expr}
    (h : targetSpares held (.items s b ts) = true) (ht : t ∈ ts) : targetSpares held t = true := by
  obtain ⟨hfree, hspares⟩ := targetSpares_iff.mp h
  refine targetSpares_iff.mpr ⟨hfree.imp_right fun hn ht' => hn (mem_rebindsEach.mpr ⟨t, ht, ht'⟩), ?_⟩
  exact sparesEach_iff.mp hspares t ht

theorem targetSpares_of_subscript {s : Span} {e k : Expr} (h : targetSpares held (.subscript s e k) = true) :
    targetSpares held e = true := by
  obtain ⟨hfree, hspares⟩ := targetSpares_iff.mp h
  exact targetSpares_iff.mpr ⟨hfree, (Bool.and_eq_true_iff.mp hspares).1⟩

end Expr

theorem Stmt.sparesEach_iff {held : Bool} {ss : List Stmt} :
    Stmt.sparesEach held ss = true ↔ ∀ s ∈ ss, s.spares held = true := by
  induction ss with
  | nil => simp [Stmt.sparesEach]
  | cons s ss ih => simp [Stmt.sparesEach, ih]

/-! ### Scopes and objects -/

/-- Whether the name of the last value belongs to a routine in which a program is. -/
def Scope.holdsLast (c : Scope) : Bool := (roomOf? lastName c.locals).isSome

theorem Routine.holdsLast_scope (r : Routine) (thread room : Nat) :
    (r.scope thread room).holdsLast =
      Stmt.holdsLast (r.parameters.map Prod.fst) r.body (roomOf? lastName r.around).isSome := by
  have hown : lastName ∈ r.ownNames ↔ lastName ∈ r.parameters.map Prod.fst ∨
      lastName ∈ Stmt.bindsEach r.body ∧
        lastName ∉ Stmt.sharesEach r.body ++ Stmt.borrowsEach r.body := by
    simp only [Routine.ownNames, List.mem_append, List.mem_filter, decide_eq_true_eq]
  rw [Scope.holdsLast, Routine.scope, roomOf?, Stmt.holdsLast]
  simp only [hown]
  split
  · rfl
  · split <;> rfl

def Object.Spares : Object → Prop
  | .routine r => r.home = none → Stmt.sparesEach
      (Stmt.holdsLast (r.parameters.map Prod.fst) r.body (roomOf? lastName r.around).isSome) r.body = true
  | _ => True

def Interpreter.Spares (i : Interpreter) : Prop := ∀ o ∈ i.objects, o.Spares

/-- Something spares the last value in a scope. In a module it always does. Whether it is to be spared
at all is a condition `A`: what holds without it holds of all programs. -/
class At (A : Prop) (c : Scope) (p : Bool → Bool) : Prop where
  spares (ha : A) (h : c.home = none) : p c.holdsLast = true

variable {A : Prop}

instance At.of_false (c : Scope) (p : Bool → Bool) : At False c p := ⟨nofun⟩

namespace At

variable {c d : Scope} {p q : Bool → Bool}

theorem imp (h : At A c p) (himp : ∀ b, p b = true → q b = true) : At A c q :=
  ⟨fun ha hc => himp _ (h.spares ha hc)⟩

theorem and (h : At A c fun b => p b && q b) : At A c p ∧ At A c q :=
  ⟨h.imp fun _ hb => (Bool.and_eq_true_iff.mp hb).1, h.imp fun _ hb => (Bool.and_eq_true_iff.mp hb).2⟩

/-- In another scope of the same module, in which a further routine may hold the name. -/
theorem within {b : Bool} (h : At A c fun held => p (held || b)) (hhome : d.home = c.home)
    (hholds : d.holdsLast = (c.holdsLast || b)) : At A d p :=
  ⟨fun ha hd => by rw [hholds]; exact h.spares ha (hhome ▸ hd)⟩

end At

/-! ### Names -/

section Names

variable {i : Interpreter} {n : Text} {v : Value}

theorem names_setGlobals (i : Interpreter) (d : Dictionary Value) :
    (i.setGlobals d).names = if i.scope.home = none then d else i.names := by
  unfold Interpreter.setGlobals
  cases i.scope.home <;> rfl

theorem globals_of_home (h : i.scope.home = none) : i.globals = i.names := by
  rw [Interpreter.globals, h]

theorem last_bind (h : At A i.scope fun b => b || n ≠ lastName) (ha : A) :
    (bind n v i).names.get? lastName = i.names.get? lastName := by
  unfold bind
  split
  · rfl
  · next hroom =>
    rw [names_setGlobals]
    split
    · next hhome =>
      have hn : n ≠ lastName := by
        rintro rfl
        have := h.spares ha hhome
        simp [Scope.holdsLast, hroom] at this
      rw [Dictionary.get?_set, if_neg hn, globals_of_home hhome]
    · rfl

theorem get?_erase_of_ne {d : Dictionary Value} {m : Text} (h : n ≠ m) : (d.erase n).get? m = d.get? m := by
  obtain ⟨es⟩ := d
  induction es with
  | nil => rfl
  | cons e es ih =>
    simp only [Dictionary.erase, Dictionary.get?] at ih ⊢
    by_cases he : e.1 = n
    · have hm : e.1 ≠ m := he ▸ h
      rw [List.filter_cons_of_neg (by simpa using he), ih, Dictionary.find?, if_neg hm]
    · rw [List.filter_cons_of_pos (by simpa using he), Dictionary.find?, Dictionary.find?, ih]

theorem last_unbind (h : At A i.scope fun b => b || n ≠ lastName) (ha : A) {j : Interpreter}
    (hj : unbind n i = .ok j) :
    j.names.get? lastName = i.names.get? lastName := by
  unfold unbind at hj
  split at hj
  · split at hj
    · cases hj
      rfl
    · cases hj
  · next hroom =>
    split at hj
    · cases hj
      rw [names_setGlobals]
      split
      · next hhome =>
        have hn : n ≠ lastName := by
          rintro rfl
          have := h.spares ha hhome
          simp [Scope.holdsLast, hroom] at this
        rw [get?_erase_of_ne hn, globals_of_home hhome]
      · rfl
    · cases hj

theorem objects_bind (n : Text) (v : Value) (i : Interpreter) :
    (bind n v i).objects = i.objects ∧ (bind n v i).scope = i.scope := by
  unfold bind Interpreter.setGlobals
  split
  · exact ⟨rfl, rfl⟩
  · split <;> exact ⟨rfl, rfl⟩

theorem objects_unbind {j : Interpreter} (hj : unbind n i = .ok j) :
    j.objects = i.objects ∧ j.scope = i.scope := by
  unfold unbind Interpreter.setGlobals at hj
  repeat' split at hj
  all_goals
    cases hj
    try exact ⟨rfl, rfl⟩

end Names

/-! ### Actions -/

/-- What an interpreter has become that has spared the last value: it is where it was, and its
routines go on to spare it. -/
structure Keeps (A : Prop) (i j : Interpreter) : Prop where
  scope : j.scope = i.scope
  objects (ha : A) : j.Spares
  last (ha : A) : j.names.get? lastName = i.names.get? lastName

namespace Keeps

variable {i j k : Interpreter}

theorem refl (h : A → i.Spares) : Keeps A i i := ⟨rfl, h, fun _ => rfl⟩

theorem trans (h : Keeps A i j) (h' : Keeps A j k) : Keeps A i k :=
  ⟨h'.scope.trans h.scope, h'.objects, fun ha => (h'.last ha).trans (h.last ha)⟩

theorem of_eq (h : A → i.Spares) (hscope : j.scope = i.scope) (hobjects : j.objects = i.objects)
    (hlast : A → j.names.get? lastName = i.names.get? lastName) : Keeps A i j :=
  ⟨hscope, fun ha o ho => h ha o (hobjects ▸ ho), hlast⟩

theorem bind {n : Text} (hi : A → i.Spares) (h : At A i.scope fun b => b || n ≠ lastName) (v : Value) :
    Keeps A i (Program.bind n v i) :=
  .of_eq hi (objects_bind n v i).2 (objects_bind n v i).1 (last_bind h)

theorem alloc {o : Object} (hi : A → i.Spares) (ho : A → o.Spares) : Keeps A i (i.alloc o).2 := by
  refine ⟨rfl, fun ha o' ho' => ?_, fun _ => rfl⟩
  rcases Array.mem_push.mp ho' with h | rfl
  · exact hi ha o' h
  · exact ho ha

end Keeps

/-- An action that spares the last value when it is done in a scope, however it ends. -/
class Sparing {α : Type} (A : Prop) (c : Scope) (p : Run α) : Prop where
  keeps {m : Machine} (hc : m.2.scope = c) (hm : A → m.2.Spares) : Keeps A m.2 (p m).2.2

namespace Sparing

variable {α β : Type} {c : Scope}

theorem keeps_of_eq {p : Run α} (hp : Sparing A c p) {m t : Machine} {r : Except Stop α} (h : p m = (r, t))
    (hc : m.2.scope = c) (hm : A → m.2.Spares) : Keeps A m.2 t.2 := by
  have hkeeps := hp.keeps hc hm
  rwa [h] at hkeeps

/-- An action that leaves the interpreter as it is. -/
theorem of_same {p : Run α} (h : ∀ m, (p m).2.2 = m.2) : Sparing A c p :=
  ⟨fun _ hm => by rw [h]; exact .refl hm⟩

instance pure (a : α) : Sparing A c (pure a : Run α) := of_same fun _ => rfl

instance fail (e : Stop) : Sparing A c (Action.fail e : Run α) := of_same fun _ => rfl

/-- What comes next may rely on what an action ends with. -/
theorem andThenOf {p : Run α} {f : α → Run β} {P : α → Prop} (hp : Sparing A c p)
    (hP : ∀ m a t, p m = (.ok a, t) → P a) (hf : ∀ a, P a → Sparing A c (f a)) : Sparing A c (p >>= f) := by
  refine ⟨fun {m} hc hm => ?_⟩
  rw [Action.bind_apply]
  split
  next a t h =>
    have hkeeps := hp.keeps_of_eq h hc hm
    exact hkeeps.trans ((hf a (hP m a t h)).keeps (hkeeps.scope.trans hc) hkeeps.objects)
  next e t h => exact hp.keeps_of_eq h hc hm

theorem andThen {p : Run α} {f : α → Run β} (hp : Sparing A c p) (hf : ∀ a, Sparing A c (f a)) :
    Sparing A c (p >>= f) :=
  hp.andThenOf (P := fun _ => True) (fun _ _ _ _ => trivial) fun a _ => hf a

instance bind (p : Run α) (f : α → Run β) [hp : Sparing A c p] [hf : ∀ a, Sparing A c (f a)] :
    Sparing A c (p >>= f) := hp.andThen hf

/-- What is asked of the interpreter is what it is then: it is in the scope, and its routines spare
the last value. -/
theorem ask {f : Interpreter → Run β}
    (hf : ∀ i : Interpreter, i.scope = c → (A → i.Spares) → Sparing A c (f i)) :
    Sparing A c (Run.interpreter >>= f) :=
  ⟨fun {m} hc hm => (hf m.2 hc hm).keeps hc hm⟩

instance map (f : α → β) (p : Run α) [Sparing A c p] : Sparing A c (f <$> p) := by
  rw [map_eq_pure_bind]
  infer_instance

theorem forEach {f : α → Run β} {as : List α} (hf : ∀ a ∈ as, Sparing A c (f a)) :
    Sparing A c (Action.each f as) := by
  induction as with
  | nil => exact pure []
  | cons a as ih =>
    exact (hf a List.mem_cons_self).andThen fun b =>
      (ih fun a ha => hf a (List.mem_cons_of_mem _ ha)).andThen fun bs => pure (b :: bs)

instance each (f : α → Run β) (as : List α) [hf : ∀ a, Sparing A c (f a)] : Sparing A c (Action.each f as) :=
  forEach fun a _ => hf a

instance cond (b : Prop) [Decidable b] (p q : Run α) [Sparing A c p] [Sparing A c q] :
    Sparing A c (if b then p else q) := by
  split <;> infer_instance

/-- What an action ends in may be taken for something else. -/
theorem of_ends {p : Run α} {q : Run β} (hp : Sparing A c p) (hq : ∀ m, (q m).2 = (p m).2) : Sparing A c q :=
  ⟨fun hc hm => hq _ ▸ hp.keeps hc hm⟩

theorem tried {p : Run α} (hp : Sparing A c p) : Sparing A c (Action.attempt p : Run (Except Stop α)) :=
  of_ends hp fun _ => rfl

instance attempt (p : Run α) [hp : Sparing A c p] : Sparing A c (Action.attempt p : Run (Except Stop α)) :=
  hp.tried

end Sparing

namespace Run

variable {α : Type} {c : Scope}

instance sparing_interpreter : Sparing A c interpreter := .of_same fun _ => rfl

instance sparing_world : Sparing A c world := .of_same fun _ => rfl

instance sparing_raiseAt (s : Span) (e : Exception) : Sparing A c (raiseAt s e : Run α) := .of_same fun _ => rfl

instance sparing_orRaise (s : Span) (x : Except Exception α) : Sparing A c (orRaise s x) := by
  cases x with
  | ok a => exact Sparing.pure a
  | error e => exact sparing_raiseAt s e

instance sparing_exhausted : Sparing A c (exhausted : Run α) := Sparing.fail _

instance sparing_write (s : Stream) (t : Text) : Sparing A c (write s t) := .of_same fun _ => rfl

instance sparing_lookFor (files : World → List Path) : Sparing A c (lookFor files) := .of_same fun _ => rfl

instance sparing_change (f : World → World) : Sparing A c (Action.change fun m => (f m.1, m.2) : Run Unit) :=
  .of_same fun _ => rfl

theorem sparing_alloc {o : Object} (h : A → o.Spares) : Sparing A c (alloc o) := ⟨fun _ hm => .alloc hm h⟩

instance sparing_under (f : Frame) (p : Run α) [hp : Sparing A c p] : Sparing A c (under f p) := by
  refine .of_ends hp fun m => ?_
  unfold under Action.mapError
  split <;> simp [*]

/-- What is done in another scope spares the last value there. -/
theorem sparing_inScope {d : Scope} {p : Run α} (hp : Sparing A d p) : Sparing A c (inScope d p) := by
  refine ⟨fun {m} hc hm => ?_⟩
  have h := hp.keeps (m := (m.1, { m.2 with scope := d })) rfl hm
  exact ⟨rfl, h.objects, h.last⟩

theorem sparing_bind {n : Text} (h : At A c fun b => b || n ≠ lastName) (v : Value) :
    Sparing A c (changeInterpreter (Program.bind n v)) :=
  ⟨fun hc hm => .bind hm (hc ▸ h) v⟩

/-- A change that concerns neither the names nor the objects. -/
theorem sparing_changeInterpreter {f : Interpreter → Interpreter}
    (h : ∀ i, (f i).scope = i.scope ∧ (f i).objects = i.objects ∧ (f i).names = i.names) :
    Sparing A c (changeInterpreter f) :=
  ⟨fun {m} _ hm => by
    obtain ⟨hscope, hobjects, hnames⟩ := h m.2
    exact .of_eq hm hscope hobjects fun _ => congrArg (Dictionary.get? · lastName) hnames⟩

end Run

end Weave.Program
