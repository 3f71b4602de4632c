import Weave.Program.Session

/-!
# What programs know of their sources

An interpreter counts the snippets that have been run, keeps the lines of every source, and notes the
name of the source in which a program is and of those in which routines were defined. All of that is
for tracebacks. Two interpreters that differ in nothing else give the same answers to whatever a
program asks them.
-/

set_option autoImplicit false

namespace Weave.Program

def Object.anywhere : Object → Object
  | .routine r => .routine { r with source := [] }
  | o => o

def Scope.anywhere (c : Scope) : Scope := { c with source := [] }

/-- Two interpreters that differ at most in what they know of the sources. -/
structure Akin (i j : Interpreter) : Prop where
  names : i.names = j.names
  repl : i.repl = j.repl
  objects : i.objects.map Object.anywhere = j.objects.map Object.anywhere
  rooms : i.rooms = j.rooms
  modules : i.modules = j.modules
  scope : i.scope.anywhere = j.scope.anywhere

namespace Scope

variable {c d : Scope}

theorem locals_eq (h : c.anywhere = d.anywhere) : c.locals = d.locals :=
  show c.anywhere.locals = d.anywhere.locals by rw [h]

theorem home_eq (h : c.anywhere = d.anywhere) : c.home = d.home :=
  show c.anywhere.home = d.anywhere.home by rw [h]

theorem thread_eq (h : c.anywhere = d.anywhere) : c.thread = d.thread :=
  show c.anywhere.thread = d.anywhere.thread by rw [h]

theorem labelStart_eq (h : c.anywhere = d.anywhere) : c.labelStart = d.labelStart :=
  show c.anywhere.labelStart = d.anywhere.labelStart by rw [h]

end Scope

/-- Objects that differ at most in where they were defined are the same, or routines. -/
theorem Object.eq_or_routine {o o' : Object} (h : o.anywhere = o'.anywhere) :
    o = o' ∨ ∃ r s, o = .routine r ∧ o' = .routine { r with source := s } := by
  cases o with
  | routine r =>
    cases o' with
    | routine r' =>
      have hr : ({ r with source := [] } : Routine) = { r' with source := [] } := Object.routine.inj h
      refine .inr ⟨r, r'.source, rfl, congrArg Object.routine ?_⟩
      calc r' = { ({ r' with source := [] } : Routine) with source := r'.source } := rfl
        _ = { r with source := r'.source } := by rw [← hr]
    | _ => exact nomatch h
  | _ => cases o' <;> first | exact .inl h | exact nomatch h

namespace Akin

variable {i j : Interpreter}

theorem refl (i : Interpreter) : Akin i i := ⟨rfl, rfl, rfl, rfl, rfl, rfl⟩

/-! ### What a value refers to -/

theorem size_objects (h : Akin i j) : i.objects.size = j.objects.size := by
  have hsize := congrArg Array.size h.objects
  rwa [Array.size_map, Array.size_map] at hsize

theorem object? (h : Akin i j) (v : Value) :
    i.object? v = j.object? v ∨ ∃ r s, i.object? v = some (.routine r) ∧
      j.object? v = some (.routine { r with source := s }) := by
  unfold Interpreter.object?
  split
  next c n w =>
    have hn : (i.objects[n]?).map Object.anywhere = (j.objects[n]?).map Object.anywhere := by
      rw [← Array.getElem?_map, ← Array.getElem?_map, h.objects]
    cases hi : i.objects[n]? with
    | none =>
      cases hj : j.objects[n]? with
      | none => exact .inl rfl
      | some o' => rw [hi, hj] at hn; exact nomatch hn
    | some o =>
      cases hj : j.objects[n]? with
      | none => rw [hi, hj] at hn; exact nomatch hn
      | some o' =>
        rw [hi, hj] at hn
        rcases Object.eq_or_routine (Option.some.inj hn) with rfl | ⟨r, s, rfl, rfl⟩
        · exact .inl rfl
        · exact .inr ⟨r, s, rfl, rfl⟩
  next => exact .inl rfl

theorem object?_routine (h : Akin i j) {v : Value} {r : Routine} (hj : j.object? v = some (.routine r)) :
    ∃ s, i.object? v = some (.routine { r with source := s }) := by
  rcases h.object? v with hv | ⟨r', s, hi, hj'⟩
  · exact ⟨r.source, hv.trans hj⟩
  · rw [hj] at hj'
    cases hj'
    exact ⟨r'.source, hi⟩

theorem items (h : Akin i j) (v : Value) : items i v = items j v := by
  unfold Program.items
  rcases h.object? v with h | ⟨r, s, h, h'⟩
  · rw [h]
  · rw [h, h']
    cases v <;> rfl

theorem truth (h : Akin i j) (v : Value) : truth i v = truth j v := by
  unfold Program.truth
  rcases h.object? v with h | ⟨r, s, h, h'⟩
  · rw [h]
  · rw [h, h']

theorem plain (h : Akin i j) (v : Value) : plain i v = plain j v := by
  unfold Program.plain
  rcases h.object? v with h | ⟨r, s, h, h'⟩
  · rw [h]
  · rw [h, h']

theorem methodsOf (h : Akin i j) (v : Value) : methodsOf i v = methodsOf j v := by
  unfold Program.methodsOf
  rcases h.object? v with h | ⟨r, s, h, h'⟩
  · rw [h]
  · rw [h, h']
    cases v <;> rfl

theorem label (h : Akin i j) (f : Value) : Run.label i f = Run.label j f := by
  unfold Run.label
  rcases h.object? f with h | ⟨r, s, h, h'⟩
  · rw [h]
  · rw [h, h']

theorem raisable (h : Akin i j) (no : String) (v : Value) :
    Run.raisable i no v = Run.raisable j no v := by
  unfold Run.raisable
  rcases h.object? v with h | ⟨r, s, h, h'⟩
  · rw [h]
  · rw [h, h']

/-! ### Functions of values -/

theorem textMethod (h : Akin i j) (t n : Text) (vs : List Value) :
    textMethod i t n vs = textMethod j t n vs := by
  unfold Program.textMethod
  simp only [h.items]

theorem sliceOf (h : Akin i j) (v a b c : Value) : sliceOf i v a b c = sliceOf j v a b c := by
  unfold Program.sliceOf
  rcases h.object? v with h | ⟨r, s, h, h'⟩
  · rw [h]
  · rw [h, h']
    cases v <;> rfl

theorem subscript (h : Akin i j) (v k : Value) : subscript i v k = subscript j v k := by
  unfold Program.subscript
  rcases h.object? k with hk | ⟨r, s, hk, hk'⟩ <;> rcases h.object? v with hv | ⟨r', s', hv, hv'⟩
  · simp only [hk, hv, h.sliceOf]
  · simp only [hk, hv, hv', h.sliceOf]
    split
    · rfl
    · cases v <;> cases int? k <;> rfl
  · simp only [hk, hk', hv]
  · simp only [hk, hk', hv, hv']
    cases v <;> cases int? k <;> rfl

theorem length (h : Akin i j) (v : Value) : length i v = length j v := by
  unfold Program.length
  rcases h.object? v with hv | ⟨r, s, hi, hj⟩
  · simp only [hv, h.items]
  · simp only [hi, hj]

theorem sum (h : Akin i j) (v start : Value) : sum i v start = sum j v start := by
  unfold Program.sum
  simp only [h.items]

theorem entriesOf (h : Akin i j) (v : Value) : entriesOf i v = entriesOf j v := by
  unfold Program.entriesOf
  simp only [h.items]

theorem ofOne? (h : Akin i j) (n : Text) (v : Value) (named : List (Text × Value)) :
    Run.ofOne? i n v named = Run.ofOne? j n v named := by
  unfold Run.ofOne?
  have htruth : Program.truth i = Program.truth j := funext h.truth
  rcases h.object? v with hv | ⟨r, s, hi, hj⟩
  · simp only [h.length, h.plain, h.sum, h.items, htruth, hv]
  · simp only [h.length, h.plain, h.sum, h.items, htruth, hi, hj]

theorem ofTwo? (h : Akin i j) (n : Text) (v w : Value) : Run.ofTwo? i n v w = Run.ofTwo? j n v w := by
  unfold Run.ofTwo?
  simp only [h.sum, h.plain]
  congr 9
  funext k
  rcases h.object? k with hk | ⟨r, s, hi, hj⟩
  · rw [hk]
  · rw [hi, hj]

theorem collection? (h : Akin i j) (n : Text) (v : Value) :
    Run.collection? i n v = Run.collection? j n v := by
  unfold Run.collection?
  simp only [h.items]

theorem textValue (h : Akin i j) (vs : List Value) : Run.textValue i vs = Run.textValue j vs := by
  unfold Run.textValue
  simp only [h.plain]

theorem conversion? (h : Akin i j) (n : Text) (vs : List Value) :
    Run.conversion? i n vs = Run.conversion? j n vs := by
  unfold Run.conversion?
  have htruth : Program.truth i = Program.truth j := funext h.truth
  simp only [h.textValue, h.collection?, htruth]

/-! ### Names and modules -/

theorem globals (h : Akin i j) : i.globals = j.globals := by
  rw [Interpreter.globals, Interpreter.globals, Scope.home_eq h.scope, h.modules, h.names]

theorem lookUp (h : Akin i j) (n : Text) : lookUp i n = lookUp j n := by
  unfold Program.lookUp unbound
  rw [Scope.locals_eq h.scope, h.rooms, h.globals]

theorem moduleValue? (h : Akin i j) (w : World) (m n : Text) :
    moduleValue? i w m n = moduleValue? j w m n := by
  rw [Program.moduleValue?, Program.moduleValue?, h.modules]

theorem packagePlaces? (h : Akin i j) (m : Text) : packagePlaces? i m = packagePlaces? j m := by
  rw [Program.packagePlaces?, Program.packagePlaces?, h.modules]

theorem noImport (h : Akin i j) (m n : Text) : noImport i m n = noImport j m n := by
  rw [Program.noImport, Program.noImport, h.modules]

theorem publicNames (h : Akin i j) (m : Text) : publicNames i m = publicNames j m := by
  rw [Program.publicNames, Program.publicNames, h.modules]

/-! ### Changes -/

theorem setGlobals (h : Akin i j) (d : Dictionary Value) : Akin (i.setGlobals d) (j.setGlobals d) := by
  unfold Interpreter.setGlobals
  rw [Scope.home_eq h.scope]
  split
  · exact { h with modules := by rw [h.modules] }
  · exact { h with names := rfl }

theorem bind (h : Akin i j) (n : Text) (v : Value) : Akin (bind n v i) (bind n v j) := by
  unfold Program.bind
  rw [Scope.locals_eq h.scope, h.globals]
  split
  · exact { h with rooms := by rw [h.rooms] }
  · exact h.setGlobals _

theorem bindEach (h : Akin i j) (es : List (Text × Value)) :
    Akin (es.foldl (fun i e => Program.bind e.1 e.2 i) i)
      (es.foldl (fun j e => Program.bind e.1 e.2 j) j) := by
  induction es generalizing i j with
  | nil => exact h
  | cons e es ih => exact ih (h.bind e.1 e.2)

theorem unbind (h : Akin i j) (n : Text) :
    (∃ i' j', unbind n i = .ok i' ∧ unbind n j = .ok j' ∧ Akin i' j') ∨
      ∃ e, unbind n i = .error e ∧ unbind n j = .error e := by
  have hunbound : unbound i n = unbound j n := by
    rw [unbound, unbound, Scope.locals_eq h.scope]
  unfold Program.unbind
  rw [Scope.locals_eq h.scope, h.rooms, h.globals, hunbound]
  split
  · split
    · exact .inl ⟨_, _, rfl, rfl, { h with rooms := rfl }⟩
    · exact .inr ⟨_, rfl, rfl⟩
  · split
    · exact .inl ⟨_, _, rfl, rfl, h.setGlobals _⟩
    · exact .inr ⟨_, rfl, rfl⟩

theorem room_eq (h : Akin i j) (d : Dictionary Value) : (i.addRoom d).1 = (j.addRoom d).1 :=
  congrArg Array.size h.rooms

theorem addRoom (h : Akin i j) (d : Dictionary Value) : Akin (i.addRoom d).2 (j.addRoom d).2 :=
  { h with rooms := by simp only [Interpreter.addRoom, h.rooms] }

theorem alloc (h : Akin i j) {o o' : Object} (ho : o.anywhere = o'.anywhere) :
    (i.alloc o).1 = (j.alloc o').1 ∧ Akin (i.alloc o).2 (j.alloc o').2 := by
  have hvalue : o.value i.objects.size = o'.value j.objects.size := by
    rw [h.size_objects]
    rcases Object.eq_or_routine ho with rfl | ⟨r, s, rfl, rfl⟩
    · rfl
    · rfl
  refine ⟨hvalue, { h with objects := ?_ }⟩
  simp only [Interpreter.alloc, Array.map_push, h.objects, ho]

end Akin

end Weave.Program
