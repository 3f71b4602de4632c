import Weave.Evaluator

/-!
# Threads that share an evaluator

Each thread makes one call of the same evaluator. A lock lets one of them at a time use the session
and move the process from directory to directory; listeners are told about a failure only after the
lock has been released. A schedule says which thread takes the next step.
-/

set_option autoImplicit false

namespace Weave.Threads

/-- What a thread asks of the evaluator. -/
structure Call where
  text : Text
  asExpression : Bool := false
  file : Option Path := none
deriving Inhabited

/-- What a thread does next. -/
inductive Stage where
  | takeLock
  | locate
  | enter (directory : List Text)
  | run (directory previous : List Text)
  | recall (output : Text) (directory previous : List Text)
  | leave (ended : Except Halt Outcome) (directory previous : List Text)
  | releaseLock (ended : Except Halt Outcome)
  | report (f : Failure)
  | finished (r : Except Exception Outcome)

namespace Stage

/-- Whether a thread at this stage has the lock. -/
def holdsLock : Stage → Bool
  | takeLock => false
  | report _ => false
  | finished _ => false
  | _ => true

/-- Where a call goes on that has let go of the session. -/
def ofEnd (c : Call) : Except Halt Outcome → Stage
  | .ok o => finished (.ok o)
  | .error (.raised e) => finished (.error e)
  | .error (.failed _ cause errorText) =>
    report ⟨c.text, c.asExpression, c.file, cause, errorText⟩

end Stage

variable {τ η : Type} [DecidableEq η]

/-- The session acts, and the call goes on as its outcome says. -/
def using_ {α : Type} (p : Action (World × τ) Halt α) (next : Except Halt α → Stage)
    (s : Workshop τ η) : Stage × Workshop τ η :=
  let (r, t) := Evaluator.inSession p s
  (next r, t)

def runStep (session : Session τ) (c : Call) (directory previous : List Text)
    (s : Workshop τ η) : Stage × Workshop τ η :=
  if c.asExpression then
    using_ (session.eval c.text c.file) (fun r =>
      .leave (r.map fun a => { output := some a.1, result := some a.2 }) directory previous) s
  else
    using_ (session.run c.text c.file) (fun r => match r with
      | .ok output => .recall output directory previous
      | .error h => .leave (.error h) directory previous) s

/-- What a thread does at a stage, apart from the lock. -/
def act (session : Session τ) (listening : Listening η) (c : Call) :
    Stage → Workshop τ η → Stage × Workshop τ η
  | .takeLock, s => (.locate, s)
  | .locate, s => (.enter (Evaluator.directory c.file s.1), s)
  | .enter directory, s =>
    match s.1.visit directory with
    | .ok w => (.run directory s.1.here, w, s.2)
    | .error e => (.releaseLock (.error (.raised e)), s)
  | .run directory previous, s => runStep session c directory previous s
  | .recall output directory previous, s =>
    using_ (Evaluator.lookUp session) (fun r =>
      .leave (r.map fun v => { output := some output, itValue := v }) directory previous) s
  | .leave ended directory previous, s =>
    match s.1.depart directory previous with
    | (.ok _, w) => (.releaseLock ended, w, s.2)
    | (.error e, w) => (.releaseLock (.error (.raised e)), w, s.2)
  | .releaseLock ended, s => (Stage.ofEnd c ended, s)
  | .report f, s =>
    match Evaluator.announce listening f s with
    | (.ok _, t) => (.finished (.ok Outcome.empty), t)
    | (.error e, t) => (.finished (.error e), t)
  | .finished r, s => (.finished r, s)

structure Thread where
  call : Call
  stage : Stage := .takeLock

/-- The threads, and what they share. -/
structure Crew (τ η : Type) where
  workshop : Workshop τ η
  threads : List Thread

namespace Crew

def isLocked (crew : Crew τ η) : Bool := crew.threads.any fun t => t.stage.holdsLock

def start (s : Workshop τ η) (calls : List Call) : Crew τ η := ⟨s, calls.map fun c => ⟨c, .takeLock⟩⟩

/-- A thread takes its next step. It waits for a lock that another one has. -/
def step (session : Session τ) (listening : Listening η) (crew : Crew τ η) (k : Nat) : Crew τ η :=
  match crew.threads[k]? with
  | none => crew
  | some t =>
    let mustWait := match t.stage with
      | .takeLock => crew.isLocked
      | _ => false
    if mustWait then crew
    else
      let (stage, workshop) := act session listening t.call t.stage crew.workshop
      ⟨workshop, crew.threads.set k ⟨t.call, stage⟩⟩

def run (session : Session τ) (listening : Listening η) (crew : Crew τ η) (schedule : List Nat) :
    Crew τ η := schedule.foldl (step session listening) crew

/-- How many steps a thread takes at most. -/
def stepsPerThread : Nat := 8

/-- All threads in turn, until each has had the time to wait for all others. -/
def turns (count : Nat) : List Nat :=
  (List.replicate (stepsPerThread * (count + 1)) (List.range count)).flatten

def results (crew : Crew τ η) : List (Option (Except Exception Outcome)) :=
  crew.threads.map fun t => match t.stage with
    | .finished r => some r
    | _ => none

end Crew

end Weave.Threads
