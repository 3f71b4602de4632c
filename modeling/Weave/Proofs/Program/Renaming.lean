import Weave.Proofs.Program.Effects

/-!
# Snippets under another name

The source of a snippet has a name, which shows in tracebacks and in the exceptions that say why a
snippet cannot be read. Apart from that a snippet under another name does the same and ends in the
same way.
-/

set_option autoImplicit false

namespace Weave

/-! ### Classes of exceptions -/

namespace Exception

variable {a : Text} {n n' : Nat}

theorem descends_self (a : Text) (n : Nat) : descends a n a = true := by
  cases n <;> simp [descends]

theorem descends_succ {k p : String}
    (hp : (parents ++ furtherParents).find? (fun c => c.1 = k) = some (k, p))
    (h : descends a n p.toList = true) : descends a (n + 1) k.toList = true := by
  have hparent : parent? k.toList = some p.toList := by
    simp only [parent?, String.toList_inj, hp, Option.map_some]
  simp [descends, hparent, h]

theorem descends_mono {k : Text} (hn : n ≤ n') (h : descends a n k = true) :
    descends a n' k = true := by
  induction n generalizing n' k with
  | zero =>
    have hk : k = a := by simpa [descends] using h
    rw [hk]
    exact descends_self a n'
  | succ n ih =>
    obtain ⟨m, rfl⟩ : ∃ m, n' = m + 1 := ⟨n' - 1, by omega⟩
    simp only [descends, Bool.or_eq_true] at h ⊢
    refine h.imp id fun h => ?_
    split at h
    next p hp => exact ih (by omega) h
    next => exact h

end Exception

namespace Program

variable {α β : Type}

/-- The exception that leaves a session whose snippet stops in this way, unless that is a failure that
can be shown and written. -/
def Stop.escaping (stop : Stop) : Option Exception :=
  if isFailure stop.exception then
    (Traceback.unshowable? stop.exception).or
      (if stop.exception.isWritable then none else some .tooManyDigits)
  else some stop.exception

theorem Stop.escaping_raised (e : Exception) (trace : List Frame) :
    (Stop.raised e trace).escaping =
      if isFailure e then (Traceback.unshowable? e).or (if e.isWritable then none else some .tooManyDigits)
      else some e := rfl

/-- Two ends that make no difference to those who have called. -/
inductive SameFate : Except Stop α → Except Stop α → Prop where
  | ok (a : α) : SameFate (.ok a) (.ok a)
  | error {stop stop' : Stop} (h : stop.escaping = stop'.escaping) :
      SameFate (.error stop) (.error stop')

theorem SameFate.refl (r : Except Stop α) : SameFate r r := by
  cases r with
  | ok a => exact .ok a
  | error stop => exact .error rfl

theorem SameEnd.fate {r r' : Except Stop α} (h : SameEnd r r') : SameFate r r' := by
  cases h with
  | refl => exact .refl r
  | raised e t t' => exact .error rfl

/-- Two actions that do the same to those who have called, on machines that differ in their sources
only. -/
def Similar (p q : Run α) : Prop :=
  ∀ ⦃m n⦄, Twin m n → SameFate (p m).1 (q n).1 ∧ Twin (p m).2 (q n).2

namespace Similar

variable {p q : Run α}

theorem of_tame (p : Run α) [hp : Tame p] : Similar p p := fun _ _ h =>
  ⟨(hp.agrees h).1.fate, (hp.agrees h).2⟩

theorem ends {m n : Machine} (h : Similar p q) (hmn : Twin m n) :
    (∃ a m' n', p m = (.ok a, m') ∧ q n = (.ok a, n') ∧ Twin m' n') ∨
      ∃ e e' m' n', p m = (.error e, m') ∧ q n = (.error e', n') ∧ e.escaping = e'.escaping ∧
        Twin m' n' := by
  obtain ⟨hfate, htwin⟩ := h hmn
  rcases hp : p m with ⟨r, m'⟩
  rcases hq : q n with ⟨r', n'⟩
  rw [hp, hq] at hfate htwin
  cases hfate with
  | ok a => exact .inl ⟨a, m', n', rfl, rfl, htwin⟩
  | error he => exact .inr ⟨_, _, m', n', rfl, rfl, he, htwin⟩

theorem bind {f g : α → Run β} (h : Similar p q) (hf : ∀ a, Similar (f a) (g a)) :
    Similar (p >>= f) (q >>= g) := by
  intro m n hmn
  rcases h.ends hmn with ⟨a, m', n', hp, hq, ht⟩ | ⟨e, e', m', n', hp, hq, he, ht⟩
  · rw [Action.bind_ok hp, Action.bind_ok hq]
    exact hf a ht
  · rw [Action.bind_error hp, Action.bind_error hq]
    exact ⟨.error he, ht⟩

theorem map (f : α → β) (h : Similar p q) : Similar (f <$> p) (f <$> q) := by
  rw [map_eq_pure_bind, map_eq_pure_bind]
  exact h.bind fun a => of_tame _

theorem inScope {c d : Scope} (hc : c.anywhere = d.anywhere) (h : Similar p q) :
    Similar (Run.inScope c p) (Run.inScope d q) := by
  intro m n hmn
  obtain ⟨hfate, htwin⟩ := @h (m.1, { m.2 with scope := c }) (n.1, { n.2 with scope := d })
    ⟨hmn.world, { hmn.interpreter with scope := hc }⟩
  exact ⟨hfate, htwin.world, { htwin.interpreter with scope := hmn.interpreter.scope }⟩

end Similar

/-! ### Snippets that cannot be read -/

theorem Complaint.isKind_kind (c : Complaint) : Exception.isKind "Exception" c.kind.toList = true := by
  have hsyntax : Exception.descends "Exception".toList 1 "SyntaxError".toList = true :=
    Exception.descends_succ (by simp [Exception.parents])
      (Exception.descends_self ..)
  have hindentation : Exception.descends "Exception".toList 2 "IndentationError".toList = true :=
    Exception.descends_succ (by simp [Exception.parents]) hsyntax
  have htab : Exception.descends "Exception".toList 3 "TabError".toList = true :=
    Exception.descends_succ (by simp [Exception.parents]) hindentation
  have hkind : c.kind = "IndentationError" ∨ c.kind = "TabError" ∨ c.kind = "SyntaxError" := by
    cases c <;> simp [kind]
  rcases hkind with h | h | h <;> rw [h]
  · exact Exception.descends_mono (by decide) hindentation
  · exact Exception.descends_mono (by decide) htab
  · exact Exception.descends_mono (by decide) hsyntax

theorem Misreading.isFailure_exception (name : Text) (f : Misreading) :
    isFailure (f.exception name) = true := by
  have h : Exception.isKind "Exception" (f.exception name).kind = true := f.complaint.isKind_kind
  rw [isFailure, h, Bool.true_or]

/-- In the place of the line that cannot be read there is a text, or nothing. -/
theorem Misreading.unshowable?_exception (name : Text) (f : Misreading) :
    Traceback.unshowable? (f.exception name) = none := by
  unfold Traceback.unshowable? exception
  cases f.isBare with
  | true => rfl
  | false =>
    dsimp only
    cases f.place.source <;> exact ite_self _

/-- Whether the exception that says why nothing can be read can be written does not hang on the name. -/
theorem Misreading.escaping_exception (name name' : Text) (f : Misreading) (t t' : List Frame) :
    (Stop.raised (f.exception name) t).escaping = (Stop.raised (f.exception name') t').escaping := by
  have hwritable : (f.exception name).isWritable = (f.exception name').isWritable := by
    unfold exception Exception.isWritable
    cases f.isBare <;> rfl
  rw [Stop.escaping_raised, Stop.escaping_raised, f.isFailure_exception, f.isFailure_exception,
    f.unshowable?_exception, f.unshowable?_exception, hwritable]
  rfl

variable (name name' : Text)

theorem similar_refuseReading (f : Misreading) :
    Similar (refuseReading name f : Run α) (refuseReading name' f) := fun _ _ h =>
  ⟨.error (f.escaping_exception name name' _ _), h⟩

theorem similar_readOrRaise (r : Except Misreading α) :
    Similar (readOrRaise name r) (readOrRaise name' r) := by
  cases r with
  | ok a => exact .of_tame _
  | error f => exact similar_refuseReading name name' f

theorem similar_check (f : Option Misreading) : Similar (check name f) (check name' f) := by
  cases f with
  | none => exact .of_tame _
  | some f => exact similar_refuseReading name name' f

/-! ### Snippets -/

theorem similar_evalWhole (e : Expr) : Similar (evalWhole name e) (evalWhole name' e) :=
  (similar_check name name' _).bind fun _ => .of_tame _

theorem similar_read (text : Text) : Similar (read name text) (read name' text) :=
  .inScope rfl ((Similar.of_tame _).bind fun _ => similar_readOrRaise name name' _)

theorem similar_execute (body : List Stmt) : Similar (execute name body) (execute name' body) :=
  .inScope rfl ((similar_check name name' _).bind fun _ => .of_tame _)

theorem similar_value (e : Expr) : Similar (value name e) (value name' e) :=
  .inScope rfl (similar_evalWhole name name' e)

theorem similar_expression (text : Text) : Similar (expression name text) (expression name' text) :=
  .inScope rfl ((Similar.of_tame _).bind fun _ =>
    (similar_readOrRaise name name' _).bind fun e => similar_evalWhole name name' e)

theorem similar_conclude (body : List Stmt) :
    Similar (engine.conclude name body) (engine.conclude name' body) := by
  have hall : ∀ body, Similar (engine.executeAll name body) (engine.executeAll name' body) := by
    rintro (_ | ⟨st, body⟩)
    · exact .of_tame (pure ())
    · exact similar_execute name name' (st :: body)
  unfold Engine.conclude
  cases body.getLast?.bind engine.expression? with
  | some e => exact (hall _).bind fun _ => (similar_value name name' e).map some
  | none => exact (hall _).bind fun _ => .of_tame _

/-- Statements do the same under another name, and keep the same value. -/
theorem similar_statements (text : Text) :
    Similar (engine.statements name text) (engine.statements name' text) :=
  ((similar_read name name' text).bind fun body => similar_conclude name name' body).bind fun _ =>
    .of_tame _

end Program

end Weave
