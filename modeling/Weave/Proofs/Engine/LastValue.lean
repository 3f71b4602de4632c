import Weave.Proofs.Engine.Captures
import Weave.Proofs.Session.Evaluations

/-!
# The last value

Of what is evaluated in a session, only statements that come to their end keep a value, that of their
last one if it is an expression and not nothing; it is kept when it has been evaluated and nothing
else is left to be done. So the last value is the one that was kept latest, however many failures,
expressions and lookups have come since, as long as no program does anything to it itself.
-/

set_option autoImplicit false

namespace Weave.Engine

variable {τ κ χ ν ε α : Type} {E : Engine τ κ χ ν ε}

/-! ### What statements end with -/

/-- The statements of a text come to their end, and the last one is an expression with this value. -/
inductive EndsWith (E : Engine τ κ χ ν ε) (source text : Text) (m : World × τ) (v : ν) : Prop where
  | intro {body : List κ} {st : κ} {e : χ} {n k l : World × τ}
      (hread : E.read source text m = (.ok (body ++ [st]), n)) (hlast : E.expression? st = some e)
      (hbody : E.executeAll source body n = (.ok (), k)) (hvalue : E.value source e k = (.ok v, l))

theorem conclude_eq_some_iff {source : Text} {body : List κ} {v : ν} {m : World × τ} :
    (E.conclude source body m).1 = .ok (some v) ↔
      ∃ front st e k l, body = front ++ [st] ∧ E.expression? st = some e ∧
        E.executeAll source front m = (.ok (), k) ∧ E.value source e k = (.ok v, l) := by
  unfold conclude
  cases hlast : body.getLast?.bind E.expression? with
  | none =>
    refine iff_of_false ?_ ?_
    · dsimp only
      rcases hbody : E.executeAll source body m with ⟨x | u, k⟩
      · rw [Action.bind_error hbody]
        exact nofun
      · rw [Action.bind_ok hbody]
        exact nofun
    · rintro ⟨front, st, e, k, l, rfl, he, -⟩
      simp [he] at hlast
  | some e =>
    obtain ⟨st, hst, he⟩ := Option.bind_eq_some_iff.mp hlast
    have hfront : body.dropLast ++ [st] = body := List.dropLast_append_getLast? st hst
    constructor
    · intro h
      dsimp only at h
      rcases hbody : E.executeAll source body.dropLast m with ⟨x | u, k⟩
      · rw [Action.bind_error hbody] at h
        cases h
      · rw [Action.bind_ok hbody, Action.map_apply] at h
        rcases hvalue : E.value source e k with ⟨x | w, l⟩
        · rw [hvalue] at h
          cases h
        · rw [hvalue] at h
          obtain rfl : w = v := by simpa using h
          exact ⟨_, st, e, k, l, hfront.symm, he, hbody, hvalue⟩
    · rintro ⟨front, st', e', k, l, rfl, he', hbody, hvalue⟩
      obtain rfl : e' = e := by simpa [he'] using hlast
      dsimp only
      rw [List.dropLast_concat, Action.bind_ok hbody, Action.map_apply, hvalue]

theorem conclusion_eq_some_iff {source text : Text} {v : ν} {m : World × τ} :
    (E.conclusion source text m).1 = .ok (some v) ↔ E.EndsWith source text m v := by
  unfold conclusion
  rcases hread : E.read source text m with ⟨x | body, n⟩
  · rw [Action.bind_error hread]
    refine iff_of_false nofun ?_
    rintro ⟨hread', -, -, -⟩
    rw [hread] at hread'
    cases hread'
  · rw [Action.bind_ok hread, conclude_eq_some_iff]
    constructor
    · rintro ⟨front, st, e, k, l, rfl, he, hbody, hvalue⟩
      exact ⟨hread, he, hbody, hvalue⟩
    · rintro ⟨hread', he, hbody, hvalue⟩
      rw [hread] at hread'
      cases hread'
      exact ⟨_, _, _, _, _, rfl, he, hbody, hvalue⟩

/-! ### What is kept -/

def kept (E : Engine τ κ χ ν ε) (v : Option ν) : Option ν := v.filter fun v => !E.isNothing v

/-- A value that is kept is the last one. -/
def Keeps (E : Engine τ κ χ ν ε) : Prop := ∀ v t, E.last? (E.keep v t) = some v

theorem keepIn_kept (t : τ) (v : Option ν) : E.keepIn t (E.kept v) = E.keepIn t v := by
  cases v with
  | none => rfl
  | some v => by_cases h : E.isNothing v = true <;> simp [kept, keepIn, Option.filter_some, h]

theorem Keeps.last?_keepIn (hE : E.Keeps) (t : τ) (v : Option ν) :
    E.last? (E.keepIn t v) = (E.kept v).or (E.last? t) := by
  cases v with
  | none => rfl
  | some v => by_cases h : E.isNothing v = true <;> simp [kept, keepIn, Option.filter_some, h, hE v t]

/-! ### Evaluations -/

variable (E)

/-- How a program ends, and the machine that it leaves once a failure of it has been reported. -/
def reported (text source : Text) (p : Action (World × τ) ε α) (m : World × τ) : Except ε α × World × τ :=
  match p m with
  | (.ok a, n) => (.ok a, n)
  | (.error e, n) => (.error e, (E.halt text source e n).2)

/-- How the program of an evaluation ends, and what it leaves before anything is kept. -/
def ending : Errand → World × τ → Except ε (Option ν) × World × τ
  | .run text file, m =>
    let source := E.nextSource file m.2
    E.reported text source (E.conclusion source text) (openCapture (m.1, E.register text text file m.2))
  | .eval text file, m =>
    let source := E.nextSource file m.2
    E.reported text source ((fun _ => none) <$> E.evaluate source (Text.trim text))
      (openCapture (m.1, E.register text (Text.trim text) file m.2))
  | .tryEval text, m => ((fun _ => none) <$> E.evaluateText text) (openCapture m)
  | .inside names e, m =>
    match m.1.visit names with
    | .ok w => ending e (w, m.2)
    | .error _ => (.ok none, m)

def value? (e : Errand) (m : World × τ) : Option ν :=
  match (E.ending e m).1 with
  | .ok v => E.kept v
  | .error _ => none

/-- An evaluation keeps a value: it runs statements, which come to their end with that of their last
one, and the value is not nothing. -/
inductive KeepsLast : Errand → World × τ → ν → Prop where
  | run {text : Text} {file : Option Path} {m : World × τ} {v : ν}
      (h : E.EndsWith (E.nextSource file m.2) text (openCapture (m.1, E.register text text file m.2)) v)
      (hv : ¬ E.isNothing v) : KeepsLast (.run text file) m v
  | inside {names : List Text} {e : Errand} {m : World × τ} {w : World} {v : ν}
      (hw : m.1.visit names = .ok w) (h : KeepsLast e (w, m.2) v) : KeepsLast (.inside names e) m v

/-- The program of an evaluation leaves the last value as it finds it. -/
def LeavesLast (e : Errand) (m : World × τ) : Prop := E.last? (E.ending e m).2.2 = E.last? m.2

variable {E}

theorem value?_run_eq_some_iff {text : Text} {file : Option Path} {m : World × τ} {v : ν} :
    E.value? (.run text file) m = some v ↔
      (E.conclusion (E.nextSource file m.2) text
        (openCapture (m.1, E.register text text file m.2))).1 = .ok (some v) ∧ ¬ E.isNothing v := by
  unfold value? ending reported
  dsimp only
  rcases E.conclusion (E.nextSource file m.2) text
    (openCapture (m.1, E.register text text file m.2)) with ⟨x | o, n⟩
  · simp
  · simp [kept, Option.filter_eq_some_iff]

theorem value?_eval (text : Text) (file : Option Path) (m : World × τ) :
    E.value? (.eval text file) m = none := by
  unfold value? ending reported
  dsimp only
  rw [Action.map_apply]
  rcases E.evaluate (E.nextSource file m.2) (Text.trim text)
    (openCapture (m.1, E.register text (Text.trim text) file m.2)) with ⟨x | v, n⟩ <;> rfl

theorem value?_tryEval (text : Text) (m : World × τ) : E.value? (.tryEval text) m = none := by
  unfold value? ending
  rw [Action.map_apply]
  rcases E.evaluateText text (openCapture m) with ⟨x | v, n⟩ <;> rfl

theorem value?_inside {names : List Text} {e : Errand} {m : World × τ} {w : World}
    (hw : m.1.visit names = .ok w) : E.value? (.inside names e) m = E.value? e (w, m.2) := by
  unfold value?
  rw [ending, hw]

theorem value?_inside_of_error {names : List Text} {e : Errand} {m : World × τ} {x : Exception}
    (hx : m.1.visit names = .error x) : E.value? (.inside names e) m = none := by
  unfold value?
  rw [ending, hx]
  rfl

theorem value?_eq_some_iff {e : Errand} {m : World × τ} {v : ν} :
    E.value? e m = some v ↔ E.KeepsLast e m v := by
  induction e generalizing m with
  | run text file =>
    rw [value?_run_eq_some_iff, conclusion_eq_some_iff]
    constructor
    · rintro ⟨h, hv⟩
      exact .run h hv
    · rintro ⟨h, hv⟩
      exact ⟨h, hv⟩
  | eval text file =>
    rw [value?_eval]
    exact iff_of_false nofun nofun
  | tryEval text =>
    rw [value?_tryEval]
    exact iff_of_false nofun nofun
  | inside names e ih =>
    cases hvisit : m.1.visit names with
    | error x =>
      rw [value?_inside_of_error hvisit]
      refine iff_of_false nofun ?_
      rintro ⟨⟩
      simp_all
    | ok w =>
      rw [value?_inside hvisit, ih]
      constructor
      · exact .inside hvisit
      · rintro ⟨⟩
        simp_all

/-- What an evaluation leaves of the session is what its program leaves, with the value that is kept. -/
theorem after_eq (e : Errand) (m : World × τ) :
    (E.after e m).2 = E.keepIn (E.ending e m).2.2 (E.value? e m) := by
  induction e generalizing m with
  | run text file =>
    unfold after value? ending reported
    dsimp only
    rcases h : E.conclusion (E.nextSource file m.2) text
      (openCapture (m.1, E.register text text file m.2)) with ⟨x | v, n⟩
    · have hfail : E.statements (E.nextSource file m.2) text
          (openCapture (m.1, E.register text text file m.2)) = (.error x, n) := Action.bind_error h _
      rw [run_of_error hfail]
      rfl
    · have hend : E.statements (E.nextSource file m.2) text
          (openCapture (m.1, E.register text text file m.2)) = (.ok (), n.1, E.keepIn n.2 v) :=
        Action.bind_ok h _
      rw [run_of_ok hend]
      exact (keepIn_kept n.2 v).symm
  | eval text file =>
    rw [value?_eval]
    unfold after ending reported
    dsimp only
    rw [Action.map_apply]
    rcases h : E.evaluate (E.nextSource file m.2) (Text.trim text)
      (openCapture (m.1, E.register text (Text.trim text) file m.2)) with ⟨x | v, n⟩
    · rw [eval_of_error h]
      rfl
    · rw [eval_of_ok h]
      rfl
  | tryEval text =>
    rw [value?_tryEval]
    unfold after ending Engine.tryEval
    rw [Action.map_apply]
    rcases E.evaluateText text (openCapture m) with ⟨x | v, n⟩ <;> rfl
  | inside names e ih =>
    cases hvisit : m.1.visit names with
    | error f =>
      rw [after_inside_of_error hvisit, value?_inside_of_error hvisit, ending, hvisit]
      rfl
    | ok w =>
      rw [after_inside hvisit, value?_inside hvisit, ending, hvisit]
      exact ih (w, m.2)

/-! ### Histories -/

variable (E)

/-- The value that the latest of some evaluations has kept that has kept one. -/
def latest : List Errand → World × τ → Option ν
  | [], _ => none
  | e :: es, m => (latest es (E.after e m)).or (E.value? e m)

def LeaveLast : List Errand → World × τ → Prop
  | [], _ => True
  | e :: es, m => E.LeavesLast e m ∧ LeaveLast es (E.after e m)

variable {E}

theorem last?_after (hE : E.Keeps) {e : Errand} {m : World × τ} (h : E.LeavesLast e m) :
    E.last? (E.after e m).2 = (E.value? e m).or (E.last? m.2) := by
  rw [after_eq, hE.last?_keepIn, h]
  unfold value?
  split
  next v _ => cases v <;> simp [kept]
  next => rfl

/-- As long as no program does anything to the last value itself, it is the one that was kept latest,
and what it was at the start if none has been kept. What is kept is the value with which statements
come to their end, and nothing else is. -/
theorem lastValue_afterAll (hE : E.Keeps) {m : World × τ} {es : List Errand} (h : E.LeaveLast es m) :
    E.last? (E.afterAll es m).2 = (E.latest es m).or (E.last? m.2) ∧
      E.session.lastValue (E.afterAll es m).2 =
        (((E.latest es m).or (E.last? m.2)).map (E.typed (E.afterAll es m).2), (E.afterAll es m).2) ∧
      ∀ e n v, E.value? e n = some v ↔ E.KeepsLast e n v := by
  have hlast : E.last? (E.afterAll es m).2 = (E.latest es m).or (E.last? m.2) := by
    induction es generalizing m with
    | nil => rfl
    | cons e es ih =>
      rw [latest, Option.or_assoc, ← last?_after hE h.1]
      exact ih h.2
  refine ⟨hlast, ?_, fun _ _ _ => value?_eq_some_iff⟩
  show ((E.last? (E.afterAll es m).2).map _, _) = _
  rw [hlast]

end Weave.Engine
