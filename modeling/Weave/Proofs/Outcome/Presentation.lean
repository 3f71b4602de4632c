import Mathlib.Data.List.Induction
import Weave.Outcome.Presentation

/-!
# Who presents a value

The transformations of a presenter are asked one after the other, those registered last first and the
layout as a listing at the end, until one accepts the value or raises. None behind it is asked. The
layout never refuses, so that as long as it is there some transformation decides.
-/

set_option autoImplicit false

namespace Weave

variable {σ : Type}

def Outcome.wanted? (o : Outcome) : EmbedKind → Option TypedValue
  | .output => none
  | .itValue => o.itValue
  | .value => o.result

namespace PresenterOn

/-- These transformations are asked one after the other and refuse, and take a state to another. -/
inductive Refuse (v : TypedValue) : List (TransformationOn σ) → σ → σ → Prop
  | nil {s : σ} : Refuse v [] s s
  | cons {t : TransformationOn σ} {ts : List (TransformationOn σ)} {s s' u : σ}
      (ht : t v s = (.ok none, s')) (hts : Refuse v ts s' u) : Refuse v (t :: ts) s u

/-- A transformation that is asked in a state does not refuse: its blocks, or its exception, are the
answer. -/
inductive Decides (v : TypedValue) (t : TransformationOn σ) (s : σ) :
    Except PresentationError (List Block) × σ → Prop
  | accept {bs : List Block} {u : σ} (ht : t v s = (.ok (some bs), u)) : Decides v t s (.ok bs, u)
  | raise {e : Exception} {u : σ} (ht : t v s = (.error e, u)) : Decides v t s (.error (.raised e), u)

theorem Decides.ne_exhausted {v : TypedValue} {t : TransformationOn σ} {s : σ}
    {r : Except PresentationError (List Block) × σ} (h : Decides v t s r) (name : Text) :
    r.1 ≠ .error (.exhausted name) := by
  cases h <;> simp

theorem transform_of_refuse {v : TypedValue} {ts : List (TransformationOn σ)} {s u : σ}
    (h : Refuse v ts s u) (rest : List (TransformationOn σ)) :
    transform (ts ++ rest) v s = transform rest v u := by
  induction h with
  | nil => rfl
  | cons ht _ ih =>
    rw [List.cons_append, transform_cons, ht]
    exact ih

/-- Either all refuse, or one decides behind others that refuse. -/
theorem refuse_or_decides (v : TypedValue) (ts : List (TransformationOn σ)) (s : σ) :
    (∃ u, Refuse v ts s u) ∨ ∃ refused t rest m, ts = refused ++ t :: rest ∧ Refuse v refused s m ∧
      Decides v t m (transform ts v s) := by
  induction ts generalizing s with
  | nil => exact .inl ⟨s, .nil⟩
  | cons t ts ih =>
    rcases ht : t v s with ⟨e | _ | bs, m⟩
    · refine .inr ⟨[], t, ts, s, rfl, .nil, ?_⟩
      rw [transform_cons, ht]
      exact .raise ht
    · rcases ih m with ⟨u, hu⟩ | ⟨refused, decider, rest, m', rfl, hrefused, hdecides⟩
      · exact .inl ⟨u, .cons ht hu⟩
      · refine .inr ⟨t :: refused, decider, rest, m', rfl, .cons ht hrefused, ?_⟩
        rw [transform_cons, ht]
        exact hdecides
    · refine .inr ⟨[], t, ts, s, rfl, .nil, ?_⟩
      rw [transform_cons, ht]
      exact .accept ht

theorem transform_exhausted_iff (v : TypedValue) (ts : List (TransformationOn σ)) (s : σ) (name : Text) :
    (transform ts v s).1 = .error (.exhausted name) ↔ name = v.className ∧ ∃ u, Refuse v ts s u := by
  constructor
  · intro h
    rcases refuse_or_decides v ts s with ⟨u, hu⟩ | ⟨refused, t, rest, m, -, -, hdecides⟩
    · have hall := transform_of_refuse hu []
      rw [List.append_nil] at hall
      rw [hall] at h
      have hname : v.className = name := by simpa [transform_nil] using h
      exact ⟨hname.symm, u, hu⟩
    · exact absurd h (hdecides.ne_exhausted name)
  · rintro ⟨rfl, u, hu⟩
    have hall := transform_of_refuse hu []
    rw [List.append_nil] at hall
    rw [hall]
    rfl

/-- The layout as a listing never refuses. -/
theorem layout_ne_none (v : TypedValue) (s u : σ) : Transformation.layout.on v s ≠ (.ok none, u) := by
  unfold Transformation.on Transformation.layout
  split <;> simp [Action.ofExcept, Action.pure_apply, Action.fail_apply]

theorem Refuse.not_mem_layout {v : TypedValue} {ts : List (TransformationOn σ)} {s u : σ}
    (h : Refuse v ts s u) : Transformation.layout.on ∉ ts := by
  induction h with
  | nil => exact List.not_mem_nil
  | cons ht _ ih =>
    rintro (_ | ⟨_, hmem⟩)
    · exact layout_ne_none v _ _ ht
    · exact ih hmem

theorem transformations_registered (ts : List (TransformationOn σ)) (p : PresenterOn σ) :
    (ts.foldl register p).transformations = ts.reverse ++ p.transformations := by
  induction ts generalizing p with
  | nil => rfl
  | cons t ts ih => rw [List.foldl_cons, ih, register, List.reverse_cons, List.append_assoc]; rfl

theorem present_of_wanted {o : Outcome} {kind : EmbedKind} {v : TypedValue} (h : o.wanted? kind = some v)
    (p : PresenterOn σ) : p.present o kind = transform p.transformations v := by
  cases kind with
  | output => cases h
  | itValue => rw [present, show o.itValue = some v from h]; rfl
  | value => rw [present, show o.result = some v from h]; rfl

theorem present_of_not_wanted {o : Outcome} {kind : EmbedKind} (h : o.wanted? kind = none) :
    ∃ bs, ∀ (p : PresenterOn σ) (s : σ), p.present o kind s = (.ok bs, s) := by
  cases kind with
  | output => exact ⟨_, fun _ _ => rfl⟩
  | itValue =>
    refine ⟨[.code noValue []], fun p s => ?_⟩
    rw [present, show o.itValue = none from h]
    rfl
  | value =>
    refine ⟨[.code noValue []], fun p s => ?_⟩
    rw [present, show o.result = none from h]
    rfl

/-- Of the registered transformations, the last one first, and the layout behind them, the first that
does not refuse decides, and what it leaves of the state is what is left in the end. Asking ends in
vain only without the layout, and then exactly if all refuse. Where no value is wanted nobody is
asked. -/
theorem present_registered (ts : List (TransformationOn σ)) (o : Outcome) (kind : EmbedKind) (s : σ) :
    (∀ v, o.wanted? kind = some v →
      (∃ refused t rest m, ts.reverse ++ [Transformation.layout.on] = refused ++ t :: rest ∧
        Refuse v refused s m ∧ Decides v t m ((ts.foldl register {}).present o kind s)) ∧
      ∀ (p : PresenterOn σ) name, (p.present o kind s).1 = .error (.exhausted name) ↔
        name = v.className ∧ ∃ u, Refuse v p.transformations s u) ∧
    (∀ name, ((ts.foldl register {}).present o kind s).1 ≠ .error (.exhausted name)) ∧
    (o.wanted? kind = none → ∃ bs, ∀ (p : PresenterOn σ) s, p.present o kind s = (.ok bs, s)) := by
  have hlist : (ts.foldl register {}).transformations = ts.reverse ++ [Transformation.layout.on] :=
    transformations_registered ts {}
  have hexhausted : ∀ v, o.wanted? kind = some v → ∀ (p : PresenterOn σ) name,
      (p.present o kind s).1 = .error (.exhausted name) ↔
        name = v.className ∧ ∃ u, Refuse v p.transformations s u := by
    intro v hv p name
    rw [present_of_wanted hv]
    exact transform_exhausted_iff v p.transformations s name
  have hlayout : ∀ v u, ¬ Refuse v (ts.foldl register {}).transformations s u := by
    intro v u hu
    exact hu.not_mem_layout (by simp [hlist])
  refine ⟨fun v hv => ⟨?_, hexhausted v hv⟩, fun name => ?_, present_of_not_wanted⟩
  · rw [present_of_wanted hv, ← hlist]
    rcases refuse_or_decides v (ts.foldl register {}).transformations s with ⟨u, hu⟩ | hdecides
    · exact absurd hu (hlayout v u)
    · exact hdecides
  · cases hv : o.wanted? kind with
    | none =>
      obtain ⟨bs, hbs⟩ := @present_of_not_wanted σ o kind hv
      simp [hbs]
    | some v =>
      rw [Ne, hexhausted v hv]
      rintro ⟨-, u, hu⟩
      exact hlayout v u hu

end PresenterOn

end Weave
