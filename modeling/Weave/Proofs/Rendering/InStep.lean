import Weave.Proofs.Rendering.Record

/-!
# Renderings in step

Two renderers that ask their evaluators the same and get the same answers render a document in the
same way, whatever else their evaluators do. What holds between the two states, and the outcomes kept
so far, carries over from section to section up to the end or the first fault. So an evaluator can be
made to note something about every request, and an invariant of the notes is that of a single request.
-/

set_option autoImplicit false

namespace Weave

variable {σ τ ε ν α β : Type}

/-! ### Actions that end alike -/

/-- Two actions have ended in the same way: with a value and `R`, or with an error and `Q`. -/
inductive Action.Ended (R : α → σ → τ → Prop) (Q : ε → σ → τ → Prop) :
    Except ε α × σ → Except ε α × τ → Prop
  | ok {a : α} {s : σ} {t : τ} (h : R a s t) : Ended R Q (.ok a, s) (.ok a, t)
  | error {e : ε} {s : σ} {t : τ} (h : Q e s t) : Ended R Q (.error e, s) (.error e, t)

namespace Action.Ended

variable {R : α → σ → τ → Prop} {Q : ε → σ → τ → Prop}

theorem bind {R' : β → σ → τ → Prop} {p : Action σ ε α} {q : Action τ ε α} {f : α → Action σ ε β}
    {g : α → Action τ ε β} {s : σ} {t : τ} (h : Ended R Q (p s) (q t))
    (hf : ∀ a s t, R a s t → Ended R' Q (f a s) (g a t)) :
    Ended R' Q ((p >>= f) s) ((q >>= g) t) := by
  rw [bind_apply, bind_apply]
  generalize p s = x at h ⊢
  generalize q t = y at h ⊢
  cases h with
  | ok h => exact hf _ _ _ h
  | error h => exact .error h

end Action.Ended

/-! ### Evaluators and renderers -/

/-- Two evaluators do alike what they are asked. Of the outcomes kept so far and the two states `R` holds
while they go on, and `Q` when one request fails. -/
structure Evaluating.InStep (R : Dictionary Outcome → σ → τ → Prop)
    (Q : RenderingFault ε → σ → τ → Prop) (file : Option Path) (e : Evaluating σ ε)
    (e' : Evaluating τ ε) : Prop where
  evaluate : ∀ {k s t} (text : Text) (asExpression : Bool), R k s t →
    Action.Ended (fun o s t => ∀ name, R (k.set name o) s t) (fun x => Q (.raised x))
      (e.evaluate text asExpression file s) (e'.evaluate text asExpression file t)
  present : ∀ {k s t name o} (kind : EmbedKind), R k s t → k.get? name = some o →
    Action.Ended (fun _ => R k) (fun x => Q (.raised x)) (e.present o kind s) (e'.present o kind t)

structure Renderer.InStep (R : Dictionary Outcome → σ → τ → Prop)
    (Q : RenderingFault ε → σ → τ → Prop) (r : Renderer σ ε) (r' : Renderer τ ε) : Prop where
  file : r'.file = r.file
  say : ∀ {k s t} (line : Text), R k s t → R k (r.say line s) (r'.say line t)
  refuse : ∀ {k s t f}, R k s t → (∀ x, f ≠ .raised x) → Q f s t
  evaluating : Option.Rel (Evaluating.InStep R Q r.file) r.evaluating r'.evaluating

namespace Renderer

variable {R : Dictionary Outcome → σ → τ → Prop} {Q : RenderingFault ε → σ → τ → Prop}
  {r : Renderer σ ε} {r' : Renderer τ ε} {m : Rendering} {s : σ} {t : τ}

/-- Two renderings have ended in the same way, with the same kept. -/
abbrev EndedInStep (R : Dictionary Outcome → σ → τ → Prop) (Q : RenderingFault ε → σ → τ → Prop)
    (x : Except (RenderingFault ε) α × Rendering × σ) (y : Except (RenderingFault ε) α × Rendering × τ) :
    Prop :=
  Action.Ended (fun _ p q => q.1 = p.1 ∧ R p.1.results p.2 q.2) (fun f p q => Q f p.2 q.2) x y

namespace InStep

variable (h : InStep R Q r r') (hst : R m.results s t)

include h

theorem sayAll {k : Dictionary Outcome} (hk : R k s t) (lines : List Text) :
    R k (r.sayAll lines s) (r'.sayAll lines t) := by
  induction lines generalizing s t with
  | nil => exact hk
  | cons line lines ih => exact ih (h.say line hk)

theorem asked (d : Snippet) : Option.Rel (Evaluating.InStep R Q r.file) (r.asked d) (r'.asked d) := by
  unfold Renderer.asked
  split
  · exact h.evaluating
  · exact .none

include hst

theorem tracked (d : Snippet) : R m.results (r.tracked m d s) (r'.tracked m d t) :=
  h.say _ (h.sayAll hst _)

theorem ready (d : Snippet) : R m.results (r.ready m d s) (r'.ready m d t) :=
  h.say _ (h.tracked hst d)

theorem define (d : Snippet) : EndedInStep R Q (r.define d (m, s)) (r'.define d (m, t)) := by
  rw [define_apply, define_apply, h.file]
  cases Snippet.composed (m.take d).definitions d with
  | error path => exact .error (h.refuse (h.sayAll hst _) nofun)
  | ok text =>
    have hasked := h.asked d
    generalize r.asked d = a at hasked ⊢
    generalize r'.asked d = a' at hasked ⊢
    cases hasked with
    | none => exact .ok ⟨rfl, h.tracked hst d⟩
    | some he =>
      have hended := he.evaluate text d.header.expression (h.ready hst d)
      dsimp only
      generalize Evaluating.evaluate _ text d.header.expression r.file (r.ready m d s) = x at hended ⊢
      generalize Evaluating.evaluate _ text d.header.expression r.file (r'.ready m d t) = y at hended ⊢
      cases hended with
      | ok ho => exact .ok ⟨rfl, ho d.name⟩
      | error hx => exact .error hx

theorem embed (name : Text) (kind : EmbedKind) :
    EndedInStep R Q (r.embed name kind (m, s)) (r'.embed name kind (m, t)) := by
  rw [embed_apply, embed_apply]
  cases m.definitions.get? name with
  | none => exact .error (h.refuse hst nofun)
  | some d =>
    have hrel := h.evaluating
    generalize r.evaluating = a at hrel ⊢
    generalize r'.evaluating = a' at hrel ⊢
    cases hrel with
    | none => exact .ok ⟨rfl, hst⟩
    | some he =>
      cases ho : m.results.get? name with
      | none => exact .ok ⟨rfl, h.say _ hst⟩
      | some o =>
        have hended := he.present kind hst ho
        dsimp only
        generalize Evaluating.present _ o kind s = x at hended ⊢
        generalize Evaluating.present _ o kind t = y at hended ⊢
        cases hended with
        | ok hbs => exact .ok ⟨rfl, hbs⟩
        | error hx => exact .error hx

theorem section_ (x : Section) :
    EndedInStep R Q (r.section_ x (m, s)) (r'.section_ x (m, t)) := by
  cases x with
  | text _ => exact .ok ⟨rfl, hst⟩
  | foreign _ => exact .error (h.refuse hst fun _ hx => by cases hx)
  | define d => exact h.define hst d
  | embed name kind => exact h.embed hst name kind
  | «show» name =>
    simp only [Renderer.section_, listing_apply]
    cases m.definitions.get? name with
    | none => exact .error (h.refuse hst fun _ hx => by cases hx)
    | some d => exact .ok ⟨rfl, hst⟩

/-- Renderers in step render all sections alike. -/
theorem sections (ss : List Section) :
    EndedInStep R Q (r.sections ss (m, s)) (r'.sections ss (m, t)) := by
  induction ss generalizing m s t with
  | nil => exact .ok ⟨rfl, hst⟩
  | cons x ss ih =>
    rw [sections_cons, sections_cons]
    apply (h.section_ hst x).bind
    rintro bs ⟨m, s⟩ ⟨m', t⟩ ⟨hm, hst⟩
    obtain rfl : m' = m := hm
    apply (ih hst).bind
    rintro cs ⟨m, s⟩ ⟨m', t⟩ h
    exact .ok h

end InStep

end Renderer

/-! ### Notes -/

/-- The evaluator that also notes something about every request to evaluate, the latest last. -/
def Evaluating.noting (note : Request → σ → ν) (e : Evaluating σ ε) : Evaluating (σ × List ν) ε where
  evaluate text x file := fun p =>
    ((e.evaluate text x file p.1).1, (e.evaluate text x file p.1).2, p.2 ++ [note ⟨text, x, file⟩ p.1])
  present o kind := Action.onFirst (e.present o kind)

theorem Evaluating.noting_present (note : Request → σ → ν) (e : Evaluating σ ε) (o : Outcome)
    (kind : EmbedKind) (s : σ) (log : List ν) :
    (e.noting note).present o kind (s, log) =
      ((e.present o kind s).1, (e.present o kind s).2, log) := rfl

namespace Renderer

def noting (note : Request → σ → ν) (r : Renderer σ ε) : Renderer (σ × List ν) ε where
  say line p := (r.say line p.1, p.2)
  evaluating := r.evaluating.map (Evaluating.noting note)
  file := r.file

def notes (note : Request → σ → ν) (r : Renderer σ ε) (ss : List Section) (s : σ) : List ν :=
  ((r.noting note).sections ss ({}, s, [])).2.2.2

/-- What holds of the outcomes kept, the state and the notes while a document is rendered, and what when
rendering is given up. -/
structure Notes (note : Request → σ → ν) (I : Dictionary Outcome → σ → List ν → Prop)
    (F : RenderingFault ε → σ → List ν → Prop) (r : Renderer σ ε) : Prop where
  say : ∀ {k s log} (line : Text), I k s log → I k (r.say line s) log
  refuse : ∀ {k s log f}, I k s log → (∀ x, f ≠ .raised x) → F f s log
  evaluate : ∀ {e k s log} (text : Text) (asExpression : Bool), r.evaluating = some e → I k s log →
    match e.evaluate text asExpression r.file s with
    | (.ok o, u) => ∀ name, I (k.set name o) u (log ++ [note ⟨text, asExpression, r.file⟩ s])
    | (.error x, u) => F (.raised x) u (log ++ [note ⟨text, asExpression, r.file⟩ s])
  present : ∀ {e k s log name o} (kind : EmbedKind), r.evaluating = some e → I k s log →
    k.get? name = some o →
    match e.present o kind s with
    | (.ok _, u) => I k u log
    | (.error x, u) => F (.raised x) u log

variable {note : Request → σ → ν} {I : Dictionary Outcome → σ → List ν → Prop}
  {F : RenderingFault ε → σ → List ν → Prop} {r : Renderer σ ε}

theorem Notes.inStep (h : Notes note I F r) :
    InStep (fun k s t => t.1 = s ∧ I k s t.2) (fun f s t => t.1 = s ∧ F f s t.2) r (r.noting note) where
  file := rfl
  say := by
    rintro k s ⟨t, log⟩ line ⟨rfl, hI⟩
    exact ⟨rfl, h.say line hI⟩
  refuse := by
    rintro k s ⟨t, log⟩ f ⟨rfl, hI⟩ hf
    exact ⟨rfl, h.refuse hI hf⟩
  evaluating := by
    rw [noting]
    cases he : r.evaluating with
    | none => exact .none
    | some e =>
      refine .some ⟨?_, ?_⟩
      · rintro k s ⟨t, log⟩ text x ⟨rfl, hI⟩
        have hev := h.evaluate text x he hI
        simp only [Evaluating.noting]
        dsimp only at hev
        generalize e.evaluate text x r.file t = y at hev ⊢
        obtain ⟨f | o, u⟩ := y
        · exact .error ⟨rfl, hev⟩
        · exact .ok fun name => ⟨rfl, hev name⟩
      · rintro k s ⟨t, log⟩ name o kind ⟨rfl, hI⟩ ho
        have hpr := h.present kind he hI ho
        rw [Evaluating.noting_present]
        dsimp only at hpr
        generalize e.present o kind t = y at hpr ⊢
        obtain ⟨f | bs, u⟩ := y
        · exact .error ⟨rfl, hpr⟩
        · exact .ok ⟨rfl, hpr⟩

/-- An invariant of the notes holds at the end of a document. -/
theorem Notes.sections (h : Notes note I F r) {s : σ} (hs : I {} s []) (ss : List Section) :
    match r.sections ss ({}, s) with
    | (.ok _, m, u) => I m.results u (r.notes note ss s)
    | (.error f, _, u) => F f u (r.notes note ss s) := by
  have hended := h.inStep.sections (m := {}) (s := s) (t := (s, [])) ⟨rfl, hs⟩ ss
  rw [notes]
  generalize r.sections ss ({}, s) = x at hended ⊢
  generalize (r.noting note).sections ss ({}, s, []) = y at hended ⊢
  cases hended with
  | @ok bs p q h =>
    obtain ⟨⟨m, u⟩, ⟨m', v, log⟩⟩ := (p, q)
    exact h.2.2
  | @error f p q h =>
    obtain ⟨⟨m, u⟩, ⟨m', v, log⟩⟩ := (p, q)
    exact h.2

/-- Every note is one about some request in some state. -/
theorem exists_of_mem_notes {n : ν} {ss : List Section} {s : σ} (h : n ∈ r.notes note ss s) :
    ∃ q t, n = note q t := by
  have hconcat : ∀ {log : List ν}, (∀ n ∈ log, ∃ q t, n = note q t) → ∀ q t,
      ∀ n ∈ log ++ [note q t], ∃ q t, n = note q t := by
    intro log hlog q t n hn
    rcases List.mem_append.mp hn with hn | hn
    · exact hlog n hn
    · exact ⟨q, t, List.mem_singleton.mp hn⟩
  have hnotes : Notes note (fun _ _ log => ∀ n ∈ log, ∃ q t, n = note q t)
      (fun _ _ log => ∀ n ∈ log, ∃ q t, n = note q t) r := by
    refine ⟨fun _ hlog => hlog, fun hlog _ => hlog, ?_, ?_⟩
    · intro e k s log text asExpression _ hlog
      generalize e.evaluate text asExpression r.file s = x
      obtain ⟨f | o, u⟩ := x
      · exact hconcat hlog _ _
      · exact fun _ => hconcat hlog _ _
    · intro e k s log name o kind _ hlog _
      generalize e.present o kind s = x
      obtain ⟨f | bs, u⟩ := x <;> exact hlog
  have hended := hnotes.sections (s := s) (fun n hn => absurd hn List.not_mem_nil) ss
  generalize r.sections ss ({}, s) = x at hended
  obtain ⟨f | bs, m, u⟩ := x
  · exact hended n h
  · exact hended n h

def SameRequests (g : ν → Request) (s : σ × List (Evaluation ε)) (t : σ × List ν) : Prop :=
  t.1 = s.1 ∧ t.2.map g = s.2.map Evaluation.request

/-- Every evaluation is noted, in order. -/
theorem map_notes {g : ν → Request} (hg : ∀ q s, g (note q s) = q) (r : Renderer σ ε)
    (ss : List Section) (s : σ) :
    (r.notes note ss s).map g = (r.evaluations ss s).map Evaluation.request := by
  have hstep : InStep (fun _ => SameRequests g) (fun _ => SameRequests g) r.recording
      (r.noting note) := by
    refine ⟨rfl, fun line h => ⟨congrArg (r.say line) h.1, h.2⟩, fun h _ => h, ?_⟩
    rw [recording, noting]
    cases r.evaluating with
    | none => exact .none
    | some e =>
      refine .some ⟨?_, ?_⟩
      · rintro k ⟨s, log⟩ ⟨t, log'⟩ text x ⟨hst, hlog⟩
        obtain rfl : t = s := hst
        have hlog' : (log' ++ [note ⟨text, x, r.file⟩ t]).map g =
            (log ++ [(⟨⟨text, x, r.file⟩, (e.evaluate text x r.file t).1⟩ : Evaluation ε)]).map
              Evaluation.request := by
          rw [List.map_append, List.map_append, List.map_singleton, List.map_singleton, hg]
          exact congrArg (· ++ _) hlog
        simp only [Evaluating.recording, Evaluating.noting]
        generalize e.evaluate text x r.file t = y at hlog' ⊢
        obtain ⟨f | o, u⟩ := y
        · exact .error ⟨rfl, hlog'⟩
        · exact .ok fun _ => ⟨rfl, hlog'⟩
      · rintro k ⟨s, log⟩ ⟨t, log'⟩ name o kind ⟨hst, hlog⟩ -
        obtain rfl : t = s := hst
        rw [Evaluating.recording_present, Evaluating.noting_present]
        generalize e.present o kind t = y
        obtain ⟨f | bs, u⟩ := y
        · exact .error ⟨rfl, hlog⟩
        · exact .ok ⟨rfl, hlog⟩
  have hended := hstep.sections (m := {}) (s := (s, [])) (t := (s, [])) ⟨rfl, rfl⟩ ss
  rw [notes, evaluations]
  generalize r.recording.sections ss ({}, s, []) = x at hended ⊢
  generalize (r.noting note).sections ss ({}, s, []) = y at hended ⊢
  cases hended with
  | ok h => exact h.2.2
  | error h => exact h.2

end Renderer

end Weave
