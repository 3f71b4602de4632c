import Weave.Proofs.Rendering.Steps

/-!
# What an evaluator is asked

An evaluator can be made to write down what it is asked and what it answers. A renderer does the
same with such an evaluator as with the one it wraps, so what is written down is what the rendering
asks: one evaluation for a definition whose header asks for it, and nothing for other sections.
-/

set_option autoImplicit false

namespace Weave

/-- What an evaluator is told when it is asked to run a text. -/
structure Request where
  text : Text
  asExpression : Bool
  file : Option Path
deriving DecidableEq

/-- A request and how it was answered. -/
structure Evaluation (ε : Type) where
  request : Request
  answer : Except ε Outcome

variable {σ ε : Type}

/-- The evaluator that also writes down every evaluation, the latest last. -/
def Evaluating.recording (e : Evaluating σ ε) : Evaluating (σ × List (Evaluation ε)) ε where
  evaluate t x f := fun p =>
    ((e.evaluate t x f p.1).1, (e.evaluate t x f p.1).2,
      p.2 ++ [⟨⟨t, x, f⟩, (e.evaluate t x f p.1).1⟩])
  present o kind := Action.onFirst (e.present o kind)

theorem Evaluating.recording_evaluate (e : Evaluating σ ε) (q : Request) (s : σ)
    (log : List (Evaluation ε)) :
    e.recording.evaluate q.text q.asExpression q.file (s, log) =
      ((e.evaluate q.text q.asExpression q.file s).1, (e.evaluate q.text q.asExpression q.file s).2,
        log ++ [⟨q, (e.evaluate q.text q.asExpression q.file s).1⟩]) := rfl

theorem Evaluating.recording_present (e : Evaluating σ ε) (o : Outcome) (kind : EmbedKind) (s : σ)
    (log : List (Evaluation ε)) :
    e.recording.present o kind (s, log) =
      ((e.present o kind s).1, (e.present o kind s).2, log) := rfl

namespace Renderer

def recording (r : Renderer σ ε) : Renderer (σ × List (Evaluation ε)) ε where
  say line p := (r.say line p.1, p.2)
  evaluating := r.evaluating.map Evaluating.recording
  file := r.file

/-- The evaluations made while a document is rendered from an evaluator's state on. -/
def evaluations (r : Renderer σ ε) (ss : List Section) (s : σ) : List (Evaluation ε) :=
  (r.recording.sections ss ({}, s, [])).2.2.2

def made (r : Renderer σ ε) : Section → Rendering × σ → List (Evaluation ε)
  | .define d, (m, s) =>
    match Snippet.composed (m.take d).definitions d, r.asked d with
    | .ok t, some e =>
      [⟨⟨t, d.header.expression, r.file⟩,
        (e.evaluate t d.header.expression r.file (r.ready m d s)).1⟩]
    | _, _ => []
  | _, _ => []

/-- A result together with what has been written down so far. -/
def noted {α : Type} (log : List (Evaluation ε)) (q : Except (RenderingFault ε) α × Rendering × σ) :
    Except (RenderingFault ε) α × Rendering × σ × List (Evaluation ε) :=
  (q.1, q.2.1, q.2.2, log)

theorem recording_sayAll (r : Renderer σ ε) (lines : List Text) (s : σ)
    (log : List (Evaluation ε)) :
    r.recording.sayAll lines (s, log) = (r.sayAll lines s, log) := by
  induction lines generalizing s with
  | nil => rfl
  | cons line lines ih => exact ih (r.say line s)

theorem recording_tracked (r : Renderer σ ε) (m : Rendering) (d : Snippet) (s : σ)
    (log : List (Evaluation ε)) :
    r.recording.tracked m d (s, log) = (r.tracked m d s, log) := by
  simp only [tracked, recording_sayAll]
  rfl

theorem recording_ready (r : Renderer σ ε) (m : Rendering) (d : Snippet) (s : σ)
    (log : List (Evaluation ε)) :
    r.recording.ready m d (s, log) = (r.ready m d s, log) := by
  simp only [ready, recording_tracked]
  rfl

theorem recording_asked (r : Renderer σ ε) (d : Snippet) :
    r.recording.asked d = (r.asked d).map Evaluating.recording := by
  unfold asked recording
  split <;> rfl

/-- Writing down changes nothing else, and a section adds the evaluations it makes. -/
theorem recording_section (r : Renderer σ ε) (x : Section) (m : Rendering) (s : σ)
    (log : List (Evaluation ε)) :
    r.recording.section_ x (m, s, log) =
      noted (log ++ r.made x (m, s)) (r.section_ x (m, s)) := by
  cases x with
  | text t => simp [section_, Action.pure_apply, noted, made]
  | foreign c => simp [section_, Action.fail_apply, noted, made]
  | «show» name =>
    simp only [section_, listing_apply, noted, made]
    cases m.definitions.get? name <;> simp
  | embed name kind =>
    simp only [section_, embed_apply, noted, made, List.append_nil]
    cases m.definitions.get? name with
    | none => rfl
    | some d =>
      cases he : r.evaluating with
      | none => simp [recording, he]
      | some e =>
        simp only [recording, he, Option.map_some]
        cases m.results.get? name with
        | none => rfl
        | some o =>
          simp only [Evaluating.recording_present]
          rcases e.present o kind s with ⟨x | bs, u⟩ <;> rfl
  | define d =>
    simp only [section_, define_apply, noted, made, recording_asked, recording_sayAll,
      recording_tracked, recording_ready]
    cases Snippet.composed (m.take d).definitions d with
    | error path => simp
    | ok t =>
      cases r.asked d with
      | none => simp
      | some e =>
        have hx := e.recording_evaluate ⟨t, d.header.expression, r.file⟩ (r.ready m d s) log
        have hf : r.recording.file = r.file := rfl
        simp only [Option.map_some, hf, hx]
        rcases e.evaluate t d.header.expression r.file (r.ready m d s) with ⟨x | o, u⟩ <;> rfl

/-- The evaluations that sections make one after the other, up to the first that fails. -/
def madeBy (r : Renderer σ ε) : List Section → Rendering × σ → List (Evaluation ε)
  | [], _ => []
  | x :: xs, p => r.made x p ++
    match r.section_ x p with
    | (.ok _, q) => r.madeBy xs q
    | (.error _, _) => []

theorem recording_sections (r : Renderer σ ε) (ss : List Section) (m : Rendering) (s : σ)
    (log : List (Evaluation ε)) :
    r.recording.sections ss (m, s, log) =
      noted (log ++ r.madeBy ss (m, s)) (r.sections ss (m, s)) := by
  induction ss generalizing m s log with
  | nil => simp [sections_nil, madeBy, noted]
  | cons x xs ih =>
    have hx := r.recording_section x m s log
    simp only [sections_cons, madeBy]
    cases h : r.section_ x (m, s) with
    | mk a q =>
      obtain ⟨n, u⟩ := q
      rw [h] at hx
      cases a with
      | error e =>
        rw [Action.bind_error hx, Action.bind_error h]
        simp [noted]
      | ok bs =>
        rw [Action.bind_ok hx, Action.bind_ok h]
        simp only [Action.bind_apply, ih, noted, ← List.append_assoc]
        rcases r.sections xs (n, u) with ⟨e | cs, v⟩ <;> rfl

theorem evaluations_eq (r : Renderer σ ε) (ss : List Section) (s : σ) :
    r.evaluations ss s = r.madeBy ss ({}, s) := by
  rw [evaluations, recording_sections, List.nil_append]
  rfl

theorem madeBy_append (r : Renderer σ ε) {xs : List Section} {p q : Rendering × σ}
    {bs : List Block} (h : r.sections xs p = (.ok bs, q)) (ys : List Section) :
    r.madeBy (xs ++ ys) p = r.madeBy xs p ++ r.madeBy ys q := by
  induction xs generalizing p bs with
  | nil =>
    simp only [sections_nil, Prod.mk.injEq] at h
    simp [madeBy, h.2]
  | cons x xs ih =>
    rw [sections_cons] at h
    obtain ⟨cs, n, hx, h⟩ := Action.bind_eq_ok h
    obtain ⟨ds, n', hxs, h⟩ := Action.bind_eq_ok h
    simp only [Action.pure_apply, Prod.mk.injEq] at h
    obtain ⟨-, rfl⟩ := h
    simp only [List.cons_append, madeBy, hx, ih hxs, List.append_assoc]

def echoing : Evaluating Unit Empty where
  evaluate t _ _ s := (.ok { output := some t }, s)
  present o _ s := (.ok [.code (o.output.getD []) []], s)

def echo : Renderer Unit Empty where
  say _ s := s
  evaluating := some echoing
  file := none

end Renderer

end Weave
