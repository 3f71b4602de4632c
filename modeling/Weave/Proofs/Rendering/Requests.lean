import Mathlib.Data.List.Forall2
import Weave.Proofs.Rendering.History

/-!
# What a document has evaluated and shown

The evaluator is asked once for every definition that wants it, in the order of the document and
with the text that the definition has where it stands. That text is the one that is shown until the
name is defined anew.
-/

set_option autoImplicit false

namespace Weave

/-- The definitions that ask for evaluation, in order, each with the definitions made so far, of
which it is one. -/
def asking (defs : Definitions) : List Section → List (Definitions × Snippet)
  | [] => []
  | .define d :: xs =>
    if d.header.shouldEvaluate then (defs.set d.name d, d) :: asking (defs.set d.name d) xs
    else asking (defs.set d.name d) xs
  | _ :: xs => asking defs xs

variable {σ ε : Type}

/-- An evaluator whose methods always return. -/
structure Evaluating.Returns (e : Evaluating σ ε) : Prop where
  evaluate : ∀ t x f s, ∃ o u, e.evaluate t x f s = (.ok o, u)
  present : ∀ o kind s, ∃ bs u, e.present o kind s = (.ok bs, u)

namespace Renderer

variable {r : Renderer σ ε}

def Passes (r : Renderer σ ε) (xs : List Section) (s : σ) : Prop :=
  ∃ bs q, r.sections xs ({}, s) = (.ok bs, q)

/-- A request made for a definition: the text composed of the definitions so far, in the mode that
the header asks for. -/
def Answers (r : Renderer σ ε) (p : Definitions × Snippet) (q : Request) : Prop :=
  Snippet.composed p.1 p.2 = .ok q.text ∧ q.asExpression = p.2.header.expression ∧ q.file = r.file

/-- Where sections fail, there is a first one that does. -/
theorem exists_passed (r : Renderer σ ε) (xs : List Section) (p : Rendering × σ) :
    (∃ bs q, r.sections xs p = (.ok bs, q)) ∨
      ∃ done x rest bs q e q', xs = done ++ x :: rest ∧ r.sections done p = (.ok bs, q) ∧
        r.section_ x q = (.error e, q') := by
  induction xs generalizing p with
  | nil => exact Or.inl ⟨[], p, rfl⟩
  | cons x xs ih =>
    cases hx : r.section_ x p with
    | mk a q =>
      cases a with
      | error e => exact Or.inr ⟨[], x, xs, [], p, e, q, rfl, rfl, hx⟩
      | ok bs =>
        have hs : r.sections [x] p = (.ok bs, q) := by rw [sections_singleton, hx]
        rcases ih q with ⟨cs, q', h⟩ | ⟨done, y, rest, cs, q', e, q'', hxs, hd, hy⟩
        · exact Or.inl ⟨bs ++ cs, q', sections_append_ok hs h⟩
        · exact Or.inr ⟨x :: done, y, rest, bs ++ cs, q', e, q'', by rw [hxs]; rfl,
            sections_append_ok hs hd, hy⟩

/-- A section that fails although the evaluator always returns has not asked for anything. -/
theorem made_eq_nil_of_error {e : Evaluating σ ε} (he : r.evaluating = some e) (hq : e.Returns)
    {x : Section} {p q : Rendering × σ} {f : RenderingFault ε}
    (h : r.section_ x p = (.error f, q)) : r.made x p = [] := by
  obtain ⟨m, s⟩ := p
  cases x with
  | define d =>
    simp only [section_, define_apply] at h
    simp only [made]
    cases hc : Snippet.composed (m.take d).definitions d with
    | error path => rfl
    | ok t =>
      simp only [hc] at h
      cases ha : r.asked d with
      | none => rfl
      | some e' =>
        have heq : e' = e := by
          unfold asked at ha
          split at ha
          · exact Option.some.inj (ha.symm.trans he)
          · simp at ha
        subst heq
        obtain ⟨o, u, hx⟩ := hq.evaluate t d.header.expression r.file (r.ready m d s)
        simp [ha, hx] at h
  | _ => rfl

theorem asked_eq_some_iff {e : Evaluating σ ε} (he : r.evaluating = some e) (d : Snippet) :
    r.asked d = some e ↔ d.header.shouldEvaluate = true := by
  unfold asked
  cases d.header.shouldEvaluate <;> simp [he]

/-- What a run asks for, definition by definition. -/
theorem madeBy_answers {e : Evaluating σ ε} (he : r.evaluating = some e) {xs : List Section}
    {m n : Rendering} {s u : σ} {bs : List Block} (h : r.sections xs (m, s) = (.ok bs, n, u)) :
    List.Forall₂ r.Answers (asking m.definitions xs)
      ((r.madeBy xs (m, s)).map Evaluation.request) := by
  induction xs generalizing m s bs with
  | nil => exact .nil
  | cons x xs ih =>
    obtain ⟨cs, ds, ⟨k, v⟩, hx, hxs, -⟩ := sections_cons_eq_ok h
    have hrest := ih hxs
    simp only [madeBy, hx, List.map_append]
    by_cases hd : ∃ d, x = .define d
    · obtain ⟨d, rfl⟩ := hd
      obtain ⟨-, t, hc, ht⟩ := define_eq_ok hx
      rw [ht.definitions] at hrest
      simp only [asking]
      cases hs : d.header.shouldEvaluate with
      | true =>
        obtain ⟨o, -, hlog⟩ := ht.results_of_asked ((asked_eq_some_iff he d).mpr hs)
        rw [hlog]
        exact .cons ⟨hc, rfl, rfl⟩ hrest
      | false =>
        rw [ht.log_of_asked_none (by simp [asked, hs])]
        exact hrest
    · have hmade := (section_rendering (r := r) (fun d e => hd ⟨d, e⟩) m s).2
      obtain rfl := section_eq_ok_of_not_define (fun d e => hd ⟨d, e⟩) hx
      rw [hmade]
      cases x with
      | define d => exact absurd ⟨d, rfl⟩ hd
      | _ => exact hrest

theorem Passes.of_append {xs ys : List Section} {s : σ} (h : r.Passes (xs ++ ys) s) :
    r.Passes xs s := by
  obtain ⟨bs, q, h⟩ := h
  obtain ⟨cs, ds, n, hx, -, -⟩ := sections_append_eq_ok h
  exact ⟨cs, n, hx⟩

/-- Behind a definition, and until its name is defined anew, a show adds the text that the definition
was composed to. -/
theorem sections_show {pre mid : List Section} {d : Snippet} {s : σ}
    (h : r.Passes (pre ++ .define d :: mid) s) (hm : Undefined d.name mid) :
    ∃ t bs q, Snippet.composed (definitionsAfter {} (pre ++ [.define d])) d = .ok t ∧
      r.sections (pre ++ .define d :: mid) ({}, s) = (.ok bs, q) ∧
      r.sections (pre ++ .define d :: mid ++ [.show d.name]) ({}, s)
        = (.ok (bs ++ [.code t d.header.lang.name]), q) := by
  obtain ⟨bs, ⟨m, u⟩, h⟩ := h
  obtain ⟨cs, m₀, s₀, m₁, s₁, t, hpre, hc, ht, hs, -⟩ := sections_inForce h ⟨rfl, rfl, hm⟩
  have hshow := show_inForce ht hs rfl u
  refine ⟨t, bs, (m, u), ?_, h, sections_append_ok h ?_⟩
  · rw [definitionsAfter_append, ← hc, sections_definitions hpre]
    rfl
  · rw [sections_singleton, hshow]

/-- With an evaluator that always returns, the evaluator is asked exactly once for each definition
that wants it among the sections gone through, which are all of them unless one fails; and until a
name is defined anew, its shows print the text composed where it was defined. -/
theorem evaluations_answer_asking {e : Evaluating σ ε} (he : r.evaluating = some e)
    (hq : e.Returns) (ss : List Section) (s : σ) :
    ∃ done rest, ss = done ++ rest ∧ r.Passes done s ∧ (r.Passes ss s → rest = []) ∧
      (∀ x xs, rest = x :: xs → ¬ r.Passes (done ++ [x]) s) ∧
      List.Forall₂ r.Answers (asking {} done) ((r.evaluations ss s).map Evaluation.request) ∧
      ∀ pre d mid, pre ++ .define d :: mid <+: done → Undefined d.name mid →
        ∃ t bs q, Snippet.composed (definitionsAfter {} (pre ++ [.define d])) d = .ok t ∧
          r.sections (pre ++ .define d :: mid) ({}, s) = (.ok bs, q) ∧
          r.sections (pre ++ .define d :: mid ++ [.show d.name]) ({}, s)
            = (.ok (bs ++ [.code t d.header.lang.name]), q) := by
  rcases r.exists_passed ss ({}, s) with ⟨bs, ⟨m, u⟩, h⟩ | ⟨done, x, rest, bs, ⟨m, u⟩, f, q', hss, hd, hx⟩
  · refine ⟨ss, [], by simp, ⟨bs, _, h⟩, fun _ => rfl, by simp, ?_, ?_⟩
    · rw [evaluations_eq]
      exact madeBy_answers he h
    · rintro pre d mid ⟨post, rfl⟩ hm
      exact sections_show (Passes.of_append ⟨bs, _, h⟩) hm
  · have hfail : ¬ r.Passes (done ++ [x]) s := by
      rintro ⟨cs, n, hp⟩
      rw [sections_append, Action.bind_ok hd, sections_singleton, Action.bind_error hx] at hp
      simp at hp
    have hmade : r.madeBy ss ({}, s) = r.madeBy done ({}, s) := by
      rw [hss, madeBy_append r hd]
      simp [madeBy, hx, made_eq_nil_of_error he hq hx]
    refine ⟨done, x :: rest, hss, ⟨bs, _, hd⟩, ?_, ?_, ?_, ?_⟩
    · intro hp
      rw [hss, List.append_cons] at hp
      exact absurd hp.of_append hfail
    · intro y ys hy
      rw [List.cons.injEq] at hy
      exact hy.1 ▸ hfail
    · rw [evaluations_eq, hmade]
      exact madeBy_answers he hd
    · rintro pre d mid ⟨post, rfl⟩ hm
      exact sections_show (Passes.of_append ⟨bs, _, hd⟩) hm

theorem echoing_returns : echoing.Returns :=
  ⟨fun t _ _ s => ⟨{ output := some t }, s, rfl⟩,
    fun o _ s => ⟨[.code (o.output.getD []) []], s, rfl⟩⟩

def forwardDocument : List Section :=
  [.define ⟨['a'], {}, [.embed ['b'], .text ['1']]⟩,
    .define ⟨['b'], { expression := true }, [.text ['2']]⟩, .show ['a']]

theorem evaluations_forwardDocument :
    echo.evaluating = some echoing ∧ echoing.Returns ∧ echo.Passes forwardDocument () ∧
      List.Forall₂ echo.Answers (asking {} forwardDocument)
        ((echo.evaluations forwardDocument ()).map Evaluation.request) := by
  have hp : echo.Passes forwardDocument () := ⟨_, _, rfl⟩
  obtain ⟨done, rest, hss, -, hrest, -, hall, -⟩ :=
    evaluations_answer_asking (r := echo) rfl echoing_returns forwardDocument ()
  obtain rfl := hrest hp
  rw [List.append_nil] at hss
  exact ⟨rfl, echoing_returns, hp, hss ▸ hall⟩

def failingDocument : List Section := [.show ['b'], .define ⟨['a'], {}, [.text ['1']]⟩]

/-- Behind a section that fails a definition is not evaluated. -/
theorem not_answered_failingDocument :
    echo.evaluating = some echoing ∧ echoing.Returns ∧
      ¬ List.Forall₂ echo.Answers (asking {} failingDocument)
        ((echo.evaluations failingDocument ()).map Evaluation.request) := by
  refine ⟨rfl, echoing_returns, fun h => ?_⟩
  have hlen := h.length_eq
  exact absurd hlen (by decide)

end Renderer

end Weave
