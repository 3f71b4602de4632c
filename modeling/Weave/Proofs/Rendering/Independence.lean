import Weave.Proofs.Rendering.Refusals

/-!
# Rendering with and without an evaluator

What an evaluator answers goes into the blocks of embeds and nowhere else. A document that is rendered
twice, once with an evaluator that always returns and once without any, therefore has the same
definitions and the same composed texts, and fails at the same section for the same reason; the blocks
without an evaluator are the others less those of the embeds.
-/

set_option autoImplicit false

namespace Weave

variable {σ τ ε : Type}

def Section.isEmbed : Section → Bool
  | .embed _ _ => true
  | _ => false

/-- The blocks of some sections, a list for each, without those of the embeds. -/
def withoutEmbeds (xs : List Section) (bss : List (List Block)) : List (List Block) :=
  List.zipWith (fun x bs => if x.isEmbed then [] else bs) xs bss

/-- All is the same but the outcomes, of which there are none on the right. -/
structure Rendering.Bare (m n : Rendering) : Prop where
  definitions : n.definitions = m.definitions
  texts : n.texts = m.texts
  results : n.results = {}

namespace Renderer

/-- How one section ends with an evaluator and without. -/
inductive Apart (x : Section) : Except (RenderingFault ε) (List Block) × Rendering × σ →
    Except (RenderingFault ε) (List Block) × Rendering × τ → Prop where
  | ok {bs : List Block} {q : Rendering × σ} {q' : Rendering × τ} (h : q.1.Bare q'.1) :
      Apart x (.ok bs, q) (.ok (if x.isEmbed then [] else bs), q')
  | error {f : RenderingFault ε} {q : Rendering × σ} {q' : Rendering × τ} (h : q.1.Bare q'.1) :
      Apart x (.error f, q) (.error f, q')

variable {r : Renderer σ ε} {r' : Renderer τ ε} {e : Evaluating σ ε} {m n : Rendering}

section
variable (he : r.evaluating = some e) (hq : e.Returns) (hr : r'.evaluating = none)
include he hq hr

theorem apart_define (h : m.Bare n) (d : Snippet) (s : σ) (t : τ) :
    Apart (.define d) (r.define d (m, s)) (r'.define d (n, t)) := by
  have hdefs : (n.take d).definitions = (m.take d).definitions := by
    rw [Rendering.take_definitions, Rendering.take_definitions, h.definitions]
  have hnone : r'.asked d = none := by
    rw [asked, hr, ite_self]
  rw [define_apply, define_apply, hdefs, hnone]
  cases Snippet.composed (m.take d).definitions d with
  | error path => exact .error ⟨hdefs, h.texts, h.results⟩
  | ok text =>
    have hsettled : (m.settle d text).Bare (n.settle d text) := by
      constructor
      · exact hdefs
      · rw [Rendering.settle_texts, Rendering.settle_texts, h.texts]
      · exact h.results
    cases ha : r.asked d with
    | none => exact .ok hsettled
    | some e' =>
      have hsome : e' = e := by
        unfold asked at ha
        split at ha
        · exact Option.some.inj (ha.symm.trans he)
        · cases ha
      subst hsome
      obtain ⟨o, u, hx⟩ := hq.evaluate text d.header.expression r.file (r.ready m d s)
      dsimp only
      rw [hx]
      exact .ok ⟨hsettled.definitions, hsettled.texts, hsettled.results⟩

theorem apart_embed (h : m.Bare n) (name : Text) (kind : EmbedKind) (s : σ) (t : τ) :
    Apart (.embed name kind) (r.embed name kind (m, s)) (r'.embed name kind (n, t)) := by
  rw [embed_apply, embed_apply, h.definitions, he, hr]
  cases m.definitions.get? name with
  | none => exact .error h
  | some d =>
    cases m.results.get? name with
    | none => exact .ok h
    | some o =>
      obtain ⟨bs, u, hx⟩ := hq.present o kind s
      dsimp only
      rw [hx]
      exact .ok h

theorem apart_section (h : m.Bare n) (x : Section) (s : σ) (t : τ) :
    Apart x (r.section_ x (m, s)) (r'.section_ x (n, t)) := by
  cases x with
  | text _ => exact .ok h
  | foreign _ => exact .error h
  | define d => exact apart_define he hq hr h d s t
  | embed name kind => exact apart_embed he hq hr h name kind s t
  | «show» name =>
    simp only [section_, listing_apply, h.definitions, h.texts]
    cases m.definitions.get? name with
    | none => exact .error h
    | some d => exact .ok h

end

/-! ### Whole documents -/

/-- The blocks of some sections, a list for each. -/
abbrev Leaves (r : Renderer σ ε) (xs : List Section) (p : Rendering × σ) (bss : List (List Block))
    (q : Rendering × σ) : Prop :=
  Action.each r.section_ xs p = (.ok bss, q)

theorem Leaves.sections {xs : List Section} {p q : Rendering × σ} {bss : List (List Block)}
    (h : r.Leaves xs p bss q) : r.sections xs p = (.ok bss.flatten, q) := by
  rw [Renderer.sections, Action.bind_ok h, Action.pure_apply]

theorem Leaves.cons {x : Section} {xs : List Section} {p q n : Rendering × σ} {bs : List Block}
    {bss : List (List Block)} (hx : r.section_ x p = (.ok bs, n)) (h : r.Leaves xs n bss q) :
    r.Leaves (x :: xs) p (bs :: bss) q := by
  rw [Leaves, Action.each, Action.bind_ok hx, Action.bind_ok h, Action.pure_apply]

/-- How the sections of a document end with an evaluator and without: both renderings come to the end, or
both come to the same section and fail there alike. -/
inductive Sides (r : Renderer σ ε) (r' : Renderer τ ε) (xs : List Section) (p : Rendering × σ)
    (p' : Rendering × τ) : Prop where
  | ended {bss : List (List Block)} {q : Rendering × σ} {q' : Rendering × τ} (hq : q.1.Bare q'.1)
      (h : r.Leaves xs p bss q) (h' : r'.Leaves xs p' (withoutEmbeds xs bss) q')
  | failed {pre post : List Section} {x : Section} {bss : List (List Block)} {n q : Rendering × σ}
      {n' q' : Rendering × τ} {f : RenderingFault ε} (hxs : xs = pre ++ x :: post)
      (hq : q.1.Bare q'.1) (h : r.Leaves pre p bss n) (h' : r'.Leaves pre p' (withoutEmbeds pre bss) n')
      (hx : r.section_ x n = (.error f, q)) (hx' : r'.section_ x n' = (.error f, q'))

theorem Sides.cons {x : Section} {xs : List Section} {p : Rendering × σ} {p' : Rendering × τ}
    {n : Rendering × σ} {n' : Rendering × τ} {bs : List Block} (hx : r.section_ x p = (.ok bs, n))
    (hx' : r'.section_ x p' = (.ok (if x.isEmbed then [] else bs), n'))
    (h : Sides r r' xs n n') : Sides r r' (x :: xs) p p' := by
  cases h with
  | ended hq h h' => exact .ended hq (h.cons hx) (h'.cons hx')
  | failed hxs hq h h' hf hf' =>
    subst hxs
    exact .failed (List.cons_append ..).symm hq (h.cons hx) (h'.cons hx') hf hf'

theorem Leaves.length {xs : List Section} {p q : Rendering × σ} {bss : List (List Block)}
    (h : r.Leaves xs p bss q) : bss.length = xs.length := by
  induction xs generalizing p bss with
  | nil =>
    simp only [Leaves, Action.each, Action.pure_apply, Prod.mk.injEq, Except.ok.injEq] at h
    obtain ⟨rfl, -⟩ := h
    rfl
  | cons x xs ih =>
    obtain ⟨bs, n, -, h⟩ := Action.bind_eq_ok h
    obtain ⟨css, n', hxs, h⟩ := Action.bind_eq_ok h
    simp only [Action.pure_apply, Prod.mk.injEq, Except.ok.injEq] at h
    obtain ⟨rfl, rfl⟩ := h
    rw [List.length_cons, List.length_cons, ih hxs]

theorem Leaves.sections_error {pre post : List Section} {x : Section} {p n q : Rendering × σ}
    {bss : List (List Block)} {f : RenderingFault ε} (h : r.Leaves pre p bss n)
    (hx : r.section_ x n = (.error f, q)) : r.sections (pre ++ x :: post) p = (.error f, q) := by
  rw [sections_append, Action.bind_ok h.sections, sections_cons, Action.bind_apply, Action.bind_error hx]

theorem sides (he : r.evaluating = some e) (hq : e.Returns) (hr : r'.evaluating = none)
    (xs : List Section) (p : Rendering × σ) (p' : Rendering × τ) (hp : p.1.Bare p'.1) :
    Sides r r' xs p p' := by
  induction xs generalizing p p' with
  | nil => exact .ended hp rfl rfl
  | cons x xs ih =>
    have hx := apart_section he hq hr hp x p.2 p'.2
    generalize hend : r.section_ x (p.1, p.2) = a at hx
    generalize hend' : r'.section_ x (p'.1, p'.2) = a' at hx
    cases hx with
    | ok h => exact (ih _ _ h).cons hend hend'
    | error h =>
      have hfront : x :: xs = [] ++ x :: xs := rfl
      exact .failed hfront h rfl rfl hend hend'

/-- An evaluator that always returns changes nothing but the blocks of embeds: with it and without, a
document has the same definitions and texts, and either both renderings come to the end, or both fail at
the same section and for the same reason. Without an evaluator no outcome is kept. -/
theorem sections_with_and_without (he : r.evaluating = some e) (hq : e.Returns)
    (hr : r'.evaluating = none) (ss : List Section) (s : σ) (t : τ) :
    (∃ bss q q', bss.length = ss.length ∧ q.1.Bare q'.1 ∧
      r.Leaves ss ({}, s) bss q ∧ r'.Leaves ss ({}, t) (withoutEmbeds ss bss) q' ∧
      r.sections ss ({}, s) = (.ok bss.flatten, q) ∧
      r'.sections ss ({}, t) = (.ok (withoutEmbeds ss bss).flatten, q')) ∨
    ∃ pre x post bss n n' f q q', ss = pre ++ x :: post ∧ bss.length = pre.length ∧ q.1.Bare q'.1 ∧
      r.Leaves pre ({}, s) bss n ∧ r'.Leaves pre ({}, t) (withoutEmbeds pre bss) n' ∧
      r.section_ x n = (.error f, q) ∧ r'.section_ x n' = (.error f, q') ∧
      r.sections ss ({}, s) = (.error f, q) ∧ r'.sections ss ({}, t) = (.error f, q') := by
  have hempty : (({}, s) : Rendering × σ).1.Bare (({}, t) : Rendering × τ).1 := ⟨rfl, rfl, rfl⟩
  rcases sides he hq hr ss ({}, s) ({}, t) hempty with
    ⟨hbare, h, h'⟩ | ⟨rfl, hbare, h, h', hx, hx'⟩
  · exact .inl ⟨_, _, _, h.length, hbare, h, h', h.sections, h'.sections⟩
  · refine .inr ⟨_, _, _, _, _, _, _, _, _, rfl, h.length, hbare, h, h', hx, hx', ?_, ?_⟩
    · exact h.sections_error hx
    · exact h'.sections_error hx'

def embeddingDocument : List Section :=
  [.define ⟨['a'], {}, [.text ['1']]⟩, .define ⟨['b'], { evaluate := false }, [.embed ['a']]⟩,
    .embed ['a'] .output, .show ['b'], .embed ['b'] .value, .embed ['a'] .itValue]

theorem sections_with_and_without_embeddingDocument :
    echo.evaluating = some echoing ∧ echoing.Returns ∧ plain.evaluating = none ∧
      ∃ bss q q', q.1.Bare q'.1 ∧ echo.sections embeddingDocument ({}, ()) = (.ok bss.flatten, q) ∧
        plain.sections embeddingDocument ({}, ()) = (.ok (withoutEmbeds embeddingDocument bss).flatten, q') ∧
        bss.flatten.length = 3 ∧ (withoutEmbeds embeddingDocument bss).flatten.length = 1 := by
  have hecho : ∃ bs q, echo.sections embeddingDocument ({}, ()) = (.ok bs, q) ∧ bs.length = 3 :=
    ⟨_, _, rfl, rfl⟩
  have hplain : ∃ bs q, plain.sections embeddingDocument ({}, ()) = (.ok bs, q) ∧ bs.length = 1 :=
    ⟨_, _, rfl, rfl⟩
  obtain ⟨bs, p, hecho, hthree⟩ := hecho
  obtain ⟨bs', p', hplain, hone⟩ := hplain
  have he : echo.evaluating = some echoing := rfl
  have hr : plain.evaluating = none := rfl
  refine ⟨he, echoing_returns, hr, ?_⟩
  rcases sections_with_and_without he echoing_returns hr embeddingDocument () () with
    ⟨bss, q, q', -, hbare, -, -, h, h'⟩ | ⟨_, _, _, _, _, _, _, _, _, -, -, -, -, -, -, -, h, -⟩
  · rw [hecho, Prod.mk.injEq, Except.ok.injEq] at h
    rw [hplain, Prod.mk.injEq, Except.ok.injEq] at h'
    obtain ⟨rfl, rfl⟩ := h
    obtain ⟨rfl, rfl⟩ := h'
    exact ⟨bss, _, _, hbare, hecho, hplain, hthree, hone⟩
  · rw [hecho] at h
    cases h

end Renderer

end Weave
