import Weave.Proofs.Rendering.Record

/-!
# What a document has defined

The definitions, texts and outcomes that a rendering keeps under a name change only where the name
is defined. A definition in force is the latest of its name; the outcome under a name is that of
its latest definition that was evaluated.
-/

set_option autoImplicit false

namespace Weave

def definitionsAfter (defs : Definitions) : List Section → Definitions
  | [] => defs
  | .define d :: xs => definitionsAfter (defs.set d.name d) xs
  | _ :: xs => definitionsAfter defs xs

theorem definitionsAfter_append (defs : Definitions) (xs ys : List Section) :
    definitionsAfter defs (xs ++ ys) = definitionsAfter (definitionsAfter defs xs) ys := by
  induction xs generalizing defs with
  | nil => rfl
  | cons x xs ih => cases x <;> exact ih _

def Undefined (name : Text) (xs : List Section) : Prop :=
  ∀ d, .define d ∈ xs → d.name ≠ name

/-- The last definition of a name among sections, what stands in front of it and what behind. -/
structure InForce (name : Text) (xs pre : List Section) (d : Snippet) (post : List Section) :
    Prop where
  split : xs = pre ++ .define d :: post
  own : d.name = name
  last : Undefined name post

theorem undefined_cons {name : Text} {x : Section} {xs : List Section} :
    Undefined name (x :: xs) ↔ (∀ d, x = .define d → d.name ≠ name) ∧ Undefined name xs := by
  constructor
  · intro h
    exact ⟨fun d hx => h d (hx ▸ List.mem_cons_self), fun d hd => h d (List.mem_cons_of_mem x hd)⟩
  · rintro ⟨hx, hxs⟩ d hd
    rcases List.mem_cons.mp hd with hd | hd
    · exact hx d hd.symm
    · exact hxs d hd

/-- A name is either undefined or has a definition in force. -/
theorem undefined_or_inForce (name : Text) (xs : List Section) :
    Undefined name xs ∨ ∃ pre d post, InForce name xs pre d post := by
  induction xs with
  | nil => exact Or.inl fun d hd => by simp at hd
  | cons x xs ih =>
    rcases ih with ih | ⟨pre, d, post, hf⟩
    · by_cases hx : ∃ d, x = .define d ∧ d.name = name
      · obtain ⟨d, rfl, hd⟩ := hx
        exact Or.inr ⟨[], d, xs, rfl, hd, ih⟩
      · refine Or.inl (undefined_cons.mpr ⟨fun d hd hn => hx ⟨d, hd, hn⟩, ih⟩)
    · exact Or.inr ⟨x :: pre, d, post, by rw [hf.split]; rfl, hf.own, hf.last⟩

namespace Renderer

variable {σ ε : Type} (r : Renderer σ ε)

/-- What a definition with the text `t` leaves, and the evaluations it makes. -/
inductive Takes (m : Rendering) (s : σ) (d : Snippet) (t : Text) :
    Rendering → σ → List (Evaluation ε) → Prop where
  | plain (h : r.asked d = none) : Takes m s d t (m.settle d t) (r.tracked m d s) []
  | evaluated {e : Evaluating σ ε} {o : Outcome} {u : σ} (h : r.asked d = some e)
      (hx : e.evaluate t d.header.expression r.file (r.ready m d s) = (.ok o, u)) :
      Takes m s d t ((m.settle d t).keep d.name o) u
        [⟨⟨t, d.header.expression, r.file⟩, .ok o⟩]

variable {r}

theorem define_eq_ok {d : Snippet} {m n : Rendering} {s u : σ} {bs : List Block}
    (h : r.section_ (.define d) (m, s) = (.ok bs, n, u)) :
    bs = [] ∧ ∃ t, Snippet.composed (m.definitions.set d.name d) d = .ok t ∧
      r.Takes m s d t n u (r.made (.define d) (m, s)) := by
  simp only [section_, define_apply] at h
  simp only [made, Rendering.take_definitions] at h ⊢
  cases hc : Snippet.composed (m.definitions.set d.name d) d with
  | error path => simp [hc] at h
  | ok t =>
    simp only [hc] at h ⊢
    cases ha : r.asked d with
    | none =>
      simp only [ha, Prod.mk.injEq, Except.ok.injEq] at h
      obtain ⟨rfl, rfl, rfl⟩ := h
      exact ⟨rfl, t, rfl, .plain ha⟩
    | some e =>
      simp only [ha] at h
      cases hx : e.evaluate t d.header.expression r.file (r.ready m d s) with
      | mk a v =>
        cases a with
        | error x => simp [hx] at h
        | ok o =>
          simp only [hx, Prod.mk.injEq, Except.ok.injEq] at h
          obtain ⟨rfl, rfl, rfl⟩ := h
          refine ⟨rfl, t, rfl, ?_⟩
          simp only [hx]
          exact .evaluated ha hx

/-- Sections other than definitions leave a rendering as it is. -/
theorem section_rendering {x : Section} (hx : ∀ d, x ≠ .define d) (m : Rendering) (s : σ) :
    (r.section_ x (m, s)).2.1 = m ∧ r.made x (m, s) = [] := by
  cases x with
  | define d => exact absurd rfl (hx d)
  | text t => exact ⟨rfl, rfl⟩
  | foreign c => exact ⟨rfl, rfl⟩
  | «show» name =>
    simp only [section_, listing_apply]
    cases m.definitions.get? name <;> exact ⟨rfl, rfl⟩
  | embed name kind =>
    refine ⟨?_, rfl⟩
    simp only [section_, embed_apply]
    cases m.definitions.get? name with
    | none => rfl
    | some d =>
      cases r.evaluating with
      | none => rfl
      | some e =>
        cases m.results.get? name with
        | none => rfl
        | some o =>
          dsimp only
          rcases e.present o kind s with ⟨x | bs, u⟩ <;> rfl

theorem section_eq_ok_of_not_define {x : Section} (hx : ∀ d, x ≠ .define d) {m n : Rendering}
    {s u : σ} {bs : List Block} (h : r.section_ x (m, s) = (.ok bs, n, u)) : n = m := by
  have hm := (section_rendering (r := r) hx m s).1
  rw [h] at hm
  exact hm

namespace Takes

variable {m n : Rendering} {s u : σ} {d : Snippet} {t : Text} {log : List (Evaluation ε)}

theorem definitions (h : r.Takes m s d t n u log) :
    n.definitions = m.definitions.set d.name d := by
  cases h <;> rfl

theorem texts (h : r.Takes m s d t n u log) : n.texts = m.texts.set d.name t := by
  cases h <;> rfl

theorem results_of_ne (h : r.Takes m s d t n u log) {name : Text} (hn : d.name ≠ name) :
    n.results.get? name = m.results.get? name := by
  cases h with
  | plain => rfl
  | evaluated => simp [hn]

theorem results_of_asked_none (h : r.Takes m s d t n u log) (ha : r.asked d = none) :
    n.results = m.results := by
  cases h with
  | plain => rfl
  | evaluated ha' => simp [ha'] at ha

theorem log_of_asked_none (h : r.Takes m s d t n u log) (ha : r.asked d = none) : log = [] := by
  cases h with
  | plain => rfl
  | evaluated ha' => simp [ha'] at ha

theorem results_of_asked (h : r.Takes m s d t n u log) {e : Evaluating σ ε}
    (ha : r.asked d = some e) : ∃ o, n.results.get? d.name = some o ∧
      log = [⟨⟨t, d.header.expression, r.file⟩, .ok o⟩] := by
  cases h with
  | plain ha' => simp [ha'] at ha
  | evaluated _ _ => exact ⟨_, by simp, rfl⟩

end Takes

/-- Two renderings keep the same under a name. -/
structure SameUnder (name : Text) (m n : Rendering) : Prop where
  definitions : n.definitions.get? name = m.definitions.get? name
  texts : n.texts.get? name = m.texts.get? name
  results : n.results.get? name = m.results.get? name

theorem section_sameUnder {name : Text} {x : Section} (hx : ∀ d, x = .define d → d.name ≠ name)
    {m n : Rendering} {s u : σ} {bs : List Block} (h : r.section_ x (m, s) = (.ok bs, n, u)) :
    SameUnder name m n := by
  by_cases hd : ∃ d, x = .define d
  · obtain ⟨d, rfl⟩ := hd
    obtain ⟨-, t, -, ht⟩ := define_eq_ok h
    have hn := hx d rfl
    exact ⟨by simp [ht.definitions, hn], by simp [ht.texts, hn], ht.results_of_ne hn⟩
  · obtain rfl := section_eq_ok_of_not_define (fun d e => hd ⟨d, e⟩) h
    exact ⟨rfl, rfl, rfl⟩

/-- Where a name is not defined, nothing that is kept under it changes. -/
theorem sections_sameUnder {name : Text} {xs : List Section} (hx : Undefined name xs)
    {m n : Rendering} {s u : σ} {bs : List Block} (h : r.sections xs (m, s) = (.ok bs, n, u)) :
    SameUnder name m n := by
  induction xs generalizing m s bs with
  | nil =>
    simp only [sections_nil, Prod.mk.injEq] at h
    obtain ⟨-, rfl, -⟩ := h
    exact ⟨rfl, rfl, rfl⟩
  | cons x xs ih =>
    obtain ⟨hx, hxs⟩ := undefined_cons.mp hx
    obtain ⟨cs, ds, ⟨k, v⟩, h₁, h₂, -⟩ := sections_cons_eq_ok h
    have hs := section_sameUnder hx h₁
    have ht := ih hxs h₂
    exact ⟨ht.definitions.trans hs.definitions, ht.texts.trans hs.texts,
      ht.results.trans hs.results⟩

theorem sections_definitions {xs : List Section} {m n : Rendering} {s u : σ} {bs : List Block}
    (h : r.sections xs (m, s) = (.ok bs, n, u)) :
    n.definitions = definitionsAfter m.definitions xs := by
  induction xs generalizing m s bs with
  | nil =>
    simp only [sections_nil, Prod.mk.injEq] at h
    obtain ⟨-, rfl, -⟩ := h
    rfl
  | cons x xs ih =>
    obtain ⟨cs, ds, ⟨k, v⟩, h₁, h₂, -⟩ := sections_cons_eq_ok h
    rw [ih h₂]
    by_cases hd : ∃ d, x = .define d
    · obtain ⟨d, rfl⟩ := hd
      obtain ⟨-, t, -, ht⟩ := define_eq_ok h₁
      rw [ht.definitions]
      rfl
    · obtain rfl := section_eq_ok_of_not_define (fun d e => hd ⟨d, e⟩) h₁
      cases x with
      | define d => exact absurd ⟨d, rfl⟩ hd
      | _ => rfl

/-- An outcome is kept under a name from its first evaluated definition on. -/
theorem sections_results_eq_none_iff (name : Text) {xs : List Section} {m n : Rendering} {s u : σ}
    {bs : List Block} (h : r.sections xs (m, s) = (.ok bs, n, u)) :
    n.results.get? name = none ↔
      m.results.get? name = none ∧ ∀ d, .define d ∈ xs → d.name = name → r.asked d = none := by
  induction xs generalizing m s bs with
  | nil =>
    simp only [sections_nil, Prod.mk.injEq] at h
    obtain ⟨-, rfl, -⟩ := h
    simp
  | cons x xs ih =>
    obtain ⟨cs, ds, ⟨k, v⟩, h₁, h₂, -⟩ := sections_cons_eq_ok h
    rw [ih h₂]
    by_cases hx : ∃ d, x = .define d ∧ d.name = name
    · obtain ⟨d, rfl, rfl⟩ := hx
      obtain ⟨-, t, -, ht⟩ := define_eq_ok h₁
      cases ha : r.asked d with
      | none =>
        rw [ht.results_of_asked_none ha]
        simp [ha]
      | some e =>
        obtain ⟨o, ho, -⟩ := ht.results_of_asked ha
        simp [ho, ha]
    · have hn : ∀ d, x = .define d → d.name ≠ name := fun d e hd => hx ⟨d, e, hd⟩
      rw [(section_sameUnder hn h₁).results]
      have hd : ∀ d, .define d ∈ x :: xs → d.name = name → .define d ∈ xs := by
        intro d hd hd'
        rcases List.mem_cons.mp hd with hd | hd
        · exact absurd hd' (hn d hd.symm)
        · exact hd
      exact and_congr_right fun _ =>
        ⟨fun hall d hm hd' => hall d (hd d hm hd') hd',
          fun hall d hm hd' => hall d (List.mem_cons_of_mem x hm) hd'⟩

/-- A document seen from the definition of a name that is in force at its end. -/
theorem sections_inForce {name : Text} {xs pre post : List Section} {d : Snippet} {m : Rendering}
    {s u : σ} {bs : List Block} (h : r.sections xs ({}, s) = (.ok bs, m, u))
    (hf : InForce name xs pre d post) :
    ∃ cs m₀ s₀ m₁ s₁ t, r.sections pre ({}, s) = (.ok cs, m₀, s₀) ∧
      Snippet.composed (m₀.definitions.set d.name d) d = .ok t ∧
      r.Takes m₀ s₀ d t m₁ s₁ (r.made (.define d) (m₀, s₀)) ∧ SameUnder name m₁ m ∧
      r.evaluations (pre ++ [.define d]) s
        = r.evaluations pre s ++ r.made (.define d) (m₀, s₀) := by
  have hs : xs = pre ++ ([.define d] ++ post) := hf.split
  rw [hs] at h
  obtain ⟨cs, ds, ⟨m₀, s₀⟩, h₁, h₂, -⟩ := sections_append_eq_ok h
  obtain ⟨cs', ds', ⟨m₁, s₁⟩, h₃, h₄, -⟩ := sections_cons_eq_ok h₂
  obtain ⟨-, t, hc, ht⟩ := define_eq_ok h₃
  refine ⟨cs, m₀, s₀, m₁, s₁, t, h₁, hc, ht, sections_sameUnder hf.last h₄, ?_⟩
  rw [evaluations_eq, evaluations_eq, madeBy_append r h₁]
  simp [madeBy, h₃]

/-- A show prints the text that the definition in force was composed to. -/
theorem show_inForce {name : Text} {m m₀ m₁ : Rendering} {s₀ s₁ : σ} {d : Snippet} {t : Text}
    {log : List (Evaluation ε)} (ht : r.Takes m₀ s₀ d t m₁ s₁ log) (hs : SameUnder name m₁ m)
    (hd : d.name = name) (v : σ) :
    r.section_ (.show name) (m, v) = (.ok [.code t d.header.lang.name], m, v) := by
  have hdef : m.definitions.get? name = some d := by
    rw [hs.definitions, ht.definitions]
    simp [hd]
  have htext : m.texts.get? name = some t := by
    rw [hs.texts, ht.texts]
    simp [hd]
  simp [section_, listing_apply, hdef, htext]

end Renderer

end Weave
