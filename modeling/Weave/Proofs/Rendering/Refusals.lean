import Weave.Proofs.Rendering.Requests
import Weave.Proofs.Snippet.Cycles

/-!
# Which sections are refused

Every definition is expanded where it stands, which keeps the definitions of a document free of cycles.
Without an evaluator there are therefore two reasons to refuse a section, and both can be read off the
sections in front of it: it refers to a name without a definition, or it is a definition that closes a
cycle through its own name.
-/

set_option autoImplicit false

namespace Weave

open Relation Snippet

/-- A section that cannot be rendered behind these sections. -/
def Refused (pre : List Section) : Section → Prop
  | .show name => Undefined name pre
  | .embed name _ => Undefined name pre
  | .define d => TransGen (Embeds (definitionsAfter {} (pre ++ [.define d]))) d.name d.name
  | _ => False

/-- What is said of a section that is refused: the name without a definition, or a path of embeds from a
definition to itself. -/
inductive Reports {ε : Type} (pre : List Section) : Section → RenderingFault ε → Prop where
  | show (name : Text) : Reports pre (.show name) (.undefinedName name)
  | embed (name : Text) (kind : EmbedKind) : Reports pre (.embed name kind) (.undefinedName name)
  | define (d : Snippet) (mid : List Text)
      (h : (d.name :: (mid ++ [d.name])).IsChain
        (Embeds (definitionsAfter {} (pre ++ [.define d])))) :
      Reports pre (.define d) (.selfEmbedding (d.name :: (mid ++ [d.name])))

theorem definitionsAfter_get?_eq_none_iff {name : Text} {defs : Definitions} {xs : List Section} :
    (definitionsAfter defs xs).get? name = none ↔ defs.get? name = none ∧ Undefined name xs := by
  induction xs generalizing defs with
  | nil => simp [definitionsAfter, Undefined]
  | cons x xs ih =>
    rw [undefined_cons]
    cases x with
    | define d => by_cases hd : d.name = name <;> simp [definitionsAfter, ih, hd]
    | _ => simp [definitionsAfter, ih]

theorem Snippet.composed_eq_error_iff {defs : Definitions} {d : Snippet} {path : List Text} :
    composed defs d = .error path ↔ (expand defs d).outcome = .error path := by
  unfold composed
  cases (expand defs d).outcome <;> simp [Except.map]

namespace Renderer

variable {σ ε : Type} {r : Renderer σ ε}

/-! ### Definitions without cycles -/

theorem section_orderly {x : Section} {m n : Rendering} {s u : σ} {bs : List Block}
    (h : r.section_ x (m, s) = (.ok bs, n, u)) (hm : Orderly m.definitions) :
    Orderly n.definitions := by
  by_cases hx : ∃ d, x = .define d
  · obtain ⟨d, rfl⟩ := hx
    obtain ⟨-, t, hc, ht⟩ := define_eq_ok h
    rw [ht.definitions]
    refine hm.set fun path hp => ?_
    rw [composed_eq_error_iff.mpr hp] at hc
    exact nomatch hc
  · obtain rfl := section_eq_ok_of_not_define (fun d e => hx ⟨d, e⟩) h
    exact hm

theorem sections_orderly {xs : List Section} {m n : Rendering} {s u : σ} {bs : List Block}
    (h : r.sections xs (m, s) = (.ok bs, n, u)) (hm : Orderly m.definitions) :
    Orderly n.definitions := by
  induction xs generalizing m s bs with
  | nil =>
    simp only [sections_nil, Prod.mk.injEq] at h
    obtain ⟨-, rfl, -⟩ := h
    exact hm
  | cons x xs ih =>
    obtain ⟨cs, ds, ⟨k, v⟩, h₁, h₂, -⟩ := sections_cons_eq_ok h
    exact ih h₂ (section_orderly h₁ hm)

/-! ### Without an evaluator -/

variable {pre : List Section} {x : Section} {p : Rendering × σ} {bs : List Block}

/-- Behind sections that pass, composing a definition fails exactly where it closes a cycle. -/
theorem composed_error_iff {d : Snippet} {m : Rendering} (hm : Orderly m.definitions)
    (hpre : m.definitions = definitionsAfter {} pre) :
    (∃ path, composed (m.definitions.set d.name d) d = .error path) ↔ Refused pre (.define d) := by
  have hset : definitionsAfter {} (pre ++ [.define d]) = m.definitions.set d.name d := by
    rw [definitionsAfter_append, ← hpre]
    rfl
  simp only [Refused, hset, ← hm.exists_outcome_eq_error_iff, composed_eq_error_iff]

theorem section_of_refused (hm : Orderly p.1.definitions)
    (hpre : p.1.definitions = definitionsAfter {} pre) (hx : Refused pre x) :
    ∃ f q, Reports pre x f ∧ r.section_ x p = (.error f, q) := by
  obtain ⟨m, s⟩ := p
  have hundefined : ∀ name, Undefined name pre → m.definitions.get? name = none := fun name hn =>
    hpre ▸ definitionsAfter_get?_eq_none_iff.mpr ⟨rfl, hn⟩
  cases x with
  | text t => exact hx.elim
  | foreign c => exact hx.elim
  | «show» name =>
    have hsec := listing_apply (ε := ε) name m s
    rw [hundefined name hx] at hsec
    exact ⟨_, _, .show name, hsec⟩
  | embed name kind =>
    have hsec := r.embed_apply name kind m s
    rw [hundefined name hx] at hsec
    exact ⟨_, _, .embed name kind, hsec⟩
  | define d =>
    obtain ⟨path, hp⟩ := (composed_error_iff hm hpre).mpr hx
    obtain ⟨mid, rfl, hchain⟩ := hm.path_of_set (composed_eq_error_iff.mp hp)
    have hsec := r.define_apply d m s
    rw [Rendering.take_definitions, hp] at hsec
    refine ⟨_, _, .define d mid ?_, hsec⟩
    rw [definitionsAfter_append, ← hpre]
    exact hchain

theorem section_of_not_refused (hr : r.evaluating = none) (hm : Orderly p.1.definitions)
    (hpre : p.1.definitions = definitionsAfter {} pre) (hf : ∀ c, x ≠ .foreign c)
    (hx : ¬ Refused pre x) : ∃ bs q, r.section_ x p = (.ok bs, q) := by
  obtain ⟨m, s⟩ := p
  have hdefined : ∀ name, ¬ Undefined name pre → ∃ d, m.definitions.get? name = some d := by
    intro name hn
    refine Option.ne_none_iff_exists'.mp fun hnone => hn ?_
    rw [hpre] at hnone
    exact (definitionsAfter_get?_eq_none_iff.mp hnone).2
  cases x with
  | text t => exact ⟨_, _, rfl⟩
  | foreign c => exact absurd rfl (hf c)
  | «show» name =>
    obtain ⟨d, hd⟩ := hdefined name hx
    have hsec := listing_apply (ε := ε) name m s
    rw [hd] at hsec
    exact ⟨_, _, hsec⟩
  | embed name kind =>
    obtain ⟨d, hd⟩ := hdefined name hx
    have hsec := r.embed_apply name kind m s
    rw [hd, hr] at hsec
    exact ⟨_, _, hsec⟩
  | define d =>
    cases hc : composed (m.definitions.set d.name d) d with
    | error path => exact absurd ((composed_error_iff hm hpre).mp ⟨path, hc⟩) hx
    | ok t =>
      have ha : r.asked d = none := by simp [asked, hr]
      have hsec := r.define_apply d m s
      rw [Rendering.take_definitions, hc, ha] at hsec
      exact ⟨_, _, hsec⟩

/-- What is known where rendering has come to from the beginning. -/
theorem sections_reached {s : σ} {q : Rendering × σ} (h : r.sections pre ({}, s) = (.ok bs, q)) :
    Orderly q.1.definitions ∧ q.1.definitions = definitionsAfter {} pre :=
  ⟨sections_orderly h orderly_empty, sections_definitions h⟩

theorem passes_iff (hr : r.evaluating = none) {ss : List Section} (s : σ)
    (hf : ∀ c, .foreign c ∉ ss) :
    r.Passes ss s ↔ ∀ pre x post, ss = pre ++ x :: post → ¬ Refused pre x := by
  constructor
  · rintro ⟨bs, q, h⟩ pre x post rfl hx
    obtain ⟨cs, ds, n, hpre, hrest, -⟩ := sections_append_eq_ok h
    obtain ⟨hm, hdefs⟩ := sections_reached hpre
    obtain ⟨cs', ds', n', hsec, -, -⟩ := sections_cons_eq_ok hrest
    obtain ⟨f, q', -, herror⟩ := section_of_refused (r := r) hm hdefs hx
    simp [hsec] at herror
  · intro hall
    rcases r.exists_passed ss ({}, s) with ⟨bs, q, h⟩ | ⟨pre, x, post, bs, q, f, q', rfl, hpre, hx⟩
    · exact ⟨bs, q, h⟩
    · obtain ⟨hm, hdefs⟩ := sections_reached hpre
      have hforeign : ∀ c, x ≠ .foreign c := fun c hc => hf c (by simp [hc])
      obtain ⟨cs, n, hok⟩ := section_of_not_refused hr hm hdefs hforeign (hall pre x post rfl)
      simp [hok] at hx

/-! ### With an evaluator -/

/-- What is wrong with a section behind others, and what is said of it, whatever evaluating snippets
comes to. -/
inductive Flaw (pre : List Section) : Section → RenderingFault ε → Prop
  | refused {x : Section} {f : RenderingFault ε} (h : Refused pre x) (hf : Reports pre x f) : Flaw pre x f
  | foreign (command : Text) : Flaw pre (.foreign command) (.foreignCommand command)

/-- Unless an evaluator has raised, a section that fails is one that is refused. -/
theorem refused_of_error {f : RenderingFault ε} {q : Rendering × σ} (hm : Orderly p.1.definitions)
    (hpre : p.1.definitions = definitionsAfter {} pre) (h : r.section_ x p = (.error f, q))
    (hf : ∀ e, f ≠ .raised e) (hx : ∀ c, x ≠ .foreign c) : Refused pre x := by
  obtain ⟨m, s⟩ := p
  have hundefined : ∀ name, m.definitions.get? name = none → Undefined name pre := by
    intro name hn
    rw [hpre] at hn
    exact (definitionsAfter_get?_eq_none_iff.mp hn).2
  cases x with
  | text t => simp [section_, Action.pure_apply] at h
  | foreign c => exact absurd rfl (hx c)
  | «show» name =>
    rw [section_, listing_apply] at h
    cases hd : m.definitions.get? name with
    | none => exact hundefined name hd
    | some d => simp [hd] at h
  | embed name kind =>
    rw [section_, embed_apply] at h
    cases hd : m.definitions.get? name with
    | none => exact hundefined name hd
    | some d =>
      simp only [hd] at h
      split at h
      · simp at h
      · split at h
        · simp at h
        · split at h
          · simp at h
          · exact absurd (Except.error.inj (Prod.mk.inj h).1).symm (hf _)
  | define d =>
    rw [section_, define_apply, Rendering.take_definitions] at h
    cases hc : composed (m.definitions.set d.name d) d with
    | error path => exact (composed_error_iff hm hpre).mp ⟨path, hc⟩
    | ok t =>
      simp only [hc] at h
      split at h
      · simp at h
      · split at h
        · simp at h
        · exact absurd (Except.error.inj (Prod.mk.inj h).1).symm (hf _)

theorem flaw_of_error {f : RenderingFault ε} {q : Rendering × σ} (hm : Orderly p.1.definitions)
    (hpre : p.1.definitions = definitionsAfter {} pre) (h : r.section_ x p = (.error f, q))
    (hf : ∀ e, f ≠ .raised e) : Flaw pre x f := by
  by_cases hx : ∃ c, x = .foreign c
  · obtain ⟨c, rfl⟩ := hx
    obtain rfl := Except.error.inj (Prod.mk.inj h).1
    exact .foreign c
  · have hrefused := refused_of_error hm hpre h hf fun c hc => hx ⟨c, hc⟩
    obtain ⟨f', q', hreports, herror⟩ := section_of_refused (r := r) hm hpre hrefused
    rw [h] at herror
    obtain rfl := Except.error.inj (Prod.mk.inj herror).1
    exact .refused hrefused hreports

/-- Where rendering fails and no evaluator has raised, there is a section with something wrong. -/
theorem flaw_of_sections_error {ss : List Section} {s : σ} {f : RenderingFault ε} {q : Rendering × σ}
    (h : r.sections ss ({}, s) = (.error f, q)) (hf : ∀ e, f ≠ .raised e) :
    ∃ pre x post, ss = pre ++ x :: post ∧ Flaw pre x f := by
  rcases r.exists_passed ss ({}, s) with ⟨bs, q', hpass⟩ | ⟨pre, x, post, bs, q', e, q'', rfl, hpre, hx⟩
  · simp [h] at hpass
  · obtain ⟨hm, hdefs⟩ := sections_reached hpre
    rw [sections_append, Action.bind_ok hpre, sections_cons, Action.bind_apply,
      Action.bind_error hx] at h
    obtain rfl := Except.error.inj (Prod.mk.inj h).1
    exact ⟨pre, x, post, rfl, flaw_of_error hm hdefs hx hf⟩

/-- The definitions of a document never embed themselves, whatever it is rendered with. Without an
evaluator a document is refused exactly where a section refers to a name that is not defined in front
of it or a definition closes a cycle through its own name, at the first such section, and with nothing
but the name or a path from the definition to itself. -/
theorem sections_acyclic_and_refused (r : Renderer σ ε) :
    (∀ ss s bs q, r.sections ss ({}, s) = (.ok bs, q) → Acyclic q.1.definitions) ∧
    (r.evaluating = none → ∀ ss s, (∀ c, .foreign c ∉ ss) →
      ((∃ f q, r.sections ss ({}, s) = (.error f, q)) ↔
        ∃ pre x post, ss = pre ++ x :: post ∧ Refused pre x) ∧
      ∀ pre x post, ss = pre ++ x :: post → Refused pre x →
        (∀ pre' y post', pre = pre' ++ y :: post' → ¬ Refused pre' y) →
        r.Passes pre s ∧ ∃ f q, Reports pre x f ∧
          ∀ rest, r.sections (pre ++ x :: rest) ({}, s) = (.error f, q)) := by
  refine ⟨fun ss s bs q h => (sections_reached h).1.acyclic, fun hr ss s hf => ⟨?_, ?_⟩⟩
  · have hpass := passes_iff hr s hf
    have hsplit : (∃ f q, r.sections ss ({}, s) = (.error f, q)) ↔ ¬ r.Passes ss s := by
      unfold Passes
      rcases r.sections ss ({}, s) with ⟨f | bs, q⟩ <;> simp
    rw [hsplit, hpass]
    push Not
    rfl
  · rintro pre x post rfl hx hfirst
    have hpre : r.Passes pre s :=
      (passes_iff hr s fun c hc => hf c (List.mem_append_left _ hc)).mpr hfirst
    refine ⟨hpre, ?_⟩
    obtain ⟨bs, q, hpre⟩ := hpre
    obtain ⟨hm, hdefs⟩ := sections_reached hpre
    obtain ⟨f, q', hreports, herror⟩ := section_of_refused (r := r) hm hdefs hx
    refine ⟨f, q', hreports, fun rest => ?_⟩
    rw [sections_append, Action.bind_ok hpre, sections_cons, Action.bind_apply, Action.bind_error herror]

def plain : Renderer Unit Empty where
  say _ s := s
  evaluating := none
  file := none

def openRing : List Section :=
  [.define ⟨['a'], {}, [.embed ['b']]⟩, .define ⟨['b'], {}, [.embed ['c'], .text ['1']]⟩,
    .show ['a']]

def closingDefinition : Snippet := ⟨['c'], {}, [.embed ['a']]⟩

theorem refused_closingDefinition : Refused openRing (.define closingDefinition) := by
  have hca : Embeds (definitionsAfter {} (openRing ++ [.define closingDefinition])) ['c'] ['a'] :=
    ⟨_, _, rfl, by decide, rfl⟩
  have hab : Embeds (definitionsAfter {} (openRing ++ [.define closingDefinition])) ['a'] ['b'] :=
    ⟨_, _, rfl, by decide, rfl⟩
  have hbc : Embeds (definitionsAfter {} (openRing ++ [.define closingDefinition])) ['b'] ['c'] :=
    ⟨_, _, rfl, by decide, rfl⟩
  exact .head hca (.head hab (.single hbc))

theorem sections_closingDefinition :
    plain.evaluating = none ∧ plain.Passes openRing () ∧
      Refused openRing (.define closingDefinition) ∧
      ∃ f q, Reports openRing (.define closingDefinition) f ∧
        plain.sections (openRing ++ [.define closingDefinition]) ({}, ()) = (.error f, q) := by
  have hpass : plain.Passes openRing () := ⟨_, _, rfl⟩
  have hforeign : ∀ c, .foreign c ∉ openRing := by simp [openRing]
  have hforeign' : ∀ c, .foreign c ∉ openRing ++ [.define closingDefinition] := by
    simp [openRing]
  obtain ⟨-, h⟩ := sections_acyclic_and_refused plain
  obtain ⟨-, hat⟩ := h rfl (openRing ++ [.define closingDefinition]) () hforeign'
  obtain ⟨-, f, q, hreports, herror⟩ := hat openRing _ [] rfl refused_closingDefinition
    ((passes_iff rfl () hforeign).mp hpass)
  exact ⟨rfl, hpass, refused_closingDefinition, f, q, hreports, herror []⟩

end Renderer

end Weave
