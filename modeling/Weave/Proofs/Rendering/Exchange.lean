import Weave.Proofs.Rendering.InStep
import Weave.Proofs.Rendering.Refusals
import Weave.Proofs.Snippet.Reach

/-!
# Neighbouring definitions

Each definition is composed among those in front of it, so the order of two neighbours decides which of
them is composed without the other. Where neither reaches the other's name, this makes no difference, and
what follows them finds the same definitions and texts under every name.
-/

set_option autoImplicit false

namespace Weave

open Snippet

variable {σ ε : Type}

/-- The faults are the same, or both say of a snippet that it embeds itself. -/
inductive RenderingFault.SameKind : RenderingFault ε → RenderingFault ε → Prop
  | refl (f : RenderingFault ε) : SameKind f f
  | selfEmbedding (path path' : List Text) : SameKind (.selfEmbedding path) (.selfEmbedding path')

namespace Rendering

/-- Every name has the same definition and the same text, in whatever order they were set. -/
structure Same (m n : Rendering) : Prop where
  definitions : ∀ name, n.definitions.get? name = m.definitions.get? name
  texts : ∀ name, n.texts.get? name = m.texts.get? name

variable {m n : Rendering}

theorem Same.take (h : m.Same n) (d : Snippet) : (m.take d).Same (n.take d) where
  definitions name := by simp [h.definitions]
  texts := h.texts

theorem Same.settle (h : m.Same n) (d : Snippet) (t : Text) : (m.settle d t).Same (n.settle d t) where
  definitions := (h.take d).definitions
  texts name := by simp [h.texts]

theorem same_settle_settle {a b : Snippet} (hab : a.name ≠ b.name) (m : Rendering) (t u : Text) :
    ((m.settle a t).settle b u).Same ((m.settle b u).settle a t) where
  definitions name := by
    by_cases ha : a.name = name
    · subst ha
      simp [hab.symm]
    · simp [ha]
  texts name := by
    by_cases ha : a.name = name
    · subst ha
      simp [hab.symm]
    · simp [ha]

end Rendering

theorem Snippet.composed_of_agreeOn {defs defs' : Definitions} {d : Snippet}
    (h : AgreeOn defs defs' d.rules) : composed defs' d = composed defs d := by
  rw [composed, composed, outcome_of_agreeOn h]

/-- The definition of a name that is not reached does not matter. -/
theorem Snippet.composed_of_not_reached {defs defs' : Definitions} {d : Snippet} {other : Text}
    (h : ¬ Reached defs d.rules other)
    (hdefs : ∀ name, other ≠ name → defs'.get? name = defs.get? name) :
    composed defs' d = composed defs d := by
  apply composed_of_agreeOn
  intro name hname
  apply hdefs
  rintro rfl
  exact h hname

namespace Renderer

variable {r : Renderer σ ε} {m n : Rendering}

/-! ### The same definitions and texts -/

theorem define_of_unevaluated (hr : r.evaluating = none) (d : Snippet) (m : Rendering) (s : σ) :
    r.define d (m, s) =
      match composed (m.take d).definitions d with
      | .error path =>
        (.error (.selfEmbedding path), m.take d, r.sayAll (notices (m.take d).definitions d) s)
      | .ok t => (.ok [], m.settle d t, r.tracked m d s) := by
  have ha : r.asked d = none := by simp [asked, hr]
  rw [define_apply]
  cases composed (m.take d).definitions d with
  | error path => rfl
  | ok t => simp only [ha]

abbrev EndedSame {α : Type} (x y : Except (RenderingFault ε) α × Rendering × σ) : Prop :=
  Action.Ended (fun _ p q => p.1.Same q.1) (fun _ _ _ => True) x y

theorem section_same (hr : r.evaluating = none) (h : m.Same n) (x : Section) (s t : σ) :
    EndedSame (r.section_ x (m, s)) (r.section_ x (n, t)) := by
  cases x with
  | text _ => exact .ok h
  | foreign _ => exact .error trivial
  | «show» name =>
    rw [section_, listing_apply, listing_apply, h.definitions, h.texts]
    cases m.definitions.get? name with
    | none => exact .error trivial
    | some d => exact .ok h
  | embed name kind =>
    rw [section_, embed_apply, embed_apply, h.definitions, hr]
    cases m.definitions.get? name with
    | none => exact .error trivial
    | some d => exact .ok h
  | define d =>
    have hcomposed : composed (n.take d).definitions d = composed (m.take d).definitions d :=
      composed_of_agreeOn fun name _ => (h.take d).definitions name
    rw [section_, define_of_unevaluated hr, define_of_unevaluated hr, hcomposed]
    cases composed (m.take d).definitions d with
    | error path => exact .error trivial
    | ok u => exact .ok (h.settle d u)

theorem sections_same (hr : r.evaluating = none) (h : m.Same n) (xs : List Section) (s t : σ) :
    EndedSame (r.sections xs (m, s)) (r.sections xs (n, t)) := by
  induction xs generalizing m n s t with
  | nil => exact .ok h
  | cons x xs ih =>
    rw [sections_cons]
    apply (section_same hr h x s t).bind
    rintro bs ⟨m, s⟩ ⟨n, t⟩ h
    apply (ih h s t).bind
    rintro cs ⟨m, s⟩ ⟨n, t⟩ h
    exact .ok h

/-! ### Two definitions in either order -/

/-- Two renderings have ended with the same blocks and the same for every name, or with faults of one
kind. -/
inductive Alike : Except (RenderingFault ε) (List Block) × Rendering × σ →
    Except (RenderingFault ε) (List Block) × Rendering × σ → Prop
  | ok {bs : List Block} {p q : Rendering × σ} (h : p.1.Same q.1) : Alike (.ok bs, p) (.ok bs, q)
  | error {f g : RenderingFault ε} {p q : Rendering × σ} (h : f.SameKind g) :
      Alike (.error f, p) (.error g, q)

theorem Alike.of_endedSame {x y : Except (RenderingFault ε) (List Block) × Rendering × σ}
    (h : EndedSame x y) : Alike x y := by
  cases h with
  | ok h => exact .ok h
  | error => exact .error (.refl _)

theorem Alike.append {xs ys : List Section} {p : Rendering × σ}
    (h : Alike (r.sections xs p) (r.sections ys p)) (bs : List Block) :
    Alike ((r.sections xs >>= fun cs => pure (bs ++ cs)) p)
      ((r.sections ys >>= fun cs => pure (bs ++ cs)) p) := by
  rw [Action.bind_apply, Action.bind_apply]
  generalize r.sections xs p = x at h ⊢
  generalize r.sections ys p = y at h ⊢
  cases h with
  | ok h => exact .ok h
  | error h => exact .error h

variable {a b d : Snippet}

theorem sections_define_of_error (hr : r.evaluating = none) {path : List Text}
    (h : composed (m.take d).definitions d = .error path) (s : σ) (post : List Section) :
    ∃ q, r.sections (.define d :: post) (m, s) = (.error (.selfEmbedding path), q) := by
  have hdefine := define_of_unevaluated hr d m s
  rw [h] at hdefine
  rw [sections_cons, section_, Action.bind_error hdefine]
  exact ⟨_, rfl⟩

theorem sections_define_of_ok (hr : r.evaluating = none) {t : Text}
    (h : composed (m.take d).definitions d = .ok t) (s : σ) (post : List Section) :
    ∃ u, r.sections (.define d :: post) (m, s) = r.sections post (m.settle d t, u) := by
  have hdefine := define_of_unevaluated hr d m s
  rw [h] at hdefine
  rw [sections_cons, section_, Action.bind_ok hdefine]
  simp only [List.nil_append, bind_pure]
  exact ⟨_, rfl⟩

/-- From any rendering on, two definitions that do not reach each other can change places. -/
theorem alike_exchange (hr : r.evaluating = none) (hab : a.name ≠ b.name)
    (ha : ¬ Reached ((m.take a).take b).definitions a.rules b.name)
    (hb : ¬ Reached ((m.take a).take b).definitions b.rules a.name) (s : σ) (post : List Section) :
    Alike (r.sections (.define a :: .define b :: post) (m, s))
      (r.sections (.define b :: .define a :: post) (m, s)) := by
  -- composed first or second, each of the two has the text that it has among both
  have hfirst : composed (m.take a).definitions a = composed ((m.take a).take b).definitions a :=
    composed_of_not_reached ha fun name hne => by simp [hne]
  have hfirst' : composed (m.take b).definitions b = composed ((m.take a).take b).definitions b :=
    composed_of_not_reached hb fun name hne => by simp [hne]
  have hsecond' : composed ((m.take b).take a).definitions a =
      composed ((m.take a).take b).definitions a :=
    composed_of_agreeOn fun name _ => (Rendering.same_settle_settle hab m [] []).definitions name
  cases hca : composed ((m.take a).take b).definitions a with
  | error path =>
    obtain ⟨q, hq⟩ := sections_define_of_error hr (hfirst.trans hca) s (.define b :: post)
    rw [hq]
    cases hcb : composed ((m.take a).take b).definitions b with
    | error path' =>
      obtain ⟨q', hq'⟩ := sections_define_of_error hr (hfirst'.trans hcb) s (.define a :: post)
      rw [hq']
      exact .error (.selfEmbedding path path')
    | ok u =>
      obtain ⟨v, hv⟩ := sections_define_of_ok hr (hfirst'.trans hcb) s (.define a :: post)
      obtain ⟨q', hq'⟩ := sections_define_of_error (m := m.settle b u) hr (hsecond'.trans hca) v post
      rw [hv, hq']
      exact .error (.refl _)
  | ok t =>
    obtain ⟨v, hv⟩ := sections_define_of_ok hr (hfirst.trans hca) s (.define b :: post)
    rw [hv]
    cases hcb : composed ((m.take a).take b).definitions b with
    | error path' =>
      obtain ⟨q, hq⟩ := sections_define_of_error (m := m.settle a t) hr hcb v post
      obtain ⟨q', hq'⟩ := sections_define_of_error hr (hfirst'.trans hcb) s (.define a :: post)
      rw [hq, hq']
      exact .error (.refl _)
    | ok u =>
      obtain ⟨w, hw⟩ := sections_define_of_ok (m := m.settle a t) hr hcb v post
      obtain ⟨v', hv'⟩ := sections_define_of_ok hr (hfirst'.trans hcb) s (.define a :: post)
      obtain ⟨w', hw'⟩ := sections_define_of_ok (m := m.settle b u) hr (hsecond'.trans hca) v' post
      rw [hw, hv', hw']
      exact .of_endedSame (sections_same hr (Rendering.same_settle_settle hab m t u) post w w')

/-- Without an evaluator, two neighbouring definitions of different names can be exchanged wherever
neither reaches the name of the other among the definitions behind both: the blocks, the definitions
and the texts are the same, or rendering fails with a fault of the same kind. -/
theorem sections_exchange (hr : r.evaluating = none) (pre post : List Section) (hab : a.name ≠ b.name)
    (ha : ¬ Reached (definitionsAfter {} (pre ++ [.define a, .define b])) a.rules b.name)
    (hb : ¬ Reached (definitionsAfter {} (pre ++ [.define a, .define b])) b.rules a.name) (s : σ) :
    Alike (r.sections (pre ++ .define a :: .define b :: post) ({}, s))
      (r.sections (pre ++ .define b :: .define a :: post) ({}, s)) := by
  rw [sections_append, sections_append]
  rcases hpre : r.sections pre ({}, s) with ⟨f | bs, m, t⟩
  · rw [Action.bind_error hpre, Action.bind_error hpre]
    exact .error (.refl f)
  · rw [Action.bind_ok hpre, Action.bind_ok hpre]
    have hdefs : definitionsAfter {} (pre ++ [.define a, .define b]) =
        ((m.take a).take b).definitions := by
      rw [definitionsAfter_append, ← sections_definitions hpre]
      rfl
    rw [hdefs] at ha hb
    exact (alike_exchange hr hab ha hb t post).append bs

def olderDefinitions : List Section :=
  [.define ⟨['a'], {}, [.text ['0']]⟩, .define ⟨['c'], {}, [.embed ['a']]⟩]

def newerDefinition : Snippet := ⟨['a'], {}, [.text ['1']]⟩

def neighbour : Snippet := ⟨['b'], {}, [.text ['2'], .embed ['d']]⟩

theorem sections_exchange_newerDefinition :
    newerDefinition.name ≠ neighbour.name ∧
      Alike
        (plain.sections (olderDefinitions ++ .define newerDefinition :: .define neighbour ::
          [.show ['c'], .show ['a']]) ({}, ()))
        (plain.sections (olderDefinitions ++ .define neighbour :: .define newerDefinition ::
          [.show ['c'], .show ['a']]) ({}, ())) ∧
      ∃ bs p, plain.sections (olderDefinitions ++ .define newerDefinition :: .define neighbour ::
        [.show ['c'], .show ['a']]) ({}, ()) = (.ok bs, p) ∧ bs.length = 2 := by
  have hab : newerDefinition.name ≠ neighbour.name := by decide
  have ha : ¬ Reached (definitionsAfter {} (olderDefinitions ++ [.define newerDefinition,
      .define neighbour])) newerDefinition.rules neighbour.name := by
    intro h
    cases h with
    | embed h => simp [newerDefinition] at h
    | through h => simp [newerDefinition] at h
  have hb : ¬ Reached (definitionsAfter {} (olderDefinitions ++ [.define newerDefinition,
      .define neighbour])) neighbour.rules newerDefinition.name := by
    intro h
    cases h with
    | embed h => simp [neighbour, newerDefinition] at h
    | through h hd =>
      obtain rfl : _ = ['d'] := by simpa [neighbour] using h
      cases hd
  have halike := sections_exchange (r := plain) rfl olderDefinitions [.show ['c'], .show ['a']] hab ha hb ()
  exact ⟨hab, halike, _, _, rfl, rfl⟩

end Renderer

end Weave
