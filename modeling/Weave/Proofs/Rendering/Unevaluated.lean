import Weave.Proofs.Rendering.Steps
import Weave.Proofs.World.Tree

/-!
# Rendering without an evaluator

Where there is no evaluator, nothing but what is printed changes in the world, the blocks are prose and
listings, and a rendering fails for reasons that lie in the document only.
-/

set_option autoImplicit false

namespace Weave

open World (Said)

namespace Renderer

variable {ε : Type} {r : Renderer World ε} {w : World}

/-- Nothing but what a renderer says changes the world. -/
structure Unevaluating (r : Renderer World ε) : Prop where
  prints : ∀ line w, Said w (r.say line w)
  evaluating : r.evaluating = none

/-- How rendering ends where there is no evaluator. -/
inductive Plain (w : World) : Except (RenderingFault ε) (List Block) × Rendering × World → Prop
  | ok {bs : List Block} {m : Rendering} {u : World} (hb : ∀ b ∈ bs, ∀ t, b ≠ .foreign t)
      (hu : Said w u) : Plain w (.ok bs, m, u)
  | error {f : RenderingFault ε} {m : Rendering} {u : World} (hf : ∀ e, f ≠ .raised e)
      (hu : Said w u) : Plain w (.error f, m, u)

theorem Unevaluating.sayAll (hr : r.Unevaluating) (lines : List Text) (w : World) :
    Said w (r.sayAll lines w) := by
  induction lines generalizing w with
  | nil => exact .refl w
  | cons line lines ih => exact (hr.prints line w).trans (ih (r.say line w))

theorem Unevaluating.asked (hr : r.Unevaluating) (d : Snippet) : r.asked d = none := by
  rw [Renderer.asked, hr.evaluating, ite_self]

theorem plain_section (hr : r.Unevaluating) (x : Section) (m : Rendering) (w : World) :
    Plain w (r.section_ x (m, w)) := by
  cases x with
  | text t =>
    refine .ok ?_ (.refl w)
    unfold proseBlocks
    split <;> simp
  | define d =>
    rw [section_, define_apply, hr.asked]
    have hsaid := hr.sayAll (notices (m.take d).definitions d) w
    split
    · exact .error (fun e => nofun) hsaid
    · exact .ok (by simp) (hsaid.trans (hr.prints _ _))
  | «show» name =>
    rw [section_, listing_apply]
    split
    · exact .error (fun e => nofun) (.refl w)
    · exact .ok (by simp) (.refl w)
  | embed name kind =>
    rw [section_, embed_apply, hr.evaluating]
    split
    · exact .error (fun e => nofun) (.refl w)
    · exact .ok (by simp) (.refl w)
  | foreign command => exact .error (fun e => nofun) (.refl w)

theorem plain_sections (hr : r.Unevaluating) (ss : List Section) (m : Rendering) (w : World) :
    Plain w (r.sections ss (m, w)) := by
  induction ss generalizing m w with
  | nil => exact .ok (by simp) (.refl w)
  | cons x ss ih =>
    rw [sections_cons, Action.bind_apply]
    have hx := plain_section hr x m w
    generalize r.section_ x (m, w) = q at hx ⊢
    cases hx with
    | error hf hu => exact .error hf hu
    | @ok bs m u hb hu =>
      dsimp only
      rw [Action.bind_apply]
      have hss := ih m u
      generalize r.sections ss (m, u) = q at hss ⊢
      cases hss with
      | error hf hv => exact .error hf (hu.trans hv)
      | ok hc hv =>
        refine .ok ?_ (hu.trans hv)
        intro b hmem
        rcases List.mem_append.mp hmem with hmem | hmem
        · exact hb b hmem
        · exact hc b hmem

end Renderer

end Weave
