import Weave.Proofs.Snippet.Expansion

/-!
# Names that are reached

Expanding a snippet looks up the names to which its embeds lead, directly or through the definitions of
other names, and no others. Definitions that are the same for these names expand it alike.
-/

set_option autoImplicit false

namespace Weave.Snippet

/-- Rules embed a name, directly or through definitions. The name need not be defined itself. -/
inductive Reached (defs : Definitions) : List Rule → Text → Prop
  | embed {rules : List Rule} {name : Text} (h : .embed name ∈ rules) : Reached defs rules name
  | through {rules : List Rule} {via name : Text} {d : Snippet} (h : .embed via ∈ rules)
      (hd : defs.get? via = some d) (hr : Reached defs d.rules name) : Reached defs rules name

/-- The names that are reached from some rules have the same definitions. -/
def AgreeOn (defs defs' : Definitions) (rules : List Rule) : Prop :=
  ∀ name, Reached defs rules name → defs'.get? name = defs.get? name

variable {defs defs' : Definitions} {rules : List Rule} {s d : Snippet} {name via : Text}

theorem Reached.of_subset {rules' : List Rule} (h : Reached defs rules name) (hsub : rules ⊆ rules') :
    Reached defs rules' name := by
  cases h with
  | embed h => exact .embed (hsub h)
  | through h hd hr => exact .through (hsub h) hd hr

namespace AgreeOn

theorem of_subset {rules' : List Rule} (h : AgreeOn defs defs' rules') (hsub : rules ⊆ rules') :
    AgreeOn defs defs' rules :=
  fun name hr => h name (hr.of_subset hsub)

theorem embedded (h : AgreeOn defs defs' rules) (hmem : .embed via ∈ rules)
    (hd : defs.get? via = some d) : AgreeOn defs defs' d.rules :=
  fun name hr => h name (.through hmem hd hr)

theorem reached (h : AgreeOn defs defs' rules) (hr : Reached defs' rules name) :
    Reached defs rules name := by
  induction hr with
  | embed hmem => exact .embed hmem
  | through hmem hd _ ih =>
    rw [h _ (.embed hmem)] at hd
    exact .through hmem hd (ih (h.embedded hmem hd))

theorem symm (h : AgreeOn defs defs' rules) : AgreeOn defs' defs rules :=
  fun name hr => (h name (h.reached hr)).symm

end AgreeOn

theorem Chain.of_agreeOn {is : List Nat} {names : List Text} (hc : Chain defs s is names)
    (h : AgreeOn defs defs' s.rules) : Chain defs' s is names := by
  induction hc with
  | stop s => exact .stop s
  | step hi hd _ ih =>
    have hmem := List.mem_of_getElem? hi
    have hd' := (h _ (.embed hmem)).trans hd
    exact .step hi hd' (ih (h.embedded hmem hd))

theorem Expands.of_agreeOn {t : Text} {ms : List Text} (hx : Expands defs rules t ms)
    (h : AgreeOn defs defs' rules) : Expands defs' rules t ms := by
  induction hx with
  | nil => exact .nil
  | text t _ ih => exact .text t (ih (h.of_subset (List.subset_cons_self ..)))
  | embed hd _ _ iht ih =>
    have hd' := (h _ (.embed List.mem_cons_self)).trans hd
    have hembedded := h.embedded List.mem_cons_self hd
    exact .embed hd' (iht hembedded) (ih (h.of_subset (List.subset_cons_self ..)))
  | undefined hd _ ih =>
    have hd' := (h _ (.embed List.mem_cons_self)).trans hd
    exact .undefined hd' (ih (h.of_subset (List.subset_cons_self ..)))

theorem FirstLoop.of_agreeOn {is : List Nat} {names : List Text} (hl : FirstLoop defs s is names)
    (h : AgreeOn defs defs' s.rules) : FirstLoop defs' s is names where
  chain := hl.chain.of_agreeOn h
  closes := hl.closes
  first js names' hc := hl.first js names' (hc.of_agreeOn h.symm)

/-- A snippet is expanded alike among definitions that agree on the names it reaches. -/
theorem outcome_of_agreeOn (h : AgreeOn defs defs' s.rules) :
    (expand defs' s).outcome = (expand defs s).outcome := by
  cases hout : (expand defs s).outcome with
  | error path =>
    obtain ⟨is, hl⟩ := outcome_eq_error_iff.mp hout
    exact outcome_eq_error_iff.mpr ⟨is, hl.of_agreeOn h⟩
  | ok t =>
    obtain ⟨hnodup, hx⟩ := expand_eq_ok_iff.mp (congrArg (Expansion.mk (expand defs s).missing) hout)
    have hok : expand defs' s = ⟨(expand defs s).missing, .ok t⟩ := by
      refine expand_eq_ok_iff.mpr ⟨?_, hx.of_agreeOn h⟩
      intro is names hc
      exact hnodup is names (hc.of_agreeOn h.symm)
    rw [hok]

end Weave.Snippet
