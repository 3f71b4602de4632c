import Weave.Proofs.Rendering.History

/-!
# Outcomes of the definition in force

What a document embeds under a name ought to come from the definition of the name in force there.
An outcome outlives the definition it was made for, so this holds exactly where no definition that
was evaluated has been replaced by one that was not.
-/

set_option autoImplicit false

namespace Weave.Renderer

variable {σ ε : Type} {r : Renderer σ ε}

/-- After the sections `xs`, which left the rendering `m`, a name stands for its definition in force:
an outcome kept under it is the answer to the one evaluation that this definition made, of the text
that is shown and in the mode of its header; where the definition was not evaluated there is no
outcome, and embedding leaves no blocks. -/
structure EmbedsInForce (r : Renderer σ ε) (xs : List Section) (s : σ) (m : Rendering)
    (name : Text) : Prop where
  evaluated : ∀ o, m.results.get? name = some o → ∃ pre d post t, InForce name xs pre d post ∧
    (∀ v, r.section_ (.show name) (m, v) = (.ok [.code t d.header.lang.name], m, v)) ∧
    r.evaluations (pre ++ [.define d]) s
      = r.evaluations pre s ++ [⟨⟨t, d.header.expression, r.file⟩, .ok o⟩]
  unevaluated : ∀ pre d post, InForce name xs pre d post → r.asked d = none →
    m.results.get? name = none ∧ ∀ kind v, (r.section_ (.embed name kind) (m, v)).1 = .ok []

/-- Without an outcome nothing is embedded. -/
theorem embed_of_results_none {name : Text} {m : Rendering} {d : Snippet}
    (hd : m.definitions.get? name = some d) (ho : m.results.get? name = none) (kind : EmbedKind)
    (v : σ) : (r.section_ (.embed name kind) (m, v)).1 = .ok [] := by
  simp only [section_, embed_apply, hd, ho]
  cases r.evaluating <;> rfl

/-- The outcomes under a name belong to its definition in force exactly if no evaluated definition
of the name stands in front of one in force that is not evaluated. -/
theorem embedsInForce_iff {xs : List Section} {s u : σ} {bs : List Block} {m : Rendering}
    (h : r.sections xs ({}, s) = (.ok bs, m, u)) (name : Text) :
    r.EmbedsInForce xs s m name ↔
      ∀ pre d post, InForce name xs pre d post → r.asked d = none →
        ∀ d', .define d' ∈ pre → d'.name = name → r.asked d' = none := by
  constructor
  · intro he pre d post hf ha
    obtain ⟨cs, m₀, s₀, m₁, s₁, t, hpre, -, ht, hs, -⟩ := sections_inForce h hf
    have hnone := (he.unevaluated pre d post hf ha).1
    rw [hs.results, ht.results_of_asked_none ha] at hnone
    exact ((sections_results_eq_none_iff name hpre).mp hnone).2
  · intro hall
    constructor
    · intro o ho
      rcases undefined_or_inForce name xs with hu | ⟨pre, d, post, hf⟩
      · have hnone := (sections_sameUnder hu h).results
        simp [ho] at hnone
      · obtain ⟨cs, m₀, s₀, m₁, s₁, t, hpre, -, ht, hs, hev⟩ := sections_inForce h hf
        have hshow := show_inForce ht hs hf.own
        cases ha : r.asked d with
        | none =>
          have hnone := (sections_results_eq_none_iff name hpre).mpr
            ⟨rfl, hall pre d post hf ha⟩
          rw [hs.results, ht.results_of_asked_none ha, hnone] at ho
          simp at ho
        | some e =>
          obtain ⟨o', ho', hlog⟩ := ht.results_of_asked ha
          rw [hf.own, ← hs.results, ho, Option.some.injEq] at ho'
          refine ⟨pre, d, post, t, hf, hshow, ?_⟩
          rw [hev, hlog, ho']
    · intro pre d post hf ha
      obtain ⟨cs, m₀, s₀, m₁, s₁, t, hpre, -, ht, hs, -⟩ := sections_inForce h hf
      have hnone := (sections_results_eq_none_iff name hpre).mpr
        ⟨rfl, hall pre d post hf ha⟩
      have ho : m.results.get? name = none := by
        rw [hs.results, ht.results_of_asked_none ha, hnone]
      have hd : m.definitions.get? name = some d := by
        rw [hs.definitions, ht.definitions]
        simp [hf.own]
      exact ⟨ho, fun kind v => embed_of_results_none hd ho kind v⟩

def replacedDocument : List Section :=
  [.define ⟨['a'], {}, [.text ['1']]⟩, .define ⟨['a'], { evaluate := false }, [.text ['2']]⟩]

def replacedRendering : Rendering where
  definitions := ⟨[(['a'], ⟨['a'], { evaluate := false }, [.text ['2']]⟩)]⟩
  texts := ⟨[(['a'], ['2'])]⟩
  results := ⟨[(['a'], { output := some ['1'] })]⟩

theorem not_embedsInForce_replacedDocument :
    echo.sections replacedDocument ({}, ()) = (.ok [], replacedRendering, ()) ∧
      ¬ echo.EmbedsInForce replacedDocument () replacedRendering ['a'] := by
  have hrun : echo.sections replacedDocument ({}, ()) = (.ok [], replacedRendering, ()) := rfl
  refine ⟨hrun, fun h => ?_⟩
  have hall := (embedsInForce_iff hrun ['a']).mp h
  have hf : InForce ['a'] replacedDocument [.define ⟨['a'], {}, [.text ['1']]⟩]
    ⟨['a'], { evaluate := false }, [.text ['2']]⟩ [] := ⟨rfl, rfl, fun d hd => by simp at hd⟩
  have hasked := hall _ _ _ hf rfl _ List.mem_cons_self rfl
  simp [asked, echo, Header.shouldEvaluate] at hasked

end Weave.Renderer
