import Weave.Document.Progress

/-!
# Bodies of snippets

The body of a snippet runs up to a line that starts with `}}`. Two braces around a single word embed
another snippet; all other braces are text.
-/

set_option autoImplicit false

namespace Weave.Document

/-- Adds text to rules that are listed latest first. -/
def addText (t : Text) : List Rule → List Rule
  | .text s :: rules => .text (s ++ t) :: rules
  | rules => .text t :: rules

/-- What follows the text in front of a pair of braces: an embedded snippet, more text, or the end. -/
def bodyStep (rules : List Rule) : Reading (List Rule × Bool) := fun c =>
  if c.sees embedKinds then
    (do
      let _ ← openCommand
      let name ← word
      let _ ← expectAll closeKinds
      pure (.embed name :: rules, true) : Reading _) c
  else if c.sees openKinds then
    (do
      let ts ← openCommand
      pure (addText (textOf ts) rules, true) : Reading _) c
  else
    (do
      let _ ← closeCommand
      pure (rules, false) : Reading _) c

/-- One pass: text up to the next pair of braces, and what follows. The body goes on if the second
part is true. -/
def bodyPass (rules : List Rule) : Reading (List Rule × Bool) := do
  let before ← readUntilAny [openKinds, lineCloseKinds]
  bodyStep (if before.isEmpty then rules else addText (textOf before) rules)

theorem bodyStep_shortens {rules rules' : List Rule} {c d : Cursor}
    (h : bodyStep rules c = (.ok (rules', true), d)) : d.rest.length < c.rest.length := by
  unfold bodyStep at h
  split at h
  · exact shortens_openCommand.bind
      (fun _ => keeps_word.bind fun _ => (keeps_expectAll _).bind fun _ => keeps_pure _) _ _ _ h
  · split at h
    · exact shortens_openCommand.bind (fun _ => keeps_pure _) _ _ _ h
    · obtain ⟨_, _, _, h₂⟩ := Action.bind_eq_ok h
      simp [Action.pure_apply] at h₂

theorem bodyPass_shortens {rules rules' : List Rule} {c d : Cursor}
    (h : bodyPass rules c = (.ok (rules', true), d)) : d.rest.length < c.rest.length := by
  obtain ⟨_, m, h₁, h₂⟩ := Action.bind_eq_ok h
  exact Nat.lt_of_lt_of_le (bodyStep_shortens h₂) (keeps_readUntilAny _ _ _ _ h₁)

theorem keeps_bodyStep (rules : List Rule) : Keeps (bodyStep rules) := by
  intro c a d h
  unfold bodyStep at h
  split at h
  · exact (shortens_openCommand.bind
      (fun _ => keeps_word.bind fun _ => (keeps_expectAll _).bind fun _ => keeps_pure _)).keeps
      _ _ _ h
  · split at h
    · exact (shortens_openCommand.bind (fun _ => keeps_pure _)).keeps _ _ _ h
    · exact (keeps_closeCommand.bind fun _ => keeps_pure _) _ _ _ h

theorem keeps_bodyPass (rules : List Rule) : Keeps (bodyPass rules) :=
  (keeps_readUntilAny _).bind fun _ => keeps_bodyStep _

/-- Passes until the body is closed. The rules so far are listed latest first. -/
def bodyFrom (rules : List Rule) (c : Cursor) : Except Fault (List Rule) × Cursor :=
  match _h : bodyPass rules c with
  | (.error e, d) => (.error e, d)
  | (.ok (rules, false), d) => (.ok rules.reverse, d)
  | (.ok (rules, true), d) => bodyFrom rules d
termination_by c.rest.length
decreasing_by exact bodyPass_shortens _h

/-- The rules of a snippet, and its end. -/
def body : Reading (List Rule) := bodyFrom []

theorem keeps_bodyFrom (rules : List Rule) : Keeps (bodyFrom rules) := by
  intro c a d h
  induction rules, c using bodyFrom.induct with
  | case1 rules c e d' hp => rw [bodyFrom, hp] at h; simp at h
  | case2 rules c rules' d' hp =>
    rw [bodyFrom, hp] at h
    simp only [Prod.mk.injEq] at h
    exact h.2 ▸ keeps_bodyPass rules c _ d' hp
  | case3 rules c rules' d' hp ih =>
    rw [bodyFrom, hp] at h
    exact Nat.le_trans (ih h) (keeps_bodyPass rules c _ d' hp)

end Weave.Document
