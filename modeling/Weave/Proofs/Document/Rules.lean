import Weave.Document.Body
import Weave.Proofs.Document.Taking

/-!
# Rules of a text

The rules that a body of a snippet stands for, read off its text alone, and how rules are written.
Writing the rules of a text gives the text back.
-/

set_option autoImplicit false

namespace Weave

def Rule.written : Rule → Text
  | .text t => t
  | .embed name => '{' :: '{' :: name ++ Document.closing

namespace Document

def written (rules : List Rule) : Text := rules.flatMap Rule.written

@[simp] theorem written_nil : written [] = [] := rfl

@[simp] theorem written_cons (rule : Rule) (rules : List Rule) :
    written (rule :: rules) = rule.written ++ written rules := by
  simp [written]

theorem written_append (rules rules' : List Rule) :
    written (rules ++ rules') = written rules ++ written rules' := by
  simp [written]

theorem written_addText (t : Text) (rules : List Rule) :
    written (addText t rules).reverse = written rules.reverse ++ t := by
  unfold addText
  split <;> simp [written_append, Rule.written]

theorem addText_addText (s t : Text) (rules : List Rule) :
    addText t (addText s rules) = addText (s ++ t) rules := by
  cases rules with
  | nil => rfl
  | cons rule rules =>
    cases rule with
    | text u => simp [addText]
    | embed name => rfl

/-- The name between the braces of an embedded snippet and what follows these, behind the opening
braces. -/
def embedAt? (u : Text) : Option (Text × Text) :=
  let name := Token.wordAt u
  if name ≠ [] ∧ closing <+: u.drop name.length then
    some (name, u.drop (name.length + closing.length))
  else none

theorem boundary_closing (w r : Text) : Boundary w (closing ++ r) := by
  refine .inr ⟨rfl, ?_⟩
  rintro ⟨-, h⟩
  simp [closing] at h

theorem embedAt?_eq_some_iff {u name r : Text} :
    embedAt? u = some (name, r) ↔ IsWord name ∧ u = name ++ closing ++ r := by
  constructor
  · intro h
    simp only [embedAt?] at h
    split at h
    · next hw =>
      simp only [Option.some.injEq, Prod.mk.injEq] at h
      obtain ⟨rfl, rfl⟩ := h
      refine ⟨⟨hw.1, Token.ofChar?_of_mem_wordAt⟩, ?_⟩
      obtain ⟨x, hx⟩ := Token.wordAt_prefix u
      have hdrop : (Token.wordAt u ++ x).drop (Token.wordAt u).length = x := List.drop_left
      rw [hx] at hdrop
      obtain ⟨y, hy⟩ := hw.2
      rw [← List.drop_drop, hdrop]
      rw [hdrop] at hy
      rw [← hy, List.drop_left, List.append_assoc, hy, hx]
    · simp at h
  · rintro ⟨hw, rfl⟩
    have hname : Token.wordAt (name ++ closing ++ r) = name := by
      rw [List.append_assoc]
      exact Token.wordAt_append hw.2 (boundary_closing name r)
    simp only [embedAt?, hname]
    rw [← List.drop_drop, List.append_assoc, List.drop_left, List.drop_left, if_pos]
    exact ⟨hw.1, List.prefix_append closing r⟩

theorem embedAt?_length_lt {u name r : Text} (h : embedAt? u = some (name, r)) :
    r.length < u.length := by
  obtain ⟨-, rfl⟩ := embedAt?_eq_some_iff.mp h
  simp only [closing, List.length_append, List.length_cons, List.length_nil]
  omega

/-- Adds the rules of a text to rules that are listed latest first. -/
def rulesFrom (rules : List Rule) : Text → List Rule
  | [] => rules
  | '{' :: '{' :: u =>
    match _h : embedAt? u with
    | some (name, r) => rulesFrom (.embed name :: rules) r
    | none => rulesFrom (addText ['{', '{'] rules) u
  | a :: u => rulesFrom (addText [a] rules) u
termination_by t => t.length
decreasing_by
  · have := embedAt?_length_lt _h
    simp only [List.length_cons]
    omega
  · simp only [List.length_cons]
    omega
  · simp

def rulesOf (t : Text) : List Rule := (rulesFrom [] t).reverse

def Opens (u : Text) : Prop := ['{', '{'] <+: u

theorem not_opens_cons {a : Char} {u : Text} (h : ∀ v, a = '{' → u = '{' :: v → False) :
    ¬ Opens (a :: u) := by
  rintro ⟨v, hv⟩
  obtain ⟨rfl, rfl⟩ := List.cons.inj hv
  exact h v rfl rfl

theorem rulesFrom_nil (rules : List Rule) : rulesFrom rules [] = rules := by rw [rulesFrom]

theorem rulesFrom_embed {u name r : Text} (h : embedAt? u = some (name, r)) (rules : List Rule) :
    rulesFrom rules ('{' :: '{' :: u) = rulesFrom (.embed name :: rules) r := by
  rw [rulesFrom]
  split
  · next h' =>
    rw [h] at h'
    simp only [Option.some.injEq, Prod.mk.injEq] at h'
    obtain ⟨rfl, rfl⟩ := h'
    rfl
  · next h' => simp [h] at h'

theorem rulesFrom_braces {u : Text} (h : embedAt? u = none) (rules : List Rule) :
    rulesFrom rules ('{' :: '{' :: u) = rulesFrom (addText ['{', '{'] rules) u := by
  rw [rulesFrom]
  split
  · next h' => simp [h] at h'
  · rfl

theorem rulesFrom_cons {a : Char} {u : Text} (h : ¬ Opens (a :: u)) (rules : List Rule) :
    rulesFrom rules (a :: u) = rulesFrom (addText [a] rules) u := by
  rw [rulesFrom]
  rintro v rfl rfl
  exact h ⟨v, rfl⟩

/-- Text without opening braces is one piece of text. -/
theorem rulesFrom_of_clear {x y : Text} (h : ClearOf Opens x y) (rules : List Rule) :
    rulesFrom rules (x ++ y) = rulesFrom (if x = [] then rules else addText x rules) y := by
  induction x generalizing rules with
  | nil => simp
  | cons a x ih =>
    obtain ⟨ha, hx⟩ := clearOf_cons.mp h
    rw [List.cons_append, rulesFrom_cons ha, ih hx, if_neg (List.cons_ne_nil a x)]
    split
    · next hnil => rw [hnil]
    · rw [addText_addText, List.singleton_append]

theorem written_rulesFrom (rules : List Rule) (t : Text) :
    written (rulesFrom rules t).reverse = written rules.reverse ++ t := by
  induction rules, t using rulesFrom.induct with
  | case1 rules => rw [rulesFrom_nil, List.append_nil]
  | case2 rules u name r h ih =>
    obtain ⟨-, rfl⟩ := embedAt?_eq_some_iff.mp h
    rw [rulesFrom_embed h, ih]
    simp [written_append, Rule.written]
  | case3 rules u h ih =>
    rw [rulesFrom_braces h, ih, written_addText]
    simp
  | case4 rules a u hne ih =>
    rw [rulesFrom_cons (not_opens_cons hne), ih, written_addText]
    simp

/-- Writing the rules of a text gives the text back. -/
theorem written_rulesOf (t : Text) : written (rulesOf t) = t := by
  rw [rulesOf, written_rulesFrom]
  rfl

end Document

end Weave
