import Mathlib.Data.List.Chain
import Mathlib.Logic.Relation
import Weave.Proofs.Snippet.Expansion

/-!
# Cycles of embeds

Among definitions that are kept under their own names the chains of embeds are the paths of a relation
between names. A new definition closes a cycle of that relation only through its own name, so that
expanding it is enough to keep the relation free of cycles, and a cycle that is found starts there.
-/

set_option autoImplicit false

namespace Weave

open Relation

namespace Snippet

def Embeds (defs : Definitions) (a b : Text) : Prop :=
  ∃ s d, defs.get? a = some s ∧ .embed b ∈ s.rules ∧ defs.get? b = some d

def Acyclic (defs : Definitions) : Prop := ∀ name, ¬ TransGen (Embeds defs) name name

def OwnNamed (defs : Definitions) : Prop := ∀ name d, defs.get? name = some d → d.name = name

/-- What definitions are as long as each of them could be expanded. -/
structure Orderly (defs : Definitions) : Prop where
  own : OwnNamed defs
  acyclic : Acyclic defs

variable {defs : Definitions} {s d : Snippet} {a b : Text}

/-! ### Chains as paths -/

theorem Chain.isChain (hown : OwnNamed defs) (hs : defs.get? s.name = some s) {is : List Nat}
    {names : List Text} (h : Chain defs s is names) :
    names.head? = some s.name ∧ names.IsChain (Embeds defs) := by
  induction h with
  | stop s => exact ⟨rfl, .singleton _⟩
  | @step s d i is name names hi hd h ih =>
    obtain rfl := hown name d hd
    obtain ⟨hhead, hchain⟩ := ih hd
    refine ⟨rfl, hchain.cons fun next hnext => ?_⟩
    obtain rfl : d.name = next := Option.some.inj (hhead.symm.trans hnext)
    exact ⟨s, d, hs, List.mem_of_getElem? hi, hd⟩

theorem exists_chain (hown : OwnNamed defs) (h : TransGen (Embeds defs) a b)
    (hs : defs.get? a = some s) : ∃ is front, Chain defs s is (front ++ [b]) ∧ a ∈ front := by
  induction h using TransGen.head_induction_on generalizing s with
  | single h =>
    obtain ⟨s', d, hs', hmem, hd⟩ := h
    obtain rfl := Option.some.inj (hs.symm.trans hs')
    obtain ⟨i, hi⟩ := List.mem_iff_getElem?.mp hmem
    have hc := Chain.step hi hd (.stop d)
    rw [hown _ _ hs, hown _ _ hd] at hc
    exact ⟨_, [_], hc, List.mem_singleton_self _⟩
  | head h _ ih =>
    obtain ⟨s', d, hs', hmem, hd⟩ := h
    obtain rfl := Option.some.inj (hs.symm.trans hs')
    obtain ⟨i, hi⟩ := List.mem_iff_getElem?.mp hmem
    obtain ⟨is, front, hc, -⟩ := ih hd
    have hc := Chain.step hi hd hc
    rw [hown _ _ hs] at hc
    exact ⟨_, _ :: front, hc, List.mem_cons_self⟩

theorem transGen_of_isChain {names : List Text} {r : Text → Text → Prop}
    (h : (a :: (names ++ [b])).IsChain r) : TransGen r a b := by
  induction names generalizing a with
  | nil => exact .single (List.isChain_pair.mp h)
  | cons c names ih =>
    obtain ⟨hac, h⟩ := List.isChain_cons_cons.mp h
    exact .head hac (ih h)

/-! ### A new definition -/

theorem orderly_empty : Orderly {} where
  own := fun _ _ h => nomatch h
  acyclic := fun _ h => by
    obtain ⟨_, ⟨_, _, hs, -⟩, -⟩ := TransGen.head'_iff.mp h
    exact nomatch hs

theorem OwnNamed.set (h : OwnNamed defs) : OwnNamed (defs.set d.name d) := by
  intro name e he
  rw [Dictionary.get?_set] at he
  split at he
  next hn => exact Option.some.inj he ▸ hn
  next => exact h name e he

/-- A definition changes only the embeds from and to its name. -/
theorem Embeds.of_set (h : Embeds (defs.set d.name d) a b) (ha : d.name ≠ a) (hb : d.name ≠ b) :
    Embeds defs a b := by
  obtain ⟨s, e, hs, hmem, he⟩ := h
  rw [Dictionary.get?_set, if_neg ha] at hs
  rw [Dictionary.get?_set, if_neg hb] at he
  exact ⟨s, e, hs, hmem, he⟩

theorem transGen_of_set (h : TransGen (Embeds (defs.set d.name d)) a b) :
    TransGen (Embeds defs) a b ∨ ReflTransGen (Embeds (defs.set d.name d)) a d.name ∧
      ReflTransGen (Embeds (defs.set d.name d)) d.name b := by
  induction h with
  | @single b hab =>
    rcases eq_or_ne d.name a with rfl | ha
    · exact .inr ⟨.refl, .single hab⟩
    · rcases eq_or_ne d.name b with rfl | hb
      · exact .inr ⟨.single hab, .refl⟩
      · exact .inl (.single (hab.of_set ha hb))
  | @tail b c hab hbc ih =>
    rcases ih with hold | ⟨hto, hfrom⟩
    · rcases eq_or_ne d.name b with rfl | hb
      · exact .inr ⟨hab.to_reflTransGen, .single hbc⟩
      · rcases eq_or_ne d.name c with rfl | hc
        · exact .inr ⟨(hab.tail hbc).to_reflTransGen, .refl⟩
        · exact .inl (hold.tail (hbc.of_set hb hc))
    · exact .inr ⟨hto, hfrom.tail hbc⟩

/-- A definition closes cycles only through its own name. -/
theorem Acyclic.set (h : Acyclic defs)
    (hd : ¬ TransGen (Embeds (defs.set d.name d)) d.name d.name) :
    Acyclic (defs.set d.name d) := by
  intro name hcycle
  rcases transGen_of_set hcycle with hold | ⟨hto, hfrom⟩
  · exact h name hold
  · exact hd ((TransGen.trans_right hfrom hcycle).trans_left hto)

/-- The path that is found leads from the new definition to itself: a loop behind it would have been
one before. -/
theorem Orderly.path_of_set (h : Orderly defs) {path : List Text}
    (hp : (expand (defs.set d.name d) d).outcome = .error path) :
    ∃ mid, path = d.name :: (mid ++ [d.name]) ∧ path.IsChain (Embeds (defs.set d.name d)) := by
  obtain ⟨is, hloop⟩ := outcome_eq_error_iff.mp hp
  obtain ⟨hhead, hchain⟩ := hloop.chain.isChain h.own.set (by simp)
  obtain ⟨front, last, rfl, hnodup, hmem⟩ := hloop.closes
  obtain ⟨rest, rfl⟩ : ∃ rest, front = d.name :: rest := by
    cases front with
    | nil => exact nomatch hmem
    | cons c rest => exact ⟨rest, by simpa using hhead⟩
  obtain ⟨hd, -⟩ := List.nodup_cons.mp hnodup
  rcases List.mem_cons.mp hmem with rfl | hlast
  · exact ⟨rest, rfl, hchain⟩
  · obtain ⟨before, between, rfl⟩ := List.append_of_mem hlast
    have hinfix : last :: (between ++ [last]) <:+: d.name :: (before ++ last :: between) ++ [last] :=
      ⟨d.name :: before, [], by simp⟩
    have hloop := List.IsChain.infix hchain hinfix
    have hold : (last :: (between ++ [last])).IsChain (Embeds defs) := by
      refine hloop.imp_of_mem_imp fun a b ha hb hab => hab.of_set ?_ ?_
      · rintro rfl
        exact hd (by simp at ha ⊢; tauto)
      · rintro rfl
        exact hd (by simp at hb ⊢; tauto)
    exact absurd (transGen_of_isChain hold) (h.acyclic last)

theorem Orderly.exists_outcome_eq_error_iff (h : Orderly defs) :
    (∃ path, (expand (defs.set d.name d) d).outcome = .error path) ↔
      TransGen (Embeds (defs.set d.name d)) d.name d.name := by
  constructor
  · rintro ⟨path, hp⟩
    obtain ⟨mid, rfl, hchain⟩ := h.path_of_set hp
    exact transGen_of_isChain hchain
  · intro hcycle
    obtain ⟨is, front, hc, hmem⟩ := exists_chain h.own.set hcycle (s := d) (by simp)
    refine Snippet.exists_outcome_eq_error_iff.mpr ⟨is, _, hc, fun hn => ?_⟩
    exact (List.nodup_append.mp hn).2.2 d.name hmem d.name (List.mem_singleton_self _) rfl

/-- Definitions stay orderly where the new one can be expanded. -/
theorem Orderly.set (h : Orderly defs)
    (hd : ∀ path, (expand (defs.set d.name d) d).outcome ≠ .error path) :
    Orderly (defs.set d.name d) where
  own := h.own.set
  acyclic := h.acyclic.set fun hcycle =>
    (h.exists_outcome_eq_error_iff.mpr hcycle).elim hd

end Snippet

end Weave
