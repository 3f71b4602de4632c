import Weave.Latex.Escape
import Weave.Proofs.Text.Cutting

/-!
# Escaped LaTeX read back

A backslash stands in front of a character or begins a named command, which is closed by an empty group.
Reading puts the characters back one by one; a character with a meaning of its own is not read where it
stands by itself.
-/

set_option autoImplicit false

namespace Weave.Latex

/-- Characters are looked for in a text and not among all there are, whatever else is imported. -/
instance decidableForallMem {P : Char → Prop} [DecidablePred P] (t : Text) :
    Decidable (∀ c ∈ t, P c) :=
  List.decidableBAll P t

def symbols : List Char := ['&', '%', '$', '#', '_', '{', '}']

def named : List (Text × Char) :=
  [(command "textbackslash", '\\'), (command "textasciitilde", '~'), (command "textasciicircum", '^')]

def special : List Char := symbols ++ named.map Prod.snd

/-- The character of the named command at the front, and what follows the command. -/
def named? (t : Text) : Option (Char × Text) :=
  named.findSome? fun (name, c) => (Text.after? name t).map fun rest => (c, rest)

/-- The first character of an escaped text, and what is left to be read. -/
def unescapeChar? : Text → Option (Char × Text)
  | [] => none
  | '\\' :: c :: r => if c ∈ symbols then some (c, r) else named? ('\\' :: c :: r)
  | c :: r => if c ∈ special then none else some (c, r)

theorem length_lt_of_named? {t rest : Text} {c : Char} (h : named? t = some (c, rest)) :
    rest.length < t.length := by
  obtain ⟨⟨name, c'⟩, hmem, hafter⟩ := List.exists_of_findSome?_eq_some h
  simp only [Option.map_eq_some_iff, Prod.mk.injEq] at hafter
  obtain ⟨r, hr, -, rfl⟩ := hafter
  have hname : 0 < name.length := by
    have hall : ∀ p ∈ named, 0 < p.1.length := by decide
    exact hall _ hmem
  rw [Text.eq_append_of_after? hr, List.length_append]
  omega

theorem length_lt_of_unescapeChar? {t rest : Text} {c : Char}
    (h : unescapeChar? t = some (c, rest)) : rest.length < t.length := by
  unfold unescapeChar? at h
  split at h
  · cases h
  · split at h
    · cases h
      simp only [List.length_cons]
      omega
    · exact length_lt_of_named? h
  · split at h
    · cases h
    · cases h
      simp

def unescape? (t : Text) : Option Text :=
  if t = [] then some []
  else match _h : unescapeChar? t with
    | none => none
    | some (c, rest) => (unescape? rest).map (c :: ·)
termination_by t.length
decreasing_by exact length_lt_of_unescapeChar? _h

theorem unescape?_eq_map {t rest : Text} {c : Char} (h : unescapeChar? t = some (c, rest)) :
    unescape? t = (unescape? rest).map (c :: ·) := by
  have hne : t ≠ [] := by
    rintro rfl
    cases h
  rw [unescape?, if_neg hne]
  split
  · next hnone => cases hnone.symm.trans h
  · next hsome =>
    cases hsome.symm.trans h
    rfl

theorem escape_cons (c : Char) (t : Text) : escape (c :: t) = escapeChar c ++ escape t := rfl

/-- A character is written behind a backslash, as a command or as it is. -/
theorem escapeChar_cases (c : Char) :
    (c ∈ symbols ∧ escapeChar c = ['\\', c]) ∨ (escapeChar c, c) ∈ named ∨
      (c ∉ special ∧ escapeChar c = [c]) := by
  by_cases hc : c ∈ special
  · have hall : ∀ d ∈ special,
        (d ∈ symbols ∧ escapeChar d = ['\\', d]) ∨ (escapeChar d, d) ∈ named := by decide
    rcases hall c hc with h | h
    · exact .inl h
    · exact .inr (.inl h)
  · refine .inr (.inr ⟨hc, ?_⟩)
    simp only [special, symbols, named, List.map_cons, List.map_nil, List.cons_append,
      List.nil_append, List.mem_cons, List.not_mem_nil, or_false, not_or] at hc
    simp [escapeChar, hc]

theorem unescapeChar?_escapeChar (c : Char) (u : Text) :
    unescapeChar? (escapeChar c ++ u) = some (c, u) := by
  rcases escapeChar_cases c with ⟨hc, h⟩ | h | ⟨hc, h⟩
  · rw [h]
    simp [unescapeChar?, hc]
  · simp only [named, List.mem_cons, Prod.mk.injEq, List.not_mem_nil, or_false] at h
    rcases h with ⟨h, rfl⟩ | ⟨h, rfl⟩ | ⟨h, rfl⟩ <;>
    · rw [h]
      rfl
  · have hback : c ≠ '\\' := by
      rintro rfl
      exact hc (by decide)
    rw [h, List.singleton_append, unescapeChar?, if_neg hc]
    intro c' r hcr
    exact absurd hcr hback

/-- Escaping loses nothing. -/
theorem unescape?_escape (t : Text) : unescape? (escape t) = some t := by
  induction t with
  | nil => simp [escape, unescape?]
  | cons c t ih =>
    rw [escape_cons, unescape?_eq_map (unescapeChar?_escapeChar c (escape t)), ih]
    rfl

end Weave.Latex
