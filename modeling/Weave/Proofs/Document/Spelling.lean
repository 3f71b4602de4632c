import Weave.Document.Progress

/-!
# Spellings of tokens

Which tokens stand next in a text depends on the text alone, and delimiters can be told by their
characters: a sequence of delimiters stands next exactly if one of its spellings does.
-/

set_option autoImplicit false

namespace Weave

namespace TokenKind

def spellings : TokenKind → List Text
  | .openBrace => [['{']]
  | .closeBrace => [['}']]
  | .space => [[' ']]
  | .newline => [['\n'], ['\r', '\n']]
  | .hash => [['#']]
  | .word | .finish => []

theorem mem_newline {nl : Text} :
    nl ∈ newline.spellings ↔ nl = ['\n'] ∨ nl = ['\r', '\n'] := by
  simp [spellings]

def spell : List TokenKind → List Text
  | [] => [[]]
  | k :: ks => k.spellings.flatMap fun d => (spell ks).map (d ++ ·)

def isDelimiter (k : TokenKind) : Bool := !k.spellings.isEmpty

theorem delimiter?_append {k : TokenKind} {d : Text} (hd : d ∈ k.spellings) (r : Text) :
    delimiter? (d ++ r) = some (k, d) := by
  cases k <;> simp [spellings] at hd
  case newline => rcases hd with rfl | rfl <;> rfl
  all_goals subst hd; rfl

theorem eq_of_ofChar? {c : Char} {k : TokenKind} (h : ofChar? c = some k) :
    [c] ∈ k.spellings := by
  unfold ofChar? at h
  repeat' split at h
  all_goals first
    | (simp only [Option.some.injEq] at h; subst h; subst_vars; simp [spellings])
    | simp at h

theorem mem_spellings_of_delimiter? {u d : Text} {k : TokenKind}
    (h : delimiter? u = some (k, d)) : d ∈ k.spellings ∧ d <+: u := by
  unfold delimiter? at h
  split at h
  · simp at h
  · next r =>
    simp only [Option.some.injEq, Prod.mk.injEq] at h
    obtain ⟨rfl, rfl⟩ := h
    exact ⟨by simp [spellings], r, rfl⟩
  · next c r _ =>
    obtain ⟨k', hk, he⟩ := Option.map_eq_some_iff.mp h
    simp only [Prod.mk.injEq] at he
    obtain ⟨rfl, rfl⟩ := he
    exact ⟨eq_of_ofChar? hk, r, rfl⟩

end TokenKind

namespace Token

theorem front_delimiter {k : TokenKind} {d : Text} (hd : d ∈ k.spellings) (n : Nat) (r : Text) :
    front n (d ++ r) = ⟨k, d, n, n + d.length⟩ := by
  have h := TokenKind.delimiter?_append hd r
  unfold front
  split
  · next he =>
    rw [he] at h
    simp [TokenKind.delimiter?] at h
  · rw [h]

theorem wordAt_prefix (u : Text) : wordAt u <+: u := by
  induction u with
  | nil => exact List.nil_prefix
  | cons c r ih =>
    unfold wordAt
    split
    · exact List.nil_prefix
    · exact List.cons_prefix_cons.mpr ⟨rfl, ih⟩

theorem front_text_prefix (n : Nat) (u : Text) : (front n u).text <+: u := by
  unfold front
  split
  · exact List.nil_prefix
  · split
    · next h => exact (TokenKind.mem_spellings_of_delimiter? h).2
    · exact wordAt_prefix u

/-- A delimiter at the front of a text is one of its spellings. -/
theorem mem_spellings_of_front {n : Nat} {u : Text} {k : TokenKind} (hk : k.isDelimiter = true)
    (h : (front n u).kind = k) : (front n u).text ∈ k.spellings := by
  unfold front at h ⊢
  split at h
  · subst h; simp [TokenKind.isDelimiter, TokenKind.spellings] at hk
  · split at h
    · next hd =>
      subst h
      exact (TokenKind.mem_spellings_of_delimiter? hd).1
    · subst h; simp [TokenKind.isDelimiter, TokenKind.spellings] at hk

end Token

namespace Cursor

def skip (c : Cursor) (n : Nat) : Cursor := ⟨c.length, c.offset + n, c.rest.drop n⟩

@[simp] theorem skip_rest (c : Cursor) (n : Nat) : (c.skip n).rest = c.rest.drop n := rfl

@[simp] theorem skip_zero (c : Cursor) : c.skip 0 = c := by simp [skip]

theorem skip_skip (c : Cursor) (m n : Nat) : (c.skip m).skip n = c.skip (m + n) := by
  simp [skip, Nat.add_assoc]

theorem skip_ofText (t : Text) (m n : Nat) : (ofText t m).skip n = ofText t (m + n) := by
  simp [ofText, skip]

theorem ofText_rest_append (s t : Text) : (ofText (s ++ t) s.length).rest = t := by
  simp [ofText]

theorem rest_skip_of_append {c : Cursor} {x y : Text} (h : c.rest = x ++ y) :
    (c.skip x.length).rest = y := by
  simp [h]

theorem peek_eq_front {c : Cursor} (h : c.rest ≠ []) : c.peek = Token.front c.offset c.rest := by
  simp [peek, h]

theorem peek_text_prefix (c : Cursor) : c.peek.text <+: c.rest := by
  by_cases h : c.rest = []
  · simp [peek, h]
  · rw [peek_eq_front h]
    exact Token.front_text_prefix _ _

theorem front_stop (n : Nat) (u : Text) :
    (Token.front n u).stop = n + (Token.front n u).text.length := by
  unfold Token.front
  split
  · rfl
  · split <;> rfl

theorem advance_eq_skip {c : Cursor} (h : c.rest ≠ []) : c.advance = c.skip c.peek.text.length := by
  simp only [advance, skip, peek_eq_front h, front_stop]

theorem rest_ne_nil_of_spelling {c : Cursor} {k : TokenKind} {d r : Text} (hd : d ∈ k.spellings)
    (h : c.rest = d ++ r) : c.rest ≠ [] := by
  intro he
  rw [he] at h
  have hdel := TokenKind.delimiter?_append hd r
  rw [← h] at hdel
  simp [TokenKind.delimiter?] at hdel

theorem peek_delimiter {c : Cursor} {k : TokenKind} {d r : Text} (hd : d ∈ k.spellings)
    (h : c.rest = d ++ r) : c.peek = ⟨k, d, c.offset, c.offset + d.length⟩ := by
  rw [peek_eq_front (rest_ne_nil_of_spelling hd h), h, Token.front_delimiter hd]

theorem advance_delimiter {c : Cursor} {k : TokenKind} {d r : Text} (hd : d ∈ k.spellings)
    (h : c.rest = d ++ r) : c.advance = c.skip d.length := by
  rw [advance_eq_skip (rest_ne_nil_of_spelling hd h), peek_delimiter hd h]

theorem sees_nil (c : Cursor) : c.sees [] = true := by simp [sees, peekMany]

theorem sees_cons (c : Cursor) (k : TokenKind) (ks : List TokenKind) :
    c.sees (k :: ks) = true ↔ c.peek.kind = k ∧ c.advance.sees ks = true := by
  simp [sees, peekMany]

theorem sees_append {c : Cursor} {ks ks' : List TokenKind} {d r : Text}
    (hd : d ∈ TokenKind.spell ks) (h : c.rest = d ++ r) :
    c.sees (ks ++ ks') = (c.skip d.length).sees ks' := by
  induction ks generalizing c d with
  | nil =>
    obtain rfl := List.mem_singleton.mp hd
    simp
  | cons k ks ih =>
    simp only [TokenKind.spell, List.mem_flatMap, List.mem_map] at hd
    obtain ⟨d₁, hd₁, d₂, hd₂, rfl⟩ := hd
    rw [List.append_assoc] at h
    rw [List.cons_append, Bool.eq_iff_iff, sees_cons, peek_delimiter hd₁ h, advance_delimiter hd₁ h,
      ih hd₂ (rest_skip_of_append h), skip_skip, List.length_append]
    simp

/-- Delimiters stand next exactly if one of their spellings does. -/
theorem sees_iff_spell {ks : List TokenKind} (hk : ∀ k ∈ ks, k.isDelimiter = true) (c : Cursor) :
    c.sees ks = true ↔ ∃ d ∈ TokenKind.spell ks, d <+: c.rest := by
  induction ks generalizing c with
  | nil => simp [sees_nil, TokenKind.spell]
  | cons k ks ih =>
    have hks : ∀ k ∈ ks, k.isDelimiter = true := fun k h => hk k (List.mem_cons_of_mem _ h)
    rw [sees_cons, ih hks]
    simp only [TokenKind.spell, List.mem_flatMap, List.mem_map]
    constructor
    · rintro ⟨hkind, d, hd, r, hr⟩
      have hne : c.rest ≠ [] := by
        intro he
        have hdel := hk k List.mem_cons_self
        rw [← hkind] at hdel
        simp [peek, he, TokenKind.isDelimiter, TokenKind.spellings] at hdel
      rw [peek_eq_front hne] at hkind
      have hmem := Token.mem_spellings_of_front (hk k List.mem_cons_self) hkind
      rw [← peek_eq_front hne] at hmem
      refine ⟨_, ⟨c.peek.text, hmem, d, hd, rfl⟩, r, ?_⟩
      obtain ⟨r', hr'⟩ := c.peek_text_prefix
      have hadv : c.advance.rest = c.rest.drop c.peek.text.length := rfl
      rw [hadv, ← hr', List.drop_left] at hr
      rw [List.append_assoc, hr, hr']
    · rintro ⟨_, ⟨d₁, hd₁, d, hd, rfl⟩, r, hr⟩
      have hrest : c.rest = d₁ ++ (d ++ r) := by rw [← hr, List.append_assoc]
      have hp := peek_delimiter hd₁ hrest
      refine ⟨by rw [hp], d, hd, r, ?_⟩
      have hadv : c.advance.rest = c.rest.drop c.peek.text.length := rfl
      rw [hadv, hp, hrest, List.drop_left]

end Cursor

end Weave
