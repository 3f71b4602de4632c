import Weave.Proofs.Token.Places

/-!
# Tokens and line ends

A text without carriage returns, and the same text with one in front of each line feed, are cut into the
same tokens, except that every newline is written with two characters in the second.
-/

set_option autoImplicit false

namespace Weave

namespace Text

/-- The text with a carriage return in front of each line feed. -/
def withReturns (t : Text) : Text := t.flatMap fun c => if c = '\n' then ['\r', '\n'] else [c]

@[simp] theorem withReturns_nil : withReturns [] = [] := rfl

@[simp] theorem withReturns_append (t u : Text) :
    (t ++ u).withReturns = t.withReturns ++ u.withReturns := List.flatMap_append

theorem withReturns_newline (t : Text) :
    Text.withReturns ('\n' :: t) = '\r' :: '\n' :: t.withReturns := rfl

theorem withReturns_cons {c : Char} (hc : c ≠ '\n') (t : Text) :
    Text.withReturns (c :: t) = c :: t.withReturns := by
  simp [withReturns, hc]

theorem withReturns_eq_nil_iff {t : Text} : t.withReturns = [] ↔ t = [] := by
  cases t with
  | nil => simp
  | cons c t =>
    by_cases hc : c = '\n'
    · subst hc
      simp [withReturns_newline]
    · simp [withReturns_cons hc]

theorem withReturns_of_not_mem {t : Text} (h : '\n' ∉ t) : t.withReturns = t := by
  induction t with
  | nil => rfl
  | cons c t ih =>
    obtain ⟨hc, ht⟩ : '\n' ≠ c ∧ '\n' ∉ t := by simpa using h
    rw [withReturns_cons hc.symm, ih ht]

/-- Where a position of a text lies when there is a carriage return in front of each line feed. -/
def placeWithReturns (t : Text) (n : Nat) : Nat := (withReturns (t.take n)).length

theorem placeWithReturns_append (x y : Text) :
    placeWithReturns (x ++ y) x.length = x.withReturns.length := by
  simp [placeWithReturns]

theorem placeWithReturns_length (t : Text) : placeWithReturns t t.length = t.withReturns.length := by
  simp [placeWithReturns]

end Text

/-! ### The token at the front -/

namespace TokenKind

theorem delimiter?_cons {c : Char} (hc : c ≠ '\r') (r : Text) :
    delimiter? (c :: r) = (ofChar? c).map fun k => (k, [c]) := by
  unfold delimiter?
  split
  · next h => cases h
  · next h => exact absurd (List.cons.inj h).1 hc
  · next h =>
    obtain ⟨rfl, rfl⟩ := List.cons.inj h
    rfl

theorem delimiter?_withReturns {u : Text} (hu : '\r' ∉ u) :
    delimiter? u.withReturns = (delimiter? u).map fun (k, d) => (k, d.withReturns) := by
  cases u with
  | nil => rfl
  | cons c r =>
    obtain ⟨hc, -⟩ : '\r' ≠ c ∧ '\r' ∉ r := by simpa using hu
    by_cases hn : c = '\n'
    · subst hn
      rfl
    · have hchar : Text.withReturns [c] = [c] := Text.withReturns_cons hn []
      rw [Text.withReturns_cons hn, delimiter?_cons hc.symm, delimiter?_cons hc.symm, Option.map_map]
      simp only [Function.comp_def, hchar]

end TokenKind

namespace Token

theorem wordAt_withReturns {u : Text} (hu : '\r' ∉ u) :
    wordAt u.withReturns = (wordAt u).withReturns := by
  induction u with
  | nil => rfl
  | cons c r ih =>
    have hdel := TokenKind.delimiter?_withReturns hu
    obtain ⟨-, hr⟩ : '\r' ≠ c ∧ '\r' ∉ r := by simpa using hu
    by_cases hn : c = '\n'
    · subst hn
      rfl
    · rw [Text.withReturns_cons hn] at hdel ⊢
      rw [wordAt, wordAt, hdel, Option.isSome_map]
      split
      · rfl
      · rw [ih hr, Text.withReturns_cons hn]

theorem front_withReturns {u : Text} (hu : '\r' ∉ u) (m n : Nat) :
    (front m u.withReturns).kind = (front n u).kind ∧
      (front m u.withReturns).text = (front n u).text.withReturns := by
  cases u with
  | nil => exact ⟨rfl, rfl⟩
  | cons c r =>
    have hdel := TokenKind.delimiter?_withReturns hu
    obtain ⟨a, s, hs⟩ : ∃ a s, Text.withReturns (c :: r) = a :: s :=
      List.exists_cons_of_ne_nil fun h => by simp [Text.withReturns_eq_nil_iff] at h
    rw [hs] at hdel
    have hword := wordAt_withReturns hu
    rw [hs] at hword ⊢
    cases hd : TokenKind.delimiter? (c :: r) with
    | some p =>
      rw [hd] at hdel
      simp [front, hd, hdel]
    | none =>
      rw [hd] at hdel
      simp [front, hd, hdel, hword]

def withReturns (t : Text) (k : Token) : Token :=
  ⟨k.kind, k.text.withReturns, t.placeWithReturns k.start, t.placeWithReturns k.stop⟩

@[simp] theorem withReturns_kind (t : Text) (k : Token) : (k.withReturns t).kind = k.kind := rfl

@[simp] theorem withReturns_text (t : Text) (k : Token) :
    (k.withReturns t).text = k.text.withReturns := rfl

end Token

/-! ### Cursors -/

namespace Cursor

def withReturns (t : Text) (c : Cursor) : Cursor :=
  ⟨t.withReturns.length, t.placeWithReturns c.offset, c.rest.withReturns⟩

@[simp] theorem withReturns_rest (t : Text) (c : Cursor) :
    (c.withReturns t).rest = c.rest.withReturns := rfl

theorem withReturns_start (t : Text) : (start t).withReturns t = start t.withReturns := by
  simp [start, ofText, withReturns, Text.placeWithReturns]

variable {t : Text} {c : Cursor}

theorem On.return_not_mem (h : c.On t) (ht : '\r' ∉ t) : '\r' ∉ c.rest := by
  obtain ⟨x, hx, -⟩ := h.split
  intro hm
  exact ht (hx ▸ List.mem_append_right x hm)

theorem On.place_add (h : c.On t) {d r : Text} (hd : c.rest = d ++ r) :
    t.placeWithReturns (c.offset + d.length) =
      t.placeWithReturns c.offset + d.withReturns.length := by
  obtain ⟨x, hx, ho⟩ := h.split
  have hleft : t = (x ++ d) ++ r := by rw [hx, hd, List.append_assoc]
  rw [ho, ← List.length_append]
  conv => lhs; rw [hleft, Text.placeWithReturns_append]
  conv => rhs; rw [hx, Text.placeWithReturns_append]
  rw [Text.withReturns_append, List.length_append]

theorem On.skip_withReturns (h : c.On t) {d r : Text} (hd : c.rest = d ++ r) :
    (c.skip d.length).withReturns t = (c.withReturns t).skip d.withReturns.length := by
  simp only [withReturns, rest_skip_of_append hd]
  simp only [Cursor.skip, h.place_add hd, hd, Text.withReturns_append, List.drop_left]

theorem On.on_withReturns (h : c.On t) : (c.withReturns t).On t.withReturns := by
  obtain ⟨x, hx, ho⟩ := h.split
  refine ⟨rfl, x.withReturns, ?_, ?_⟩
  · conv => lhs; rw [hx, Text.withReturns_append]
    rfl
  · simp only [Cursor.withReturns, ho]
    conv => lhs; rw [hx, Text.placeWithReturns_append]

section
variable (ht : '\r' ∉ t)
include ht

theorem On.peek_withReturns (h : c.On t) : (c.withReturns t).peek = c.peek.withReturns t := by
  by_cases hc : c.rest = []
  · simp [peek, withReturns, Token.withReturns, hc, h.length, Text.placeWithReturns_length]
  · have hc' : (c.withReturns t).rest ≠ [] := fun he => hc (Text.withReturns_eq_nil_iff.mp he)
    obtain ⟨hkind, htext⟩ := Token.front_withReturns (h.return_not_mem ht)
      (c.withReturns t).offset c.offset
    have hstop := h.place_add c.rest_eq_peek_text_append
    rw [peek_eq_front hc] at hstop ⊢
    rw [peek_eq_front hc', withReturns_rest, Token.front_eq, hkind, htext, Token.front_eq c.offset]
    simp only [Token.withReturns, hstop]
    rfl

theorem On.advance_withReturns (h : c.On t) :
    (c.withReturns t).advance = c.advance.withReturns t := by
  rw [h.on_withReturns.advance_eq_skip, h.peek_withReturns ht, h.advance_eq_skip,
    h.skip_withReturns c.rest_eq_peek_text_append, Token.withReturns_text]

theorem On.sees_withReturns (h : c.On t) (ks : List TokenKind) :
    (c.withReturns t).sees ks = c.sees ks := by
  induction ks generalizing c with
  | nil => simp [sees_nil]
  | cons k ks ih =>
    rw [Bool.eq_iff_iff, sees_cons, sees_cons, h.peek_withReturns ht, h.advance_withReturns ht,
      ih h.advance, Token.withReturns_kind]

def placedWithReturns (t : Text) (r : Token × Cursor) : Token × Cursor :=
  (r.1.withReturns t, r.2.withReturns t)

theorem On.tokens_withReturns (h : c.On t) :
    (c.withReturns t).tokens = c.tokens.map (placedWithReturns t) := by
  induction c using Cursor.tokens.induct with
  | case1 c hc => rw [tokens_of_rest_nil hc, tokens_of_rest_nil (by simp [hc])]; rfl
  | case2 c hc ih =>
    have hc' : (c.withReturns t).rest ≠ [] := fun he => hc (Text.withReturns_eq_nil_iff.mp he)
    rw [tokens_of_rest_ne_nil hc, tokens_of_rest_ne_nil hc', h.peek_withReturns ht,
      h.advance_withReturns ht, ih h.advance]
    rfl

end

end Cursor

end Weave
