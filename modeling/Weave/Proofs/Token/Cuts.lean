import Mathlib.Data.List.Chain
import Mathlib.Data.List.Infix
import Weave.Proofs.Document.Taking

/-!
# Texts cut into tokens

There is one way only to cut a text into delimiters and words such that no two words stand side by
side and no newline is torn apart, and the tokens of a text are these. Nothing is lost between them:
each begins where the one in front of it stops, and the last one stands at the end of the text.
-/

set_option autoImplicit false

namespace Weave

/-! ### Token.Cuts -/

def Token.atEnd (n : Nat) : Token := ⟨.finish, [], n, n⟩

/-- How a token belongs to a text. -/
structure Token.Fits (t : Text) (a : Token) : Prop where
  /-- Its text is what stands between its ends. -/
  span : ∃ x y, t = x ++ a.text ++ y ∧ a.start = x.length ∧ a.stop = (x ++ a.text).length
  /-- It is a word without a delimiter in it, or a delimiter of its kind. -/
  shape : (a.kind = .word ∧ a.text ≠ [] ∧ ∀ k : TokenKind, ∀ d ∈ k.spellings, ¬ d <:+: a.text) ∨
    a.text ∈ a.kind.spellings
  /-- A carriage return directly before a line feed belongs to a newline. -/
  whole : a.kind = .word → ∀ i, a.start ≤ i → i < a.stop → t[i]? = some '\r' → t[i + 1]? ≠ some '\n'

/-- The one token stops where the other one starts, and they are not both words. -/
def Token.Adjoins (a b : Token) : Prop := a.stop = b.start ∧ ¬ (a.kind = .word ∧ b.kind = .word)

/-- The text is cut into these tokens. -/
structure Token.Cuts (t : Text) (ts : List Token) : Prop where
  flatten : ts.flatMap Token.text = t
  fits : ∀ a ∈ ts, a.Fits t
  start : ∀ a ∈ (ts ++ [Token.atEnd t.length]).head?, a.start = 0
  chain : (ts ++ [Token.atEnd t.length]).IsChain Token.Adjoins

/-- These tokens stand one behind the other in a text that starts at an offset. -/
inductive Token.Row : Nat → Text → List Token → Prop
  | nil (n : Nat) : Token.Row n [] []
  | delimiter {n : Nat} {k : TokenKind} {d r : Text} {ts : List Token} (hd : d ∈ k.spellings)
      (h : Token.Row (n + d.length) r ts) : Token.Row n (d ++ r) (⟨k, d, n, n + d.length⟩ :: ts)
  | word {n : Nat} {w r : Text} {ts : List Token} (hw : IsWord w) (hb : Boundary w r)
      (h : Token.Row (n + w.length) r ts) : Token.Row n (w ++ r) (⟨.word, w, n, n + w.length⟩ :: ts)

/-! ### Words -/

theorem Boundary.cons {a : Char} {x y : Text} (h : Boundary x y)
    (ha : x = [] → TokenKind.delimiter? (a :: y) = none) : Boundary (a :: x) y := by
  rcases h with rfl | ⟨hd, hr⟩
  · exact .inl rfl
  · refine .inr ⟨hd, ?_⟩
    rintro ⟨hreturn, r, hr'⟩
    rcases List.suffix_cons_iff.mp hreturn with heq | hsuffix
    · obtain ⟨rfl, rfl⟩ := List.cons.inj heq
      have hnone := ha rfl
      rw [← hr'] at hnone
      cases hnone
    · exact hr ⟨hsuffix, r, hr'⟩

/-- A word goes on up to where a token may end. -/
theorem boundary_wordAt (u : Text) : Boundary (Token.wordAt u) (u.drop (Token.wordAt u).length) := by
  induction u with
  | nil => exact .inl rfl
  | cons c r ih =>
    by_cases hc : (TokenKind.delimiter? (c :: r)).isSome
    · rw [Token.wordAt, if_pos hc]
      exact .inr ⟨hc, fun h => by simp at h⟩
    · rw [Token.wordAt, if_neg hc, List.length_cons, List.drop_succ_cons]
      apply ih.cons
      intro hnil
      rw [hnil, List.length_nil, List.drop_zero]
      simpa using hc

/-- A text that no delimiter begins begins with a word. -/
theorem exists_word {u : Text} (hne : u ≠ []) (hd : TokenKind.delimiter? u = none) :
    ∃ w r, u = w ++ r ∧ IsWord w ∧ Boundary w r := by
  refine ⟨Token.wordAt u, u.drop (Token.wordAt u).length, ?_, ⟨?_, Token.ofChar?_of_mem_wordAt⟩,
    boundary_wordAt u⟩
  · exact (List.prefix_iff_eq_append.mp (Token.wordAt_prefix u)).symm
  · obtain ⟨c, r, rfl⟩ := List.exists_cons_of_ne_nil hne
    exact List.length_pos_iff.mp (Token.wordAt_length_pos hd)

/-- A word has no delimiter in it. -/
theorem isWord_iff {w : Text} :
    IsWord w ↔ w ≠ [] ∧ ∀ k : TokenKind, ∀ d ∈ k.spellings, ¬ d <:+: w := by
  have hmarks : ∀ k : TokenKind, ∀ d ∈ k.spellings, d.any fun c => (TokenKind.ofChar? c).isSome := by
    intro k
    cases k <;> decide
  constructor
  · rintro ⟨hne, hw⟩
    refine ⟨hne, ?_⟩
    intro k d hd hin
    obtain ⟨c, hc, hsome⟩ := List.any_eq_true.mp (hmarks k d hd)
    rw [hw c (hin.subset hc)] at hsome
    cases hsome
  · rintro ⟨hne, hw⟩
    refine ⟨hne, ?_⟩
    intro c hc
    cases hk : TokenKind.ofChar? c with
    | none => rfl
    | some k => exact absurd (List.singleton_infix_iff _ _ |>.mpr hc) (hw k [c] (TokenKind.eq_of_ofChar? hk))

theorem newline_not_mem {w : Text} (h : IsWord w) : '\n' ∉ w := by
  intro hmem
  have hnone := h.2 '\n' hmem
  cases hnone

/-- A newline is torn apart only at the end of a part that has no line feed. -/
theorem forall_not_newline_iff {x w r : Text} (hw : '\n' ∉ w) :
    (∀ i, x.length ≤ i → i < x.length + w.length → (x ++ (w ++ r))[i]? = some '\r' →
      (x ++ (w ++ r))[i + 1]? ≠ some '\n') ↔ ¬ (['\r'] <:+ w ∧ ['\n'] <+: r) := by
  constructor
  · rintro h ⟨⟨v, rfl⟩, z, rfl⟩
    refine h (x.length + v.length) (by omega) (by simp) ?_ ?_
    · rw [List.getElem?_append_right (by omega)]
      simp
    · rw [List.getElem?_append_right (by omega)]
      have hbehind : x.length + v.length + 1 - x.length = (v ++ ['\r']).length := by
        rw [List.length_append, List.length_singleton]
        omega
      rw [hbehind, List.getElem?_append_right (Nat.le_refl _)]
      simp
  · intro h i hstart hstop hreturn hfeed
    rw [List.getElem?_append_right hstart] at hreturn
    rw [List.getElem?_append_right (Nat.le_succ_of_le hstart)] at hfeed
    obtain ⟨j, rfl⟩ := Nat.exists_eq_add_of_le hstart
    rw [Nat.add_sub_cancel_left, List.getElem?_append_left (by omega)] at hreturn
    rw [Nat.succ_eq_add_one, Nat.add_assoc, Nat.add_sub_cancel_left] at hfeed
    by_cases hlast : j + 1 < w.length
    · rw [List.getElem?_append_left hlast] at hfeed
      exact hw (List.mem_of_getElem? hfeed)
    · have hlen : w.length = j + 1 := by omega
      rw [← hlen, List.getElem?_append_right (Nat.le_refl _), Nat.sub_self] at hfeed
      have hend : w.getLast? = some '\r' := by
        rw [List.getLast?_eq_getElem?, hlen, Nat.add_sub_cancel]
        exact hreturn
      obtain ⟨v, rfl⟩ := List.getLast?_eq_some_iff.mp hend
      rw [← List.head?_eq_getElem?] at hfeed
      obtain ⟨z, rfl⟩ := List.head?_eq_some_iff.mp hfeed
      exact h ⟨List.suffix_append v ['\r'], z, rfl⟩

/-! ### Rows -/

namespace Token.Row

variable {n : Nat} {r x : Text} {ts : List Token}

theorem flatten (h : Token.Row n r ts) : ts.flatMap Token.text = r := by
  induction h with
  | nil => rfl
  | delimiter _ _ ih => rw [List.flatMap_cons, ih]
  | word _ _ _ ih => rw [List.flatMap_cons, ih]

/-- Where a token may end, no word begins. -/
theorem head_ne_word (h : Token.Row n r ts) (hb : Boundary x r) : ∀ a ∈ ts.head?, a.kind ≠ .word := by
  cases h with
  | nil => simp
  | @delimiter _ k d r ts hd h =>
    rintro a ⟨⟩ hk
    dsimp only at hk
    subst hk
    cases hd
  | @word _ w r ts hw hb' h =>
    obtain ⟨c, w, rfl⟩ := List.exists_cons_of_ne_nil hw.1
    have hnone := Token.delimiter?_eq_none hw.2 hb'
    rcases hb with hnil | ⟨hsome, -⟩
    · cases hnil
    · rw [hnone] at hsome
      cases hsome

theorem fits (h : Token.Row n r ts) (hx : x.length = n) : ∀ a ∈ ts, a.Fits (x ++ r) := by
  induction h generalizing x with
  | nil => simp
  | @delimiter n k d r ts hd h ih =>
    subst hx
    rintro a ha
    rcases List.mem_cons.mp ha with rfl | ha
    · refine ⟨⟨x, r, by rw [List.append_assoc], rfl, by rw [List.length_append]⟩, .inr hd, ?_⟩
      rintro rfl
      cases hd
    · rw [← List.append_assoc]
      exact ih (List.length_append) a ha
  | @word n w r ts hw hb h ih =>
    subst hx
    rintro a ha
    rcases List.mem_cons.mp ha with rfl | ha
    · obtain ⟨hne, hfree⟩ := isWord_iff.mp hw
      refine ⟨⟨x, r, by rw [List.append_assoc], rfl, by rw [List.length_append]⟩,
        .inl ⟨rfl, hne, hfree⟩, ?_⟩
      intro _
      apply (forall_not_newline_iff (newline_not_mem hw)).mpr
      rintro ⟨hreturn, hfeed⟩
      rcases hb with rfl | ⟨-, hcut⟩
      · simp at hfeed
      · exact hcut ⟨hreturn, hfeed⟩
    · rw [← List.append_assoc]
      exact ih List.length_append a ha

theorem start (h : Token.Row n r ts) : ∀ a ∈ (ts ++ [Token.atEnd (n + r.length)]).head?, a.start = n := by
  cases h with
  | nil => rintro a ⟨⟩; rfl
  | delimiter => rintro a ⟨⟩; rfl
  | word => rintro a ⟨⟩; rfl

theorem chain (h : Token.Row n r ts) : (ts ++ [Token.atEnd (n + r.length)]).IsChain Token.Adjoins := by
  induction h with
  | nil => exact .singleton _
  | @delimiter n k d r ts hd h ih =>
    have hstart := h.start
    rw [List.length_append, ← Nat.add_assoc, List.cons_append, List.isChain_cons]
    refine ⟨?_, ih⟩
    intro b hb
    refine ⟨(hstart b hb).symm, ?_⟩
    rintro ⟨rfl, -⟩
    cases hd
  | @word n w r ts hw hb h ih =>
    have hstart := h.start
    rw [List.length_append, ← Nat.add_assoc, List.cons_append, List.isChain_cons]
    refine ⟨?_, ih⟩
    intro b hb'
    refine ⟨(hstart b hb').symm, ?_⟩
    rintro ⟨-, hkind⟩
    cases ts with
    | nil =>
      cases hb'
      cases hkind
    | cons a ts => exact h.head_ne_word hb b hb' hkind

theorem cuts (h : Token.Row 0 r ts) : Token.Cuts r ts := by
  have hstart := h.start
  have hchain := h.chain
  rw [Nat.zero_add] at hstart hchain
  exact ⟨h.flatten, h.fits (x := []) rfl, hstart, hchain⟩

/-- Tokens that fit into a text and adjoin each other stand one behind the other. -/
theorem of_fits {t x r : Text} {ts : List Token} (ht : t = x ++ r) (hflat : ts.flatMap Token.text = r)
    (hfits : ∀ a ∈ ts, a.Fits t) (hstart : ∀ a ∈ (ts ++ [Token.atEnd t.length]).head?, a.start = x.length)
    (hchain : (ts ++ [Token.atEnd t.length]).IsChain Token.Adjoins) : Token.Row x.length r ts := by
  induction ts generalizing x r with
  | nil =>
    subst hflat
    exact .nil _
  | cons a ts ih =>
    obtain ⟨k, w, m, e⟩ := a
    rw [List.cons_append, List.isChain_cons] at hchain
    obtain ⟨hnext, hchain⟩ := hchain
    obtain rfl : m = x.length := hstart _ rfl
    obtain ⟨⟨x', y, ht', hlen, hstop⟩, hshape, hwhole⟩ := hfits _ List.mem_cons_self
    dsimp only at ht' hlen hstop hshape hwhole
    obtain rfl : e = x.length + w.length := by rw [hstop, List.length_append, ← hlen]
    subst hflat
    rw [List.flatMap_cons] at ht ⊢
    dsimp only at ht ⊢
    have hlater : Token.Row (x ++ w).length (ts.flatMap Token.text) ts := by
      refine ih (by rw [ht, List.append_assoc]) rfl ?_ ?_ hchain
      · intro b hb
        exact hfits b (List.mem_cons_of_mem _ hb)
      · intro b hb
        rw [List.length_append]
        exact (hnext b hb).1.symm
    rw [List.length_append] at hlater
    rcases hshape with ⟨rfl, hne, hfree⟩ | hd
    · have hw : IsWord w := isWord_iff.mpr ⟨hne, hfree⟩
      refine .word hw ?_ hlater
      cases ts with
      | nil => exact .inl rfl
      | cons b ts =>
        have hword : b.kind ≠ .word := fun hkind => (hnext b rfl).2 ⟨rfl, hkind⟩
        have hb := (hfits b (by simp)).shape.resolve_left fun h => hword h.1
        subst ht
        refine .inr ⟨?_, (forall_not_newline_iff (newline_not_mem hw)).mp (hwhole rfl)⟩
        rw [List.flatMap_cons, TokenKind.delimiter?_append hb]
        rfl
    · exact .delimiter hd hlater

end Token.Row

theorem row_of_cuts {t : Text} {ts : List Token} (h : Token.Cuts t ts) : Token.Row 0 t ts :=
  Token.Row.of_fits (x := []) rfl h.flatten h.fits h.start h.chain

/-! ### Tokens -/

namespace Cursor

variable {c : Cursor} {ts : List Token}

theorem row_tokens (c : Cursor) : Token.Row c.offset c.rest (c.tokens.map Prod.fst) := by
  induction c using tokens.induct with
  | case1 c hc =>
    rw [tokens_of_rest_nil hc, hc]
    exact .nil _
  | case2 c hc ih =>
    rw [tokens_of_rest_ne_nil hc, List.map_cons]
    cases hd : TokenKind.delimiter? c.rest with
    | some kd =>
      obtain ⟨k, d⟩ := kd
      obtain ⟨hmem, r, hr⟩ := TokenKind.mem_spellings_of_delimiter? hd
      rw [advance_delimiter hmem hr.symm] at ih ⊢
      rw [peek_delimiter hmem hr.symm, ← hr]
      rw [rest_skip_of_append hr.symm] at ih
      exact .delimiter hmem ih
    | none =>
      obtain ⟨w, r, hr, hw, hb⟩ := exists_word hc hd
      rw [Document.advance_of_word hw hr hb] at ih ⊢
      rw [Document.peek_word hw hr hb, hr]
      rw [rest_skip_of_append hr] at ih
      exact .word hw hb ih

/-- There is no other such row. -/
theorem tokens_of_row {n : Nat} {r : Text} {ts : List Token} (h : Token.Row n r ts) {c : Cursor}
    (hn : c.offset = n) (hr : c.rest = r) : c.tokens.map Prod.fst = ts := by
  induction h generalizing c with
  | nil => rw [tokens_of_rest_nil hr, List.map_nil]
  | @delimiter n k d r ts hd h ih =>
    subst hn
    rw [tokens_of_rest_ne_nil (rest_ne_nil_of_spelling hd hr), List.map_cons, peek_delimiter hd hr,
      advance_delimiter hd hr, ih rfl (rest_skip_of_append hr)]
  | @word n w r ts hw hb h ih =>
    subst hn
    have hne : c.rest ≠ [] := by
      rw [hr]
      exact List.append_ne_nil_of_left_ne_nil hw.1 r
    rw [tokens_of_rest_ne_nil hne, List.map_cons, Document.peek_word hw hr hb,
      Document.advance_of_word hw hr hb, ih rfl (rest_skip_of_append hr)]

/-- Behind the last token there is only the one at the end. -/
theorem peekMany_eq {m n : Nat} (h : n ≤ m) (c : Cursor) :
    c.peekMany n = (c.tokens.map Prod.fst ++ List.replicate m (Token.atEnd c.length)).take n := by
  induction n generalizing c with
  | zero => rfl
  | succ n ih =>
    rw [peekMany, ih (Nat.le_of_succ_le h)]
    by_cases hc : c.rest = []
    · have hadvance : c.advance.rest = [] := by simp [advance, hc]
      have hpeek : c.peek = Token.atEnd c.length := by simp [peek, hc, Token.atEnd]
      rw [tokens_of_rest_nil hc, tokens_of_rest_nil hadvance, List.map_nil, List.nil_append,
        List.nil_append, List.take_replicate, List.take_replicate, Nat.min_eq_left h,
        Nat.min_eq_left (Nat.le_of_succ_le h), List.replicate_succ, hpeek]
      rfl
    · rw [tokens_of_rest_ne_nil hc, List.map_cons, List.cons_append, List.take_succ_cons]
      rfl

theorem peekMany_of_le {n : Nat} (h : n ≤ c.kinds.length) :
    c.peekMany n = (c.tokens.map Prod.fst).take n := by
  rw [kinds, List.length_map] at h
  rw [peekMany_eq (Nat.le_refl n), List.take_append_of_le_length]
  rwa [List.length_map]

theorem sees_iff_prefix_filled {ks : List TokenKind} {m : Nat} (h : ks.length ≤ m) (c : Cursor) :
    c.sees ks = true ↔ ks <+: c.kinds ++ List.replicate m TokenKind.finish := by
  have hkinds : (c.peekMany ks.length).map Token.kind
      = (c.kinds ++ List.replicate m TokenKind.finish).take ks.length := by
    rw [peekMany_eq h, List.map_take, List.map_append, List.map_map, List.map_replicate]
    rfl
  rw [sees, decide_eq_true_eq, hkinds, List.prefix_iff_eq_take]
  exact eq_comm

theorem sees_of_prefix_kinds {ks : List TokenKind} (h : ks <+: c.kinds) : c.sees ks = true :=
  (sees_iff_prefix_filled (Nat.le_refl _) c).mpr (h.trans (List.prefix_append _ _))

end Cursor

/-- The tokens of a text are those into which it can be cut; behind them stands the one at its end. -/
theorem Token.all_cut (t : Text) :
    ∃ ts, Token.all t = ts ++ [Token.atEnd t.length] ∧
      (Cursor.start t).peekMany (ts.length + 1) = Token.all t ∧ (∀ a ∈ ts, a.kind ≠ .finish) ∧
      ∀ us, Token.Cuts t us ↔ us = ts := by
  have hrow := (Cursor.start t).row_tokens
  refine ⟨(Cursor.start t).tokens.map Prod.fst, rfl, ?_, ?_, ?_⟩
  · rw [Cursor.peekMany_eq (Nat.le_refl _), List.take_length_add_append]
    rfl
  · intro a ha hkind
    rcases (hrow.cuts.fits a ha).shape with ⟨hword, -⟩ | hmem
    · rw [hkind] at hword
      cases hword
    · rw [hkind] at hmem
      cases hmem
  · intro us
    constructor
    · intro hcuts
      exact (Cursor.tokens_of_row (row_of_cuts hcuts) rfl rfl).symm
    · rintro rfl
      exact hrow.cuts

/-- Of two carriage returns in a row the second one belongs to the newline. -/
example : Token.all ['\r', '\r', '\n'] =
    [⟨.word, ['\r'], 0, 1⟩, ⟨.newline, ['\r', '\n'], 1, 3⟩, Token.atEnd 3] := by
  cbv

end Weave
