import Weave.Proofs.Document.Spelling
import Weave.Proofs.Text.Cutting

/-!
# Searching texts

A search reads all up to the first place of the text at which one of the sequences is spelled. It
notices a sequence only when the last of its tokens has been read, so none of the sequences may be a
part of another one.
-/

set_option autoImplicit false

namespace Weave

namespace TokenKind

/-- One of the sequences stands at the front of the kinds. -/
def Occurs (bs : List (List TokenKind)) (ks : List TokenKind) : Prop := ∃ b ∈ bs, b <+: ks

/-- One of the sequences is spelled at the front of a text. -/
def Breaks (bs : List (List TokenKind)) (u : Text) : Prop :=
  ∃ b ∈ bs, ∃ d ∈ spell b, d <+: u

/-- Sequences of delimiters, none of which is a part of another one. -/
structure Separable (bs : List (List TokenKind)) : Prop where
  ne_nil : ∀ b ∈ bs, b ≠ []
  isDelimiter : ∀ b ∈ bs, ∀ k ∈ b, k.isDelimiter = true
  eq_of_infix : ∀ b ∈ bs, ∀ b' ∈ bs, b' <:+: b → b' = b

/-- The sequence that ends first is the one that starts first. -/
theorem Separable.eq_of_suffix {bs : List (List TokenKind)} (hbs : Separable bs)
    {x b v p b' : List TokenKind} (hx : ClearOf (Occurs bs) x (b ++ v)) (hb : b ∈ bs)
    (hb' : b' ∈ bs) (hp : p <+: x ++ b) (hs : b' <:+ p) : p = x ++ b ∧ b' = b := by
  obtain ⟨s, rfl⟩ := hs
  obtain ⟨w, hw⟩ := hp
  rw [List.append_assoc] at hw
  rcases List.append_eq_append_iff.mp hw with ⟨q, hq, hq'⟩ | ⟨s', rfl, hs'⟩
  · by_cases hne : q = []
    · subst hne
      simp only [List.append_nil] at hq
      simp only [List.nil_append] at hq'
      have he := hbs.eq_of_infix b hb b' hb' ⟨[], w, by simpa using hq'⟩
      exact ⟨by rw [hq, he], he⟩
    · have hocc : Occurs bs (q ++ (b ++ v)) := by
        refine ⟨b', hb', w ++ v, ?_⟩
        rw [← List.append_assoc, hq', List.append_assoc]
      exact absurd hocc (hx q ⟨s, hq.symm⟩ hne)
  · have he := hbs.eq_of_infix b hb b' hb' ⟨s', w, by rw [hs', List.append_assoc]⟩
    subst he
    have hlen := congrArg List.length hs'
    simp only [List.length_append] at hlen
    obtain rfl : s' = [] := List.length_eq_zero_iff.mp (by omega)
    exact ⟨by simp, rfl⟩

/-- Without a sequence in the rest nothing ends, either. -/
theorem Separable.not_suffix {bs : List (List TokenKind)} (hbs : Separable bs)
    {x p b' : List TokenKind} (hx : ClearOf (Occurs bs) x []) (hb' : b' ∈ bs) (hp : p <+: x) :
    ¬ b' <:+ p := by
  rintro ⟨s, rfl⟩
  obtain ⟨w, rfl⟩ := hp
  refine hx (b' ++ w) ⟨s, by simp⟩ (by simp [hbs.ne_nil b' hb']) ⟨b', hb', ?_⟩
  simp

end TokenKind

/-- A token may end where `x` does if `y` follows. -/
def Boundary (x y : Text) : Prop :=
  y = [] ∨ (TokenKind.delimiter? y).isSome ∧ ¬ (['\r'] <:+ x ∧ ['\n'] <+: y)

namespace Boundary

variable {x y : Text}

theorem tail {a : Char} (h : Boundary (a :: x) y) : Boundary x y := by
  rcases h with rfl | ⟨hd, hr⟩
  · exact .inl rfl
  · exact .inr ⟨hd, fun hx => hr ⟨hx.1.trans (List.suffix_cons a x), hx.2⟩⟩

theorem of_append {x' : Text} (h : Boundary (x ++ x') y) : Boundary x' y := by
  induction x with
  | nil => exact h
  | cons a x ih => exact ih h.tail

/-- A word ends where a token may end. -/
theorem wordAt_prefix (h : Boundary x y) : Token.wordAt (x ++ y) <+: x := by
  induction x with
  | nil =>
    have hw : Token.wordAt y = [] := by
      rcases h with rfl | ⟨hd, -⟩
      · rfl
      · cases y with
        | nil => rfl
        | cons a y => simp [Token.wordAt, hd]
    simp [hw]
  | cons a x ih =>
    rw [List.cons_append, Token.wordAt]
    split
    · exact List.nil_prefix
    · exact List.cons_prefix_cons.mpr ⟨rfl, ih h.tail⟩

/-- The first token of a text stays within what ends where a token may end. -/
theorem front_text_prefix (h : Boundary x y) (hx : x ≠ []) (n : Nat) :
    (Token.front n (x ++ y)).text <+: x := by
  unfold Token.front
  split
  · exact List.nil_prefix
  · split
    · next k d hd =>
      obtain ⟨hmem, hpre⟩ := TokenKind.mem_spellings_of_delimiter? hd
      by_cases hlen : d.length ≤ x.length
      · exact List.prefix_of_prefix_length_le hpre (List.prefix_append x y) hlen
      · exfalso
        obtain ⟨a, x, rfl⟩ := List.exists_cons_of_ne_nil hx
        cases k <;> simp [TokenKind.spellings] at hmem
        case newline =>
          rcases hmem with rfl | rfl
          · simp at hlen
          · obtain rfl : x = [] := by
              cases x with
              | nil => rfl
              | cons b x => simp at hlen
            rw [List.singleton_append, List.cons_prefix_cons] at hpre
            obtain ⟨rfl, hy⟩ := hpre
            rcases h with rfl | ⟨-, hr⟩
            · simp at hy
            · exact hr ⟨List.suffix_rfl, hy⟩
        all_goals subst hmem; simp at hlen
    · exact h.wordAt_prefix

end Boundary

namespace TokenKind

theorem delimiter?_isSome_of_spell {b : List TokenKind} {d y : Text} (hb : b ≠ [])
    (hd : d ∈ spell b) (hy : d <+: y) : (delimiter? y).isSome := by
  obtain ⟨k, b, rfl⟩ := List.exists_cons_of_ne_nil hb
  simp only [spell, List.mem_flatMap, List.mem_map] at hd
  obtain ⟨d₁, hd₁, d₂, -, rfl⟩ := hd
  obtain ⟨r, rfl⟩ := hy
  rw [List.append_assoc, delimiter?_append hd₁]
  rfl

theorem ne_nil_of_mem_spell {b : List TokenKind} {d : Text} (hb : b ≠ []) (hd : d ∈ spell b) :
    d ≠ [] := by
  rintro rfl
  have h := delimiter?_isSome_of_spell hb hd List.prefix_rfl
  simp [delimiter?] at h

/-- A carriage return in front of a spelling that starts with a line feed is part of another one. -/
theorem cons_return_mem_spell {b : List TokenKind} {d : Text} (hd : d ∈ spell b)
    (hn : ['\n'] <+: d) : '\r' :: d ∈ spell b := by
  cases b with
  | nil => simp [spell] at hd; subst hd; simp at hn
  | cons k b =>
    simp only [spell, List.mem_flatMap, List.mem_map] at hd ⊢
    obtain ⟨d₁, hd₁, d₂, hd₂, rfl⟩ := hd
    cases k <;> simp [spellings] at hd₁
    case newline =>
      rcases hd₁ with rfl | rfl
      · exact ⟨['\r', '\n'], by simp [spellings], d₂, hd₂, rfl⟩
      · simp at hn
    all_goals subst hd₁; simp at hn

theorem boundary_of_clear {bs : List (List TokenKind)} (hbs : ∀ b ∈ bs, b ≠ []) {x y : Text}
    (hx : ClearOf (Breaks bs) x y) (hy : y = [] ∨ Breaks bs y) : Boundary x y := by
  rcases hy with rfl | ⟨b, hb, d, hd, hpre⟩
  · exact .inl rfl
  · refine .inr ⟨delimiter?_isSome_of_spell (hbs b hb) hd hpre, ?_⟩
    rintro ⟨hr, hn⟩
    have hne := ne_nil_of_mem_spell (hbs b hb) hd
    have hnd : ['\n'] <+: d :=
      List.prefix_of_prefix_length_le hn hpre (List.length_pos_iff.mpr hne)
    refine hx ['\r'] hr (by simp) ⟨b, hb, '\r' :: d, cons_return_mem_spell hd hnd, ?_⟩
    exact List.cons_prefix_cons.mpr ⟨rfl, hpre⟩

end TokenKind

namespace Cursor

def kinds (c : Cursor) : List TokenKind := c.tokens.map fun r => r.1.kind

/-- The tokens, each with the cursor in front of it, that lead from one cursor to another. -/
inductive Walk : Cursor → List (Token × Cursor) → Cursor → Prop
  | stay (c : Cursor) : Walk c [] c
  | step {c d : Cursor} {ts : List (Token × Cursor)} (h : c.rest ≠ []) (w : Walk c.advance ts d) :
      Walk c ((c.peek, c) :: ts) d

theorem tokens_of_rest_nil {c : Cursor} (h : c.rest = []) : c.tokens = [] := by
  rw [tokens, dif_pos h]

theorem tokens_of_rest_ne_nil {c : Cursor} (h : c.rest ≠ []) :
    c.tokens = (c.peek, c) :: c.advance.tokens := by
  rw [tokens, dif_neg h]

theorem rest_eq_peek_text_append (c : Cursor) : c.rest = c.peek.text ++ c.advance.rest := by
  obtain ⟨r, hr⟩ := c.peek_text_prefix
  have hadv : c.advance.rest = c.rest.drop c.peek.text.length := rfl
  rw [hadv, ← hr, List.drop_left]

theorem peek_text_ne_nil {c : Cursor} (h : c.rest ≠ []) : c.peek.text ≠ [] := by
  rw [peek_eq_front h]
  exact List.length_pos_iff.mp (Token.front_length_pos _ h)

/-- Delimiters stand next exactly if the kinds from the cursor on start with them. -/
theorem sees_iff_kinds {ks : List TokenKind} (hk : ∀ k ∈ ks, k.isDelimiter = true) (c : Cursor) :
    c.sees ks = true ↔ ks <+: c.kinds := by
  induction ks generalizing c with
  | nil => simp [sees_nil]
  | cons k ks ih =>
    rw [sees_cons, ih fun k h => hk k (List.mem_cons_of_mem _ h)]
    by_cases hc : c.rest = []
    · have hdel := hk k List.mem_cons_self
      have hnil : c.kinds = [] := by simp [kinds, tokens_of_rest_nil hc]
      rw [hnil]
      simp only [List.prefix_nil, reduceCtorEq, iff_false, not_and]
      rintro rfl
      simp [peek, hc, TokenKind.isDelimiter, TokenKind.spellings] at hdel
    · have hcons : c.kinds = c.peek.kind :: c.advance.kinds := by
        simp [kinds, tokens_of_rest_ne_nil hc]
      rw [hcons, List.cons_prefix_cons]
      exact and_congr_left fun _ => eq_comm

theorem occurs_iff_breaks {bs : List (List TokenKind)}
    (hbs : ∀ b ∈ bs, ∀ k ∈ b, k.isDelimiter = true) (c : Cursor) :
    TokenKind.Occurs bs c.kinds ↔ TokenKind.Breaks bs c.rest := by
  constructor
  · rintro ⟨b, hb, h⟩
    exact ⟨b, hb, (sees_iff_spell (hbs b hb) c).mp ((sees_iff_kinds (hbs b hb) c).mpr h)⟩
  · rintro ⟨b, hb, h⟩
    exact ⟨b, hb, (sees_iff_kinds (hbs b hb) c).mp ((sees_iff_spell (hbs b hb) c).mpr h)⟩

end Cursor

namespace Document

theorem textOf_cons (t : Token) (ts : List Token) : textOf (t :: ts) = t.text ++ textOf ts := by
  simp [textOf]

end Document

namespace Cursor.Walk

open Document (textOf textOf_cons)

variable {c d : Cursor} {ts : List (Token × Cursor)}

theorem tokens (h : c.Walk ts d) : c.tokens = ts ++ d.tokens := by
  induction h with
  | stay c => rfl
  | step hc _ ih => rw [tokens_of_rest_ne_nil hc, ih, List.cons_append]

theorem kinds (h : c.Walk ts d) : c.kinds = (ts.map fun r => r.1.kind) ++ d.kinds := by
  simp [Cursor.kinds, h.tokens]

theorem rest (h : c.Walk ts d) : c.rest = textOf (ts.map Prod.fst) ++ d.rest := by
  induction h with
  | stay c => rfl
  | step hc _ ih =>
    rw [rest_eq_peek_text_append, ih, List.map_cons, textOf_cons, List.append_assoc]

theorem eq_nil_iff (h : c.Walk ts d) : ts = [] ↔ textOf (ts.map Prod.fst) = [] := by
  cases h with
  | stay c => simp [textOf]
  | step hc _ => simp [textOf_cons, peek_text_ne_nil hc]

theorem append {e : Cursor} {us : List (Token × Cursor)} (h : c.Walk ts d) (h' : d.Walk us e) :
    c.Walk (ts ++ us) e := by
  induction h with
  | stay c => exact h'
  | step hc _ ih => exact .step hc (ih h')

/-- A walk through what the text is clear of does not meet it, either. -/
theorem clear {bs : List (List TokenKind)} (hbs : ∀ b ∈ bs, ∀ k ∈ b, k.isDelimiter = true)
    (h : c.Walk ts d)
    (hc : ClearOf (TokenKind.Breaks bs) (textOf (ts.map Prod.fst)) d.rest) :
    ClearOf (TokenKind.Occurs bs) (ts.map fun r => r.1.kind) d.kinds := by
  induction h with
  | stay c => exact clearOf_nil _
  | @step c d ts hne w ih =>
    have hrest := (Walk.step hne w).rest
    have hkinds := (Walk.step hne w).kinds
    simp only [List.map_cons, textOf_cons] at hc hrest hkinds ⊢
    rw [clearOf_append] at hc
    refine clearOf_cons.mpr ⟨?_, ih hc.2⟩
    rw [← List.cons_append, ← hkinds, occurs_iff_breaks hbs, hrest, List.append_assoc]
    exact hc.1 _ List.suffix_rfl (peek_text_ne_nil hne)

/-- The tokens at the front lead to the others. -/
theorem exists_of_tokens {us : List (Token × Cursor)} (h : c.tokens = ts ++ us) :
    ∃ d, c.Walk ts d ∧ d.tokens = us := by
  induction ts generalizing c with
  | nil => exact ⟨c, .stay c, h⟩
  | cons t ts ih =>
    have hc : c.rest ≠ [] := by
      intro hc
      rw [tokens_of_rest_nil hc] at h
      cases h
    rw [tokens_of_rest_ne_nil hc, List.cons_append, List.cons.injEq] at h
    obtain ⟨rfl, h⟩ := h
    obtain ⟨d, w, hd⟩ := ih h
    exact ⟨d, .step hc w, hd⟩

/-- Up to a place where a token may end the text is a sequence of tokens. -/
theorem exists_of_boundary {x y : Text} (h : c.rest = x ++ y) (hb : Boundary x y) :
    ∃ ts, c.Walk ts (c.skip x.length) ∧ textOf (ts.map Prod.fst) = x := by
  induction hn : x.length using Nat.strongRecOn generalizing c x with
  | ind n ih =>
    by_cases hx : x = []
    · subst hx
      simp only [List.length_nil] at hn
      subst hn
      exact ⟨[], by rw [skip_zero]; exact .stay c, rfl⟩
    · have hne : c.rest ≠ [] := by simp [h, hx]
      have hp : c.peek.text <+: x := by
        rw [peek_eq_front hne, h]
        exact hb.front_text_prefix hx _
      obtain ⟨x', rfl⟩ := hp
      have hrest : c.advance.rest = x' ++ y := by
        have hr := c.rest_eq_peek_text_append
        rw [h, List.append_assoc] at hr
        exact (List.append_cancel_left hr).symm
      have hpos := List.length_pos_iff.mpr (peek_text_ne_nil hne)
      rw [List.length_append] at hn
      obtain ⟨ts, w, ht⟩ := ih x'.length (by omega) hrest hb.of_append rfl
      refine ⟨(c.peek, c) :: ts, .step hne ?_, by rw [List.map_cons, textOf_cons, ht]⟩
      rw [advance_eq_skip hne, skip_skip, hn] at w
      rwa [advance_eq_skip hne]

end Cursor.Walk

namespace Document

open TokenKind (Separable Occurs Breaks)

variable {bs : List (List TokenKind)} {c d : Cursor} {ts read : List (Token × Cursor)}

/-- Looking back at what was read latest first is looking for an end of what was read. -/
theorem take_eq_reverse_iff {b : List TokenKind} :
    (read.take b.length).map (fun r => r.1.kind) = b.reverse ↔
      b <:+ (read.map fun r => r.1.kind).reverse := by
  rw [← List.reverse_prefix, List.reverse_reverse, List.prefix_iff_eq_take, List.length_reverse,
    List.map_take]
  exact eq_comm

/-- The sequence found is the first one in the list that ends here. -/
theorem endingIn_eq_some_iff {b : List TokenKind} :
    endingIn bs read = some b ↔ b <:+ (read.map fun r => r.1.kind).reverse ∧
      ∃ before after, bs = before ++ b :: after ∧
        ∀ b' ∈ before, ¬ b' <:+ (read.map fun r => r.1.kind).reverse := by
  simp only [endingIn, List.find?_eq_some_iff_append, decide_eq_true_eq, take_eq_reverse_iff,
    Bool.not_eq_true', decide_eq_false_iff_not]

theorem endingIn_eq_none (h : ∀ b ∈ bs, ¬ b <:+ (read.map fun r => r.1.kind).reverse) :
    endingIn bs read = none := by
  refine List.find?_eq_none.mpr ?_
  intro b hb hs
  exact h b hb (take_eq_reverse_iff.mp (of_decide_eq_true hs))

/-- A search goes on as long as none of the sequences ends. -/
theorem search_walk (w : c.Walk ts d)
    (h : ∀ p b, p <+: ts → p ≠ [] → b ∈ bs → ¬ b <:+ ((read.reverse ++ p).map fun r => r.1.kind)) :
    search bs c.tokens read c = search bs d.tokens (ts.reverse ++ read) d := by
  induction w generalizing read with
  | stay c => rfl
  | @step c d ts hc w ih =>
    have hnone : endingIn bs ((c.peek, c) :: read) = none := by
      refine endingIn_eq_none fun b hb hs => h [(c.peek, c)] b ?_ (by simp) hb ?_
      · exact List.cons_prefix_cons.mpr ⟨rfl, List.nil_prefix⟩
      · simpa using hs
    rw [Cursor.tokens_of_rest_ne_nil hc, search, hnone]
    simp only
    rw [ih]
    · simp
    · intro p b hp _ hb hs
      refine h ((c.peek, c) :: p) b (List.cons_prefix_cons.mpr ⟨rfl, hp⟩) (by simp) hb ?_
      simpa using hs

/-- A search ends where the last token of a sequence has been read, and goes back in front of it. -/
theorem search_end {us : List (Token × Cursor)} {r : Token × Cursor} {b : List TokenKind}
    {rest : List (Token × Cursor)} {m : Cursor}
    (hend : endingIn bs (r :: (us.reverse ++ read)) = some b) (hlen : b.length = us.length + 1)
    (hd : (us ++ [r]).head?.map Prod.snd = some d) :
    search bs (r :: rest) (us.reverse ++ read) m = ((read.map Prod.fst).reverse, d) := by
  have hsplit : r :: (us.reverse ++ read) = (us ++ [r]).reverse ++ read := by simp
  have hl : b.length = (us ++ [r]).reverse.length := by simp [hlen]
  rw [search, hend]
  simp only
  rw [hsplit, hl, List.drop_left, List.take_left, List.getLast?_reverse, hd]
  rfl

/-- A search goes back in front of the first sequence that ends in what it reads. -/
theorem search_ending {b : List TokenKind} {before after : List (List TokenKind)} (w : c.Walk ts d)
    (hne : b ≠ []) (hb : b <+: d.kinds) (hbs : bs = before ++ b :: after)
    (hbefore : ∀ b' ∈ before, ¬ b' <:+ ts.map (fun r => r.1.kind) ++ b)
    (h : ∀ p b', p <+: ts.map (fun r => r.1.kind) ++ b → b' ∈ bs → b' <:+ p →
      p = ts.map (fun r => r.1.kind) ++ b) :
    search bs c.tokens [] c = (ts.map Prod.fst, d) := by
  obtain ⟨v, hv⟩ := hb
  obtain ⟨us, vs, htok, rfl, rfl⟩ := List.map_eq_append_iff.mp hv.symm
  obtain ⟨us, r, rfl⟩ : ∃ us' r, us = us' ++ [r] := by
    have hus : us ≠ [] := by
      rintro rfl
      exact hne rfl
    exact ⟨us.dropLast, us.getLast hus, (List.dropLast_concat_getLast hus).symm⟩
  have hhead : (us ++ [r]).head?.map Prod.snd = some d := by
    have hrest : d.rest ≠ [] := by
      intro hnil
      rw [Cursor.tokens_of_rest_nil hnil] at htok
      simp at htok
    have hcons := Cursor.tokens_of_rest_ne_nil hrest
    rw [htok] at hcons
    cases us <;> simp_all
  rw [List.append_assoc] at htok
  obtain ⟨m, wm, hm⟩ := Cursor.Walk.exists_of_tokens htok
  have hend : endingIn bs (r :: (us.reverse ++ ts.reverse))
      = some ((us ++ [r]).map fun r => r.1.kind) := by
    have hall : ((r :: (us.reverse ++ ts.reverse)).map fun r => r.1.kind).reverse
        = ts.map (fun r => r.1.kind) ++ (us ++ [r]).map fun r => r.1.kind := by simp
    rw [endingIn_eq_some_iff, hall]
    exact ⟨List.suffix_append _ _, before, after, hbs, hbefore⟩
  have hread : (ts ++ us).reverse ++ [] = us.reverse ++ ts.reverse := by simp
  rw [search_walk (w.append wm), hm, List.singleton_append, hread, search_end hend (by simp) hhead,
    List.map_reverse, List.reverse_reverse]
  intro p b' hp _ hb' hs
  have hpk : p.map (fun r => r.1.kind) <+:
      ts.map (fun r => r.1.kind) ++ (us ++ [r]).map fun r => r.1.kind := by
    rw [← List.map_append, ← List.append_assoc]
    exact (hp.trans (List.prefix_append _ [r])).map _
  have hlen := congrArg List.length (h _ b' hpk hb' hs)
  have hle := hp.length_le
  simp only [List.length_map, List.length_append, List.length_singleton] at hlen hle
  omega

/-- A search reads up to the first place where one of the sequences starts. -/
theorem search_first (hbs : Separable bs) (w : c.Walk ts d)
    (hc : ClearOf (Occurs bs) (ts.map fun r => r.1.kind) d.kinds)
    (hd : d.rest = [] ∨ Occurs bs d.kinds) :
    search bs c.tokens [] c = (ts.map Prod.fst, d) := by
  rcases hd with hd | ⟨b, hb, v, hv⟩
  · have hnil : d.kinds = [] := by simp [Cursor.kinds, Cursor.tokens_of_rest_nil hd]
    rw [hnil] at hc
    rw [search_walk w, Cursor.tokens_of_rest_nil hd, search]
    · simp
    · intro p b hp _ hb
      exact hbs.not_suffix hc hb (by simpa using hp.map _)
  · rw [← hv] at hc
    obtain ⟨before, after, hsplit, hnot⟩ := List.eq_append_cons_of_mem hb
    refine search_ending w (hbs.ne_nil b hb) ⟨v, hv⟩ hsplit ?_ ?_
    · intro b' hb' hs
      have hmem : b' ∈ bs := by
        rw [hsplit]
        exact List.mem_append_left _ hb'
      rw [(hbs.eq_of_suffix hc hb hmem List.prefix_rfl hs).2] at hb'
      exact hnot hb'
    · intro p b' hp hb' hs
      exact (hbs.eq_of_suffix hc hb hb' hp hs).1

theorem readUntilAny_eq_search (hbs : [] ∉ bs) (c : Cursor) :
    readUntilAny bs c = (.ok (search bs c.tokens [] c).1, (search bs c.tokens [] c).2) := by
  have hany : ¬ bs.any List.isEmpty = true := by
    rw [List.any_eq_true]
    rintro ⟨b, hb, hempty⟩
    rw [List.isEmpty_iff.mp hempty] at hb
    exact hbs hb
  rw [readUntilAny, if_neg hany]

/-- Reading until one of the sequences takes the text up to the first of their spellings. -/
theorem readUntilAny_of_clear (hbs : Separable bs) {x y : Text} (h : c.rest = x ++ y)
    (hx : ClearOf (Breaks bs) x y) (hy : y = [] ∨ Breaks bs y) :
    ∃ ts, readUntilAny bs c = (.ok ts, c.skip x.length) ∧ textOf ts = x ∧ (ts = [] ↔ x = []) := by
  obtain ⟨ts, w, rfl⟩ :=
    Cursor.Walk.exists_of_boundary h (TokenKind.boundary_of_clear hbs.ne_nil hx hy)
  have hrest := Cursor.rest_skip_of_append h
  have hclear := w.clear hbs.isDelimiter (by rwa [hrest])
  have hsearch := search_first hbs w hclear (by
    rwa [Cursor.occurs_iff_breaks hbs.isDelimiter, hrest])
  refine ⟨ts.map Prod.fst, ?_, rfl, by rw [← w.eq_nil_iff, List.map_eq_nil_iff]⟩
  rw [readUntilAny_eq_search (fun hnil => hbs.ne_nil [] hnil rfl), hsearch]

end Document

end Weave
