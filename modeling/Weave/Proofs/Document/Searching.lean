import Mathlib.Data.Nat.Find
import Weave.Proofs.Token.Cuts
import Weave.Proofs.Token.Places

/-!
# Where searches end

A search looks back at the tokens it has read. It stops at the occurrence that ends first among all
those in the tokens ahead, and looking ahead from there sees what it has found by looking back. The
sequences may overlap, and one may be a part of another.
-/

set_option autoImplicit false

namespace Weave.Document

/-- The sequence is what the kinds from the `i`-th one on begin with. -/
def OccursAt (ks b : List TokenKind) (i : Nat) : Prop := b <+: ks.drop i

/-- No occurrence ends earlier than this one, and none of a sequence listed further in front ends with
it. -/
structure EndsFirst (bs : List (List TokenKind)) (ks b : List TokenKind) (i : Nat) : Prop where
  occurs : OccursAt ks b i
  earliest : ∀ b' ∈ bs, ∀ j, OccursAt ks b' j → i + b.length ≤ j + b'.length
  listed : ∃ before after, bs = before ++ b :: after ∧
    ∀ b' ∈ before, ∀ j, OccursAt ks b' j → j + b'.length ≠ i + b.length

instance (ks b : List TokenKind) (i : Nat) : Decidable (OccursAt ks b i) :=
  inferInstanceAs (Decidable (b <+: ks.drop i))

variable {bs : List (List TokenKind)} {ks p b : List TokenKind} {i : Nat}

/-- What has been read ends with a sequence if an occurrence of the sequence ends there. -/
theorem suffix_iff_occursAt (hp : p <+: ks) :
    b <:+ p ↔ ∃ j, OccursAt ks b j ∧ j + b.length = p.length := by
  obtain ⟨v, rfl⟩ := hp
  constructor
  · rintro ⟨u, rfl⟩
    refine ⟨u.length, ⟨v, ?_⟩, by rw [List.length_append]⟩
    rw [List.append_assoc, List.drop_left]
  · rintro ⟨j, ⟨w, hw⟩, hlen⟩
    have hend : p = (p ++ v).take j ++ b := by
      calc
        p = (p ++ v).take (j + b.length) := by rw [hlen, List.take_left]
        _ = (p ++ v).take j ++ ((p ++ v).drop j).take b.length := List.take_add
        _ = (p ++ v).take j ++ b := by rw [← hw, List.take_left]
    exact ⟨(p ++ v).take j, hend.symm⟩

theorem OccursAt.lt_length {j : Nat} (h : OccursAt ks b j) (hb : b ≠ []) : j < ks.length := by
  have hle := h.length_le
  have hpos := List.length_pos_iff.mpr hb
  rw [List.length_drop] at hle
  omega

theorem exists_endsFirst (h : ∃ b ∈ bs, ∃ i, OccursAt ks b i) : ∃ b i, EndsFirst bs ks b i := by
  classical
  have hends : ∃ k, ∃ b ∈ bs, ∃ i, OccursAt ks b i ∧ i + b.length = k := by
    obtain ⟨b, hb, i, hocc⟩ := h
    exact ⟨_, b, hb, i, hocc, rfl⟩
  obtain ⟨b₀, hb₀, hocc₀⟩ := Nat.find_spec hends
  obtain ⟨b, hfind⟩ : ∃ b, bs.find? (fun b => ∃ i, OccursAt ks b i ∧ i + b.length = Nat.find hends)
      = some b := by
    apply Option.isSome_iff_exists.mp
    exact List.find?_isSome.mpr ⟨b₀, hb₀, decide_eq_true hocc₀⟩
  obtain ⟨hb, before, after, hsplit, hbefore⟩ := List.find?_eq_some_iff_append.mp hfind
  obtain ⟨i, hocc, hend⟩ := of_decide_eq_true hb
  refine ⟨b, i, hocc, ?_, before, after, hsplit, ?_⟩
  · intro b' hb' j hocc'
    rw [hend]
    exact Nat.find_min' hends ⟨b', hb', j, hocc', rfl⟩
  · intro b' hb' j hocc' hend'
    have hnot := hbefore b' hb'
    rw [Bool.not_eq_true', decide_eq_false_iff_not] at hnot
    exact hnot ⟨j, hocc', hend'.trans hend⟩

/-- Only the places in front of the end have to be looked at. -/
theorem endsFirst_of_forall_lt (before after : List (List TokenKind)) (hbs : [] ∉ before ++ b :: after)
    (hocc : OccursAt ks b i)
    (hearliest : ∀ b' ∈ before ++ b :: after, ∀ j < ks.length, OccursAt ks b' j →
      i + b.length ≤ j + b'.length)
    (hlisted : ∀ b' ∈ before, ∀ j < ks.length, OccursAt ks b' j → j + b'.length ≠ i + b.length) :
    EndsFirst (before ++ b :: after) ks b i := by
  have hne : ∀ b' ∈ before ++ b :: after, b' ≠ [] := by
    rintro b' hb' rfl
    exact hbs hb'
  refine ⟨hocc, ?_, before, after, rfl, ?_⟩
  · intro b' hb' j hocc'
    exact hearliest b' hb' j (hocc'.lt_length (hne b' hb')) hocc'
  · intro b' hb' j hocc'
    exact hlisted b' hb' j (hocc'.lt_length (hne b' (List.mem_append_left _ hb'))) hocc'

section

variable {c : Cursor}

/-- A search without an occurrence reads all tokens. -/
theorem search_of_not_occursAt (h : ∀ b ∈ bs, ∀ i, ¬ OccursAt c.kinds b i) :
    ∃ d, c.Walk c.tokens d ∧ d.rest = [] ∧ search bs c.tokens [] c = (c.tokens.map Prod.fst, d) := by
  obtain ⟨d, w, htokens⟩ := Cursor.Walk.exists_of_tokens (List.append_nil c.tokens).symm
  have hrest : d.rest = [] := by
    by_contra hne
    rw [Cursor.tokens_of_rest_ne_nil hne] at htokens
    cases htokens
  refine ⟨d, w, hrest, ?_⟩
  rw [search_walk w, htokens, search, List.append_nil, List.map_reverse, List.reverse_reverse]
  intro p b hp _ hb hs
  obtain ⟨j, hocc, -⟩ := (suffix_iff_occursAt (hp.map _)).mp hs
  exact h b hb j hocc

theorem EndsFirst.ne_nil (hbs : [] ∉ bs) (h : EndsFirst bs ks b i) : b ≠ [] := by
  obtain ⟨before, after, hsplit, -⟩ := h.listed
  rintro rfl
  exact hbs (by simp [hsplit])

/-- A search goes back in front of the occurrence that ends first. -/
theorem EndsFirst.search_eq (hbs : [] ∉ bs) (h : EndsFirst bs c.kinds b i) :
    ∃ d, c.Walk (c.tokens.take i) d ∧ d.tokens = c.tokens.drop i ∧
      search bs c.tokens [] c = ((c.tokens.take i).map Prod.fst, d) := by
  obtain ⟨before, after, hsplit, hbefore⟩ := h.listed
  obtain ⟨d, w, hd⟩ := Cursor.Walk.exists_of_tokens (List.take_append_drop i c.tokens).symm
  have hocc : b <+: d.kinds := by
    rw [Cursor.kinds, hd, List.map_drop]
    exact h.occurs
  have hread : ((c.tokens.take i).map fun r => r.1.kind) ++ b <+: c.kinds := by
    rw [w.kinds]
    exact (List.prefix_append_right_inj _).mpr hocc
  have hlen : (((c.tokens.take i).map fun r => r.1.kind) ++ b).length = i + b.length := by
    have hlt := h.occurs.lt_length (h.ne_nil hbs)
    rw [Cursor.kinds, List.length_map] at hlt
    rw [List.length_append, List.length_map, List.length_take, Nat.min_eq_left (Nat.le_of_lt hlt)]
  refine ⟨d, w, hd, search_ending w (h.ne_nil hbs) hocc hsplit ?_ ?_⟩
  · intro b' hb' hs
    obtain ⟨j, hocc', hend⟩ := (suffix_iff_occursAt hread).mp hs
    exact hbefore b' hb' j hocc' (hend.trans hlen)
  · intro p b' hp hb' hs
    obtain ⟨j, hocc', hend⟩ := (suffix_iff_occursAt (hp.trans hread)).mp hs
    have hfirst := h.earliest b' hb' j hocc'
    exact hp.eq_of_length_le (by omega)

/-! ### Looking ahead -/

/-- In front of the occurrence that ends first, what else is seen only goes on behind it. -/
theorem EndsFirst.prefix_of_sees {d : Cursor} {b' : List TokenKind} (h : EndsFirst bs c.kinds b i)
    (hd : d.kinds = c.kinds.drop i) (hb' : b' ∈ bs) (hs : d.sees b' = true) : b <+: b' := by
  have hocc : b <+: d.kinds := by
    rw [hd]
    exact h.occurs
  rw [Cursor.sees_iff_prefix_filled (Nat.le_add_left _ b.length)] at hs
  rcases List.prefix_or_prefix_of_prefix (hocc.trans (List.prefix_append _ _)) hs with hpre | hpre
  · exact hpre
  · have hocc' : OccursAt c.kinds b' i := by
      rw [OccursAt, ← hd]
      exact hpre.trans hocc
    have hle := h.earliest b' hb' i hocc'
    rw [hpre.eq_of_length_le (Nat.le_of_add_le_add_left hle)]

/-! ### Reading -/

theorem readUntilAny_of_nil_mem (h : [] ∈ bs) (c : Cursor) :
    readUntilAny bs c = (.error .emptyBreak, c) := by
  have hany : bs.any List.isEmpty = true := List.any_eq_true.mpr ⟨[], h, rfl⟩
  rw [readUntilAny, if_pos hany]

/-- Reading until one of several sequences refuses an empty one. Otherwise it takes the tokens in
front of the occurrence that ends first, which is then what stands next; without an occurrence it
takes all. -/
theorem readUntilAny_outcome {t : Text} (hc : c.On t) (bs : List (List TokenKind)) :
    ([] ∈ bs → readUntilAny bs c = (.error .emptyBreak, c)) ∧
    ([] ∉ bs →
      ((∀ b ∈ bs, ∀ i, ¬ OccursAt c.kinds b i) →
        readUntilAny bs c = (.ok (c.tokens.map Prod.fst), Cursor.ofText t t.length)) ∧
      ((∃ b ∈ bs, ∃ i, OccursAt c.kinds b i) → ∃ b i, EndsFirst bs c.kinds b i) ∧
      ∀ b i, EndsFirst bs c.kinds b i →
        ∃ a, (c.tokens.map Prod.fst)[i]? = some a ∧
          readUntilAny bs c = (.ok ((c.tokens.map Prod.fst).take i), Cursor.ofText t a.start) ∧
          (Cursor.ofText t a.start).peekMany b.length
            = ((c.tokens.map Prod.fst).drop i).take b.length ∧
          (Cursor.ofText t a.start).sees b = true ∧
          ∀ b' ∈ bs, (Cursor.ofText t a.start).sees b' = true → b <+: b') := by
  refine ⟨fun hnil => readUntilAny_of_nil_mem hnil c, ?_⟩
  intro hbs
  refine ⟨?_, exists_endsFirst, ?_⟩
  · intro hnone
    obtain ⟨d, w, hrest, hsearch⟩ := search_of_not_occursAt hnone
    have hd := hc.walk w
    rw [readUntilAny_eq_search hbs, hsearch, ← hd.rest_eq_nil_iff.mp hrest, ← hd.eq_ofText]
  · intro b i hfirst
    obtain ⟨d, w, htokens, hsearch⟩ := hfirst.search_eq hbs
    have hd := hc.walk w
    have hkinds : d.kinds = c.kinds.drop i := by
      rw [Cursor.kinds, htokens, List.map_drop]
      rfl
    have hocc : b <+: d.kinds := by
      rw [hkinds]
      exact hfirst.occurs
    have hrest : d.rest ≠ [] := by
      intro hnil
      rw [Cursor.kinds, Cursor.tokens_of_rest_nil hnil] at hocc
      exact hfirst.ne_nil hbs (List.prefix_nil.mp hocc)
    have hstart : Cursor.ofText t d.peek.start = d := by
      rw [hd.peek_start]
      exact hd.eq_ofText.symm
    refine ⟨d.peek, ?_, ?_⟩
    · rw [← List.head?_drop, ← List.map_drop, ← htokens, Cursor.tokens_of_rest_ne_nil hrest]
      rfl
    · rw [hstart]
      refine ⟨?_, ?_, Cursor.sees_of_prefix_kinds hocc, ?_⟩
      · rw [readUntilAny_eq_search hbs, hsearch, List.map_take]
      · rw [Cursor.peekMany_of_le hocc.length_le, htokens, List.map_drop]
      · intro b' hb'
        exact hfirst.prefix_of_sees hkinds hb'

/-- Two braces and a word with two braces are complete at the same brace, and the two braces are listed
further in front. The sequence in front of these would be complete only at the newline. -/
theorem readUntilAny_outcome_braces :
    readUntilAny [[.closeBrace, .closeBrace, .newline], [.closeBrace, .closeBrace],
        [.word, .closeBrace, .closeBrace]] (Cursor.start ['a', '}', '}', '}', '\n'])
      = (.ok [⟨.word, ['a'], 0, 1⟩], Cursor.ofText ['a', '}', '}', '}', '\n'] 1) := by
  have htokens : (Cursor.start ['a', '}', '}', '}', '\n']).tokens.map Prod.fst
      = [⟨.word, ['a'], 0, 1⟩, ⟨.closeBrace, ['}'], 1, 2⟩, ⟨.closeBrace, ['}'], 2, 3⟩,
        ⟨.closeBrace, ['}'], 3, 4⟩, ⟨.newline, ['\n'], 4, 5⟩] := by cbv
  have hkinds : (Cursor.start ['a', '}', '}', '}', '\n']).kinds
      = [.word, .closeBrace, .closeBrace, .closeBrace, .newline] := by cbv
  have hfirst : EndsFirst [[.closeBrace, .closeBrace, .newline], [.closeBrace, .closeBrace],
      [.word, .closeBrace, .closeBrace]] (Cursor.start ['a', '}', '}', '}', '\n']).kinds
      [.closeBrace, .closeBrace] 1 := by
    rw [hkinds]
    exact endsFirst_of_forall_lt [[.closeBrace, .closeBrace, .newline]]
      [[.word, .closeBrace, .closeBrace]] (by decide) (by decide) (by decide) (by decide)
  obtain ⟨a, ha, hread, -⟩ := ((readUntilAny_outcome (Cursor.on_start _) _).2 (by decide)).2.2 _ 1 hfirst
  rw [hread]
  rw [htokens] at ha ⊢
  cases ha
  rfl

end

end Weave.Document
