import Weave.Proofs.Document.Rules

/-!
# Reading bodies

The body of a snippet ends at the first line that starts with closing braces, provided that a newline
stands in front of it, and its rules are those of the text up to there.
-/

set_option autoImplicit false

namespace Weave.Document

open TokenKind (Separable Breaks spell)

variable {c : Cursor}

def LineClose (u : Text) : Prop := ∃ nl ∈ TokenKind.newline.spellings, nl ++ closing <+: u

theorem not_startsWith_brace {y : Text} (hy : y = [] ∨ LineClose y) : ¬ ['{'] <+: y := by
  rcases hy with rfl | ⟨nl, hnl, r, rfl⟩
  · simp
  · rcases TokenKind.mem_newline.mp hnl with rfl | rfl <;> simp

def bodyBreaks : List (List TokenKind) := [openKinds, lineCloseKinds]

theorem separable_bodyBreaks : Separable bodyBreaks :=
  ⟨by decide, by decide, by decide⟩

theorem breaks_bodyBreaks (u : Text) : Breaks bodyBreaks u ↔ Opens u ∨ LineClose u := by
  simp [Breaks, bodyBreaks, openKinds, lineCloseKinds, closeKinds, spell, TokenKind.spellings, Opens,
    LineClose, closing]

theorem sees_openKinds : c.sees openKinds = true ↔ Opens c.rest := by
  rw [Cursor.sees_iff_spell (by decide)]
  simp [openKinds, spell, TokenKind.spellings, Opens]

theorem sees_closeKinds : c.sees closeKinds = true ↔ closing <+: c.rest := by
  rw [Cursor.sees_iff_spell (by decide)]
  simp [closeKinds, spell, TokenKind.spellings, closing]

theorem sees_lineCloseKinds : c.sees lineCloseKinds = true ↔ LineClose c.rest := by
  rw [Cursor.sees_iff_spell (by decide)]
  simp [lineCloseKinds, closeKinds, spell, TokenKind.spellings, LineClose, closing]

theorem isWord_of_peek (h : c.peek.kind = .word) : IsWord c.peek.text := by
  have hne : c.rest ≠ [] := Cursor.rest_ne_nil_of_peek_kind (by simp [h])
  refine ⟨Cursor.peek_text_ne_nil hne, ?_⟩
  rw [Cursor.peek_eq_front hne] at h ⊢
  unfold Token.front at h ⊢
  split at h
  · simp at h
  · split at h
    · next k d hd =>
      subst h
      have hmem := (TokenKind.mem_spellings_of_delimiter? hd).1
      simp [TokenKind.spellings] at hmem
    · next hd => exact Token.ofChar?_of_mem_wordAt

/-- Where an embedded snippet stands next. -/
theorem sees_embedKinds : c.sees embedKinds = true ↔
    ∃ name r, IsWord name ∧ c.rest = '{' :: '{' :: (name ++ closing ++ r) := by
  constructor
  · intro h
    have hopen : Opens c.rest := by
      rw [← sees_openKinds]
      have hs := h
      simp only [embedKinds, openKinds, List.cons_append, List.nil_append, Cursor.sees_cons] at hs
      simp only [openKinds, Cursor.sees_cons, Cursor.sees_nil, and_true]
      exact ⟨hs.1, hs.2.1⟩
    obtain ⟨u, hu⟩ := hopen
    rw [embedKinds, Cursor.sees_append (by decide : ['{', '{'] ∈ spell openKinds) hu.symm,
      Cursor.sees_cons] at h
    obtain ⟨hword, hclose⟩ := h
    have hm : (c.skip ['{', '{'].length).rest = u := Cursor.rest_skip_of_append hu.symm
    obtain ⟨r, hr⟩ := sees_closeKinds.mp hclose
    refine ⟨_, r, isWord_of_peek hword, ?_⟩
    rw [List.append_assoc, hr, ← Cursor.rest_eq_peek_text_append, hm, ← hu]
    rfl
  · rintro ⟨name, r, hw, h⟩
    have hrest : c.rest = ['{', '{'] ++ (name ++ (closing ++ r)) := by rw [h]; simp
    have hm := Cursor.rest_skip_of_append hrest
    rw [embedKinds, Cursor.sees_append (by decide : ['{', '{'] ∈ spell openKinds) hrest, Cursor.sees_cons,
      peek_word hw hm (boundary_closing name r), advance_of_word hw hm (boundary_closing name r)]
    refine ⟨rfl, sees_closeKinds.mpr ?_⟩
    rw [Cursor.rest_skip_of_append hm]
    exact List.prefix_append closing r

/-! ### Steps of a body -/

theorem newline_not_mem_of_isWord {name : Text} (h : IsWord name) : '\n' ∉ name ++ closing := by
  intro hm
  rcases List.mem_append.mp hm with hm | hm
  · simpa [TokenKind.ofChar?] using h.2 _ hm
  · simp [closing] at hm

/-- An embedded snippet ends in front of the line that closes the body. -/
theorem embedAt?_append {u y name r : Text} (hy : y = [] ∨ LineClose y)
    (h : embedAt? (u ++ y) = some (name, r)) : ∃ r', embedAt? u = some (name, r') := by
  obtain ⟨hw, he⟩ := embedAt?_eq_some_iff.mp h
  obtain ⟨r', hr'⟩ : name ++ closing <+: u := by
    have hn := newline_not_mem_of_isWord hw
    rcases hy with rfl | ⟨nl, hnl, y, rfl⟩
    · exact ⟨r, by rw [← he, List.append_nil]⟩
    · rcases TokenKind.mem_newline.mp hnl with rfl | rfl
      · exact prefix_of_prefix_append_cons hn ⟨r, he.symm⟩
      · have hcr : name ++ closing <+: u ++ ['\r'] := by
          refine prefix_of_prefix_append_cons (v := closing ++ y) hn ⟨r, ?_⟩
          rw [← he]
          simp
        rcases List.prefix_concat_iff.mp hcr with hlast | hpre
        · have := congrArg List.getLast? hlast
          simp [closing] at this
        · exact hpre
  exact ⟨r', embedAt?_eq_some_iff.mpr ⟨hw, hr'.symm⟩⟩

theorem embedAt?_eq_none_of_append {u y : Text} (h : embedAt? (u ++ y) = none) :
    embedAt? u = none := by
  rw [Option.eq_none_iff_forall_ne_some]
  rintro ⟨name, r⟩ hr
  obtain ⟨hw, rfl⟩ := embedAt?_eq_some_iff.mp hr
  rw [embedAt?_eq_some_iff.mpr ⟨hw, List.append_assoc _ r y⟩] at h
  simp at h

theorem sees_embedKinds_iff {u : Text} (h : c.rest = ['{', '{'] ++ u) :
    c.sees embedKinds = true ↔ ∃ name r, embedAt? u = some (name, r) := by
  rw [sees_embedKinds, h]
  simp [embedAt?_eq_some_iff]

theorem bodyStep_embed {rules : List Rule} {u name r : Text}
    (h : c.rest = ['{', '{'] ++ u) (hu : embedAt? u = some (name, r)) :
    bodyStep rules c
      = (.ok (.embed name :: rules, true), c.skip (['{', '{'] ++ (name ++ closing)).length) := by
  obtain ⟨hw, rfl⟩ := embedAt?_eq_some_iff.mp hu
  have hm := Cursor.rest_skip_of_append h
  rw [List.append_assoc] at hm
  have hn := Cursor.rest_skip_of_append hm
  obtain ⟨ts, hts, -⟩ := expectAll_of_spell (by decide : ['{', '{'] ∈ spell openKinds) h
  obtain ⟨us, hus, -⟩ := expectAll_of_spell (by decide : closing ∈ spell closeKinds) hn
  have hword := word_of_isWord hw hm (boundary_closing name r)
  unfold bodyStep
  rw [if_pos ((sees_embedKinds_iff h).mpr ⟨_, _, hu⟩), openCommand, Action.bind_ok hts,
    Action.bind_ok hword, Action.bind_ok hus, Action.pure_apply, Cursor.skip_skip,
    Cursor.skip_skip]
  simp only [List.length_append]

theorem bodyStep_braces {rules : List Rule} {u : Text} (h : c.rest = ['{', '{'] ++ u)
    (hu : embedAt? u = none) :
    bodyStep rules c
      = (.ok (addText ['{', '{'] rules, true), c.skip (['{', '{'] : Text).length) := by
  obtain ⟨ts, hts, ht⟩ := expectAll_of_spell (by decide : ['{', '{'] ∈ spell openKinds) h
  have hembed : ¬ c.sees embedKinds = true := by
    rw [sees_embedKinds_iff h]
    simp [hu]
  unfold bodyStep
  rw [if_neg hembed, if_pos (sees_openKinds.mpr ⟨u, h.symm⟩), openCommand, Action.bind_ok hts,
    Action.pure_apply, ht]

theorem bodyStep_close (rules : List Rule) (h : ¬ Opens c.rest) :
    bodyStep rules c = (do
      let _ ← closeCommand
      pure (rules, false) : Reading _) c := by
  have hembed : ¬ c.sees embedKinds = true := by
    rw [sees_embedKinds]
    rintro ⟨name, r, -, he⟩
    exact h ⟨name ++ closing ++ r, by rw [he]; rfl⟩
  unfold bodyStep
  rw [if_neg hembed, if_neg (by rwa [sees_openKinds])]

/-! ### Whole bodies -/

/-- A body is text up to its end or to opening braces within it. -/
theorem exists_body_split {b y : Text} (hb : ClearOf LineClose b y) (hy : y = [] ∨ LineClose y) :
    ∃ x b', b = x ++ b' ∧ ClearOf (Breaks bodyBreaks) x (b' ++ y) ∧
      (b' ++ y = [] ∨ Breaks bodyBreaks (b' ++ y)) ∧ (b' = [] ∨ Opens b') := by
  obtain ⟨x, v, hxv, hx, hv⟩ := exists_first (Breaks bodyBreaks) (b ++ y)
  obtain ⟨b', rfl, rfl⟩ : ∃ b', b = x ++ b' ∧ v = b' ++ y := by
    rcases List.append_eq_append_iff.mp hxv with ⟨q, rfl, rfl⟩ | ⟨b', rfl, rfl⟩
    · have hq : q = [] := by
        by_contra hne
        refine hx q (List.suffix_append b q) hne ((breaks_bodyBreaks _).mpr (.inr ?_))
        exact hy.resolve_left (by simp [hne])
      subst hq
      exact ⟨[], by simp, by simp⟩
    · exact ⟨b', rfl, rfl⟩
  refine ⟨x, b', rfl, hx, hv, ?_⟩
  by_cases hne : b' = []
  · exact .inl hne
  have hbreak := (breaks_bodyBreaks _).mp (hv.resolve_left (by simp [hne]))
  rcases hbreak with ⟨u, hu⟩ | hclose
  · right
    cases b' with
    | nil => exact absurd rfl hne
    | cons a b' =>
      cases b' with
      | nil =>
        rw [List.singleton_append] at hu
        exact absurd ⟨u, (List.cons.inj hu).2⟩ (not_startsWith_brace hy)
      | cons a' b' =>
        simp only [List.cons_append, List.cons.injEq] at hu
        obtain ⟨rfl, rfl, -⟩ := hu
        exact ⟨b', rfl⟩
  · exact absurd hclose ((clearOf_append.mp hb).2 b' List.suffix_rfl hne)

/-- The first step of a body takes the text in front of it. -/
theorem bodyPass_of_clear {x v : Text} (h : c.rest = x ++ v) (hx : ClearOf (Breaks bodyBreaks) x v)
    (hv : v = [] ∨ Breaks bodyBreaks v) (rules : List Rule) :
    bodyPass rules c
      = bodyStep (if x = [] then rules else addText x rules) (c.skip x.length) := by
  obtain ⟨ts, hts, rfl, hnil⟩ := readUntilAny_of_clear separable_bodyBreaks h hx hv
  refine (Action.bind_ok hts _).trans ?_
  by_cases he : ts = []
  · rw [if_pos (hnil.mp he), he]
    rfl
  · rw [if_neg (fun ht => he (hnil.mpr ht)), if_neg (by simpa using he)]

theorem bodyFrom_more {rules rules' : List Rule} {d : Cursor}
    (h : bodyPass rules c = (.ok (rules', true), d)) : bodyFrom rules c = bodyFrom rules' d := by
  rw [bodyFrom, h]

theorem bodyFrom_close {rules rules' : List Rule} {d : Cursor}
    (h : bodyPass rules c = (do
      let _ ← closeCommand
      pure (rules', false) : Reading _) d) :
    bodyFrom rules c = (do
      let _ ← closeCommand
      pure rules'.reverse : Reading _) d := by
  rcases hc : closeCommand d with ⟨_ | ts, e⟩
  · rw [Action.bind_error hc] at h ⊢
    rw [bodyFrom, h]
  · rw [Action.bind_ok hc] at h ⊢
    rw [bodyFrom, h]
    rfl

theorem clearOf_opens {x y : Text} (h : ClearOf (Breaks bodyBreaks) x y) : ClearOf Opens x y :=
  h.mono fun u hu => (breaks_bodyBreaks u).mpr (.inl hu)

/-- A body is read up to the first newline with closing braces behind it, and closed there. -/
theorem bodyFrom_eq {b y : Text} (h : c.rest = b ++ y) (hb : ClearOf LineClose b y)
    (hy : y = [] ∨ LineClose y) (rules : List Rule) :
    bodyFrom rules c = (do
      let _ ← closeCommand
      pure (rulesFrom rules b).reverse : Reading _) (c.skip b.length) := by
  -- on the length of the body: a step leaves a shorter body with the same text behind it
  induction hn : b.length using Nat.strongRecOn generalizing b c rules with
  | ind n ih =>
    obtain ⟨x, b', rfl, hx, hv, hopen⟩ := exists_body_split hb hy
    rw [List.append_assoc] at h
    have hpass := bodyPass_of_clear h hx hv rules
    have hm := Cursor.rest_skip_of_append h
    rw [List.length_append] at hn
    have hnot : ClearOf Opens x b' := by
      intro q hq hne ho
      refine clearOf_opens hx q hq hne ?_
      rw [← List.append_assoc]
      exact ho.trans (List.prefix_append _ y)
    rw [rulesFrom_of_clear hnot]
    rcases hopen with rfl | ⟨u, rfl⟩
    · have hclose : ¬ Opens (c.skip x.length).rest := by
        rw [hm]
        rintro ⟨u, hu⟩
        exact not_startsWith_brace hy ⟨'{' :: u, hu⟩
      rw [bodyStep_close _ hclose] at hpass
      rw [bodyFrom_close hpass, rulesFrom_nil, ← hn, List.length_nil, Nat.add_zero]
    · rw [List.append_assoc] at hm
      have hu := (clearOf_append.mp (clearOf_append.mp hb).2).2
      simp only [List.length_append, List.length_cons, List.length_nil] at hn
      cases he : embedAt? (u ++ y) with
      | none =>
        rw [bodyStep_braces hm he] at hpass
        rw [bodyFrom_more hpass, ih u.length (by omega) (Cursor.rest_skip_of_append hm) hu _ rfl,
          Cursor.skip_skip, Cursor.skip_skip, ← hn]
        simp only [List.cons_append, List.nil_append]
        rw [rulesFrom_braces (embedAt?_eq_none_of_append he)]
        simp only [List.length_cons, List.length_nil, Nat.add_assoc]
      | some found =>
        obtain ⟨name, r⟩ := found
        obtain ⟨r', hr'⟩ := embedAt?_append hy he
        rw [bodyStep_embed hm he] at hpass
        have hfound := (embedAt?_eq_some_iff.mp hr').2
        have hrest : (c.skip x.length).rest
            = (['{', '{'] ++ (name ++ closing)) ++ (r' ++ y) := by
          rw [hm, hfound]
          simp only [List.append_assoc]
        have hlen := congrArg List.length hfound
        simp only [List.length_append] at hlen
        rw [hfound, clearOf_append] at hu
        have hskip : x.length + ((['{', '{'] ++ (name ++ closing)).length + r'.length) = n := by
          simp only [List.length_append, List.length_cons, List.length_nil]
          omega
        rw [bodyFrom_more hpass, ih r'.length (by omega) (Cursor.rest_skip_of_append hrest) hu.2 _
          rfl, Cursor.skip_skip, Cursor.skip_skip, hskip]
        simp only [List.cons_append, List.nil_append]
        rw [rulesFrom_embed hr']

/-- A body with a closing line stands for the rules of the text in front of it. -/
theorem body_of_lineClose {b nl r : Text} (hnl : nl ∈ TokenKind.newline.spellings)
    (h : c.rest = b ++ (nl ++ closing ++ r)) (hb : ClearOf LineClose b (nl ++ closing ++ r)) :
    body c = (.ok (rulesOf b),
      c.skip (b.length + (nl ++ closing ++ frontNewline r).length)) := by
  have hm := Cursor.rest_skip_of_append h
  obtain ⟨ts, hts⟩ := closeCommand_of_closing (.inr hnl) hm
  rw [body, bodyFrom_eq h hb (.inr ⟨nl, hnl, List.prefix_append _ r⟩), Action.bind_ok hts,
    Action.pure_apply, Cursor.skip_skip]
  rfl

/-- A body without a closing line does not end. -/
theorem body_of_clear (h : ClearOf LineClose c.rest []) :
    body c = (.error (.unclosed (c.offset + c.rest.length)), c.skip c.rest.length) := by
  have hrest : c.rest = c.rest ++ [] := by simp
  have hm := Cursor.rest_skip_of_append hrest
  rw [body, bodyFrom_eq hrest h (.inl rfl), Action.bind_error (closeCommand_of_rest_nil hm)]
  rfl

/-- What a body that has been read looks like. -/
theorem body_eq_ok {rules : List Rule} {d : Cursor} (h : body c = (.ok rules, d)) :
    ∃ b nl r, nl ∈ TokenKind.newline.spellings ∧ c.rest = b ++ (nl ++ closing ++ r) ∧
      ClearOf LineClose b (nl ++ closing ++ r) ∧ rules = rulesOf b ∧
      d = c.skip (b.length + (nl ++ closing ++ frontNewline r).length) := by
  obtain ⟨b, y, hc, hb, hy⟩ := exists_first LineClose c.rest
  rcases hy with rfl | ⟨nl, hnl, r, rfl⟩
  · rw [List.append_nil] at hc
    subst hc
    rw [body_of_clear hb] at h
    simp at h
  · rw [body_of_lineClose hnl hc hb] at h
    simp only [Prod.mk.injEq, Except.ok.injEq] at h
    exact ⟨b, nl, r, hnl, hc, hb, h.1.symm, h.2.symm⟩

/-! ### Closing lines -/

theorem closing_prefix_of_newline {nl q u : Text} (hnl : nl ∈ TokenKind.newline.spellings)
    (h : closing <+: q ++ (nl ++ u)) : closing <+: q := by
  rcases TokenKind.mem_newline.mp hnl with rfl | rfl
  · exact prefix_of_prefix_append_cons (by decide) h
  · exact prefix_of_prefix_append_cons (by decide) h

/-- The first closing line can be told by the text in front of it. -/
theorem clearOf_lineClose_iff {b nl r : Text} (hnl : nl ∈ TokenKind.newline.spellings) :
    ClearOf LineClose b (nl ++ closing ++ r) ↔
      ¬ '\n' :: closing <:+: b ∧ (nl = ['\n'] → ¬ ['\r'] <:+ b) := by
  constructor
  · intro h
    constructor
    · rintro ⟨s, t, rfl⟩
      refine h ('\n' :: closing ++ t) ⟨s, by simp⟩ (by simp) ⟨['\n'], by decide, ?_⟩
      exact ⟨t ++ (nl ++ closing ++ r), by simp⟩
    · rintro rfl hcr
      exact h ['\r'] hcr (by simp) ⟨['\r', '\n'], by decide, r, rfl⟩
  · rintro ⟨hnone, hcr⟩ q hq hne ⟨nl', hnl', hpre⟩
    rw [List.append_assoc nl] at hpre
    have inner : ∀ q', '\n' :: q' <:+ b → ¬ closing <+: q' ++ (nl ++ (closing ++ r)) := by
      intro q' hq' hc
      have hin : '\n' :: closing <+: '\n' :: q' :=
        List.cons_prefix_cons.mpr ⟨rfl, closing_prefix_of_newline hnl hc⟩
      exact hnone (hin.isInfix.trans hq'.isInfix)
    obtain ⟨a, q, rfl⟩ := List.exists_cons_of_ne_nil hne
    rcases TokenKind.mem_newline.mp hnl' with rfl | rfl
    · rw [List.singleton_append, List.cons_append, List.cons_prefix_cons] at hpre
      obtain ⟨rfl, hpre⟩ := hpre
      exact inner q hq hpre
    · rw [List.cons_append, List.singleton_append, List.cons_append, List.cons_prefix_cons] at hpre
      obtain ⟨rfl, hpre⟩ := hpre
      cases q with
      | nil =>
        rcases TokenKind.mem_newline.mp hnl with rfl | rfl
        · exact hcr rfl hq
        · simp at hpre
      | cons a' q =>
        rw [List.cons_append, List.cons_prefix_cons] at hpre
        obtain ⟨rfl, hpre⟩ := hpre
        exact inner q ((List.suffix_cons _ _).trans hq) hpre

end Weave.Document
