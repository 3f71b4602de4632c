import Weave.Document.Sections
import Weave.Proofs.Document.Bodies

/-!
# Reading definitions

The header of a definition ends at three hash marks or at a line that starts with closing braces.
-/

set_option autoImplicit false

namespace Weave.Document

open TokenKind (Separable Breaks spell)

variable {c : Cursor}

/-- The marks between a header and a body. -/
def separator : Text := ['#', '#', '#']

def headerBreaks : List (List TokenKind) := [separatorKinds, lineCloseKinds]

theorem separable_headerBreaks : Separable headerBreaks :=
  ⟨by decide, by decide, by decide⟩

theorem breaks_headerBreaks (u : Text) :
    Breaks headerBreaks u ↔ separator <+: u ∨ LineClose u := by
  simp [Breaks, headerBreaks, separatorKinds, lineCloseKinds, closeKinds, spell,
    TokenKind.spellings, LineClose, separator, closing]

def HasClosingLine (t : Text) : Prop := closing <+: t ∨ '\n' :: closing <:+: t

def CompleteLines (t : Text) : Prop := t = [] ∨ ['\n'] <:+ t

theorem exists_eq_concat_of_suffix {nl h q : Text} (hnl : nl ∈ TokenKind.newline.spellings)
    (hh : CompleteLines h) (hq : q <:+ nl ++ h) (hne : q ≠ []) : ∃ q', q = q' ++ ['\n'] := by
  have hend : ['\n'] <:+ nl ++ h := by
    rcases hh with rfl | hh
    · rcases TokenKind.mem_newline.mp hnl with rfl | rfl <;> decide
    · exact hh.trans (List.suffix_append nl h)
  obtain ⟨q', hq'⟩ := List.suffix_of_suffix_length_le hend hq (List.length_pos_iff.mpr hne)
  exact ⟨q', hq'.symm⟩

/-- A closing line behind a text of complete lines is not one of these. -/
theorem prefix_newline_closing {q w : Text} (hw : ¬ closing <+: w)
    (h : '\n' :: closing <+: q ++ '\n' :: w) : '\n' :: closing <+: q := by
  cases q with
  | nil =>
    rw [List.nil_append, List.cons_prefix_cons] at h
    exact absurd h.2 hw
  | cons a q =>
    rw [List.cons_append, List.cons_prefix_cons] at h
    exact List.cons_prefix_cons.mpr ⟨h.1, prefix_of_prefix_append_cons (by decide) h.2⟩

theorem isInfix_of_lineClose {q w : Text} (hw : ¬ closing <+: w)
    (h : LineClose (q ++ '\n' :: w)) : '\n' :: closing <:+: q := by
  obtain ⟨nl, hnl, hpre⟩ := h
  rcases TokenKind.mem_newline.mp hnl with rfl | rfl
  · exact (prefix_newline_closing hw hpre).isInfix
  · cases q with
    | nil => simp at hpre
    | cons a q =>
      have htail : '\n' :: closing <+: q ++ '\n' :: w := (List.cons_prefix_cons.mp hpre).2
      exact (prefix_newline_closing hw htail).isInfix.trans (List.suffix_cons a q).isInfix

theorem hasClosingLine_of_isInfix {nl h : Text} (hnl : nl ∈ TokenKind.newline.spellings)
    (hi : '\n' :: closing <:+: nl ++ h) : HasClosingLine h := by
  have hline : '\n' :: closing <:+: '\n' :: h → HasClosingLine h := by
    intro hi
    rcases List.infix_cons_iff.mp hi with hp | hi
    · exact .inl (List.cons_prefix_cons.mp hp).2
    · exact .inr hi
  rcases TokenKind.mem_newline.mp hnl with rfl | rfl
  · exact hline hi
  · rcases List.infix_cons_iff.mp hi with hp | hi
    · simp at hp
    · exact hline hi

theorem isInfix_separator {nl h : Text} (hnl : nl ∈ TokenKind.newline.spellings)
    (hi : separator <:+: nl ++ h) : separator <:+: h := by
  rcases TokenKind.mem_newline.mp hnl with rfl | rfl
  · simpa [List.infix_cons_iff, separator] using hi
  · simpa [List.infix_cons_iff, separator] using hi

/-- A header of complete lines ends at the separator behind it exactly if it holds no other separator
and no closing line. -/
theorem clearOf_headerBreaks_iff {nl h w : Text} (hnl : nl ∈ TokenKind.newline.spellings)
    (hh : CompleteLines h) :
    ClearOf (Breaks headerBreaks) (nl ++ h) (separator ++ w) ↔
      ¬ separator <:+: h ∧ ¬ HasClosingLine h := by
  constructor
  · intro hc
    refine ⟨?_, ?_⟩
    · rintro ⟨s, t, rfl⟩
      refine hc (separator ++ t) ⟨nl ++ s, by simp⟩ (by simp [separator]) ?_
      exact (breaks_headerBreaks _).mpr (.inl ⟨t ++ (separator ++ w), by simp⟩)
    · rintro (⟨t, rfl⟩ | ⟨s, t, rfl⟩)
      · refine hc (nl ++ (closing ++ t)) List.suffix_rfl (by simp [closing]) ?_
        refine (breaks_headerBreaks _).mpr (.inr ⟨nl, hnl, t ++ (separator ++ w), by simp⟩)
      · refine hc ('\n' :: closing ++ t) ⟨nl ++ s, by simp⟩ (by simp) ?_
        refine (breaks_headerBreaks _).mpr (.inr ⟨['\n'], by decide, t ++ (separator ++ w), ?_⟩)
        simp
  · rintro ⟨hsep, hclose⟩ q hq hne hbreak
    obtain ⟨q', rfl⟩ := exists_eq_concat_of_suffix hnl hh hq hne
    have hin : q' <:+: nl ++ h := (List.prefix_append q' ['\n']).isInfix.trans hq.isInfix
    rw [List.append_assoc, List.singleton_append] at hbreak
    rcases (breaks_headerBreaks _).mp hbreak with hs | hl
    · have hs' := prefix_of_prefix_append_cons (by decide) hs
      exact hsep (isInfix_separator hnl (hs'.isInfix.trans hin))
    · have hl' := isInfix_of_lineClose (by simp [separator, closing]) hl
      exact hclose (hasClosingLine_of_isInfix hnl (hl'.trans hin))

/-! ### Steps of a definition -/

theorem sees_of_expectAll {ks : List TokenKind} {ts : List Token} {d : Cursor}
    (h : expectAll ks c = (.ok ts, d)) : c.sees ks = true := by
  induction ks generalizing c ts d with
  | nil => exact Cursor.sees_nil c
  | cons k ks ih =>
    obtain ⟨t, m, hk, hks⟩ := Action.bind_eq_ok h
    obtain ⟨us, n, hus, -⟩ := Action.bind_eq_ok hks
    obtain ⟨hkind, -, rfl⟩ := expect_eq_ok hk
    exact (Cursor.sees_cons _ _ _).mpr ⟨hkind, ih hus⟩

theorem separator_append_mem_spell {nl : Text} (hnl : nl ∈ TokenKind.newline.spellings) :
    separator ++ nl ∈ spell (separatorKinds ++ [.newline]) := by
  rcases TokenKind.mem_newline.mp hnl with rfl | rfl <;> decide

/-- A header is read up to the first place where it ends. -/
theorem definition_of_clear {name x v : Text} (hclose : ¬ closing <+: c.rest) (h : c.rest = x ++ v)
    (hx : ClearOf (Breaks headerBreaks) x v) (hv : v = [] ∨ Breaks headerBreaks v) :
    definition name c = (do
      let header ← readHeader x
      let rules ← rulesBehindHeader
      pure (.define ⟨name, header, rules⟩) : Reading _) (c.skip x.length) := by
  obtain ⟨ts, hts, rfl, -⟩ := readUntilAny_of_clear separable_headerBreaks h hx hv
  unfold definition
  rw [if_neg (by rwa [sees_closeKinds])]
  exact Action.bind_ok hts _

theorem rulesBehindHeader_of_lineClose {nl r : Text} (hnl : nl ∈ TokenKind.newline.spellings)
    (h : c.rest = nl ++ closing ++ r) :
    rulesBehindHeader c = (.ok [], c.skip (nl ++ closing ++ frontNewline r).length) := by
  obtain ⟨ts, hts⟩ := closeCommand_of_closing (.inr hnl) h
  unfold rulesBehindHeader
  rw [if_pos (sees_lineCloseKinds.mpr ⟨nl, hnl, r, h.symm⟩), Action.bind_ok hts, Action.pure_apply]

theorem not_sees_lineCloseKinds {u : Text} (h : c.rest = separator ++ u) :
    ¬ c.sees lineCloseKinds = true := by
  rw [sees_lineCloseKinds, h]
  rintro ⟨nl, hnl, hpre⟩
  rcases TokenKind.mem_newline.mp hnl with rfl | rfl <;> simp [separator] at hpre

theorem rulesBehindHeader_of_separator {nl u : Text} (hnl : nl ∈ TokenKind.newline.spellings)
    (h : c.rest = separator ++ nl ++ u) :
    rulesBehindHeader c = body (c.skip (separator ++ nl).length) := by
  obtain ⟨ts, hts, -⟩ := expectAll_of_spell (separator_append_mem_spell hnl) h
  unfold rulesBehindHeader
  rw [if_neg (not_sees_lineCloseKinds (by rw [h, List.append_assoc])), Action.bind_ok hts]

/-- Behind the separator a newline must follow. -/
theorem rulesBehindHeader_eq_ok {u : Text} {rules : List Rule} {d : Cursor}
    (h : c.rest = separator ++ u) (hr : rulesBehindHeader c = (.ok rules, d)) :
    ∃ nl u', nl ∈ TokenKind.newline.spellings ∧ u = nl ++ u' ∧
      body (c.skip (separator ++ nl).length) = (.ok rules, d) := by
  have hbody := hr
  unfold rulesBehindHeader at hbody
  rw [if_neg (not_sees_lineCloseKinds h)] at hbody
  obtain ⟨ts, m, hts, -⟩ := Action.bind_eq_ok hbody
  obtain ⟨s, hs, r, hsr⟩ := (Cursor.sees_iff_spell (by decide) c).mp (sees_of_expectAll hts)
  obtain ⟨nl, hnl, rfl⟩ : ∃ nl ∈ TokenKind.newline.spellings, s = separator ++ nl := by
    simpa [separatorKinds, spell, TokenKind.spellings, separator] using hs
  refine ⟨nl, r, hnl, ?_, ?_⟩
  · rw [h, List.append_assoc] at hsr
    exact (List.append_cancel_left hsr).symm
  · rwa [← rulesBehindHeader_of_separator hnl hsr.symm]

end Weave.Document
