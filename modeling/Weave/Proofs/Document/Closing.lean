import Weave.Proofs.Document.Commands

/-!
# Where definitions close

The body of a definition is to end at the first line behind the separator that starts with closing
braces. A body ends at a newline with closing braces behind it, but the newline behind the separator
is taken before the body is read: braces in the line directly behind the separator are text.
-/

set_option autoImplicit false

namespace Weave.Document

/-- The first line of `t` that starts with closing braces comes behind `b`, and `r` behind its
braces. -/
inductive FirstClosing : Text → Text → Text → Prop
  | atOnce (r : Text) : FirstClosing (closing ++ r) [] r
  | later {b nl : Text} (hb : ¬ HasClosingLine b) (hnl : EndsLine b nl) (r : Text) :
      FirstClosing (b ++ (nl ++ closing ++ r)) b r

/-- The definition at a position of a document reads as one of this name and header whose rules are
written as `b`, and ends in front of `r` or behind a newline at the front of `r`. -/
def ClosesAt (document : Text) (position : Nat) (name : Text) (header : Header) (b r : Text) :
    Prop :=
  ∃ rules e, (r = e ∨ ∃ nl ∈ TokenKind.newline.spellings, r = nl ++ e) ∧ written rules = b ∧
    command (Cursor.ofText document position)
      = (.ok (.define ⟨name, header, rules⟩),
        Cursor.ofText document (document.length - e.length))

theorem length_newline {nl : Text} (h : nl ∈ TokenKind.newline.spellings) :
    1 ≤ nl.length ∧ nl.length ≤ 2 := by
  rcases TokenKind.mem_newline.mp h with rfl | rfl <;> simp

theorem length_frontNewline (r : Text) : (frontNewline r).length ≤ 2 := by
  rcases frontNewline_cases r with h | ⟨h, -⟩
  · exact (length_newline h).2
  · simp [h]

namespace FirstClosing

variable {t b r : Text}

theorem eq_of_closing (h : FirstClosing t b r) (ht : closing <+: t) : b = [] ∧ t = closing ++ r := by
  cases h with
  | atOnce => exact ⟨rfl, rfl⟩
  | later hb hnl =>
    rw [List.append_assoc] at ht
    exact absurd (.inl (closing_prefix_of_newline hnl.1 ht)) hb

theorem exists_newline (h : FirstClosing t b r) (ht : ¬ closing <+: t) :
    ∃ nl, EndsLine b nl ∧ ¬ HasClosingLine b ∧ t = b ++ (nl ++ closing ++ r) := by
  cases h with
  | atOnce => exact absurd (List.prefix_append closing r) ht
  | @later b nl hb hnl => exact ⟨nl, hnl, hb, rfl⟩

theorem length_le (h : FirstClosing t b r) : b.length + 2 + r.length ≤ t.length ∧
    (t.length = b.length + 2 + r.length → b = []) := by
  cases h with
  | atOnce =>
    refine ⟨?_, fun _ => rfl⟩
    simp only [closing, List.length_append, List.length_cons, List.length_nil]
    omega
  | later hb hnl =>
    have hlen := (length_newline hnl.1).1
    simp only [closing, List.length_append, List.length_cons, List.length_nil]
    omega

end FirstClosing

/-- A body that has been read is written as it stands in the text, and closed with at most two
newlines. -/
theorem body_written {c d : Cursor} {rules : List Rule} (h : body c = (.ok rules, d)) :
    ∃ nl r, nl ∈ TokenKind.newline.spellings ∧ c.rest = written rules ++ (nl ++ closing ++ r) ∧
      d.rest.length + 2 ≥ r.length ∧ d.rest.length ≤ r.length := by
  obtain ⟨b, nl, r, hnl, hc, -, rfl, rfl⟩ := body_eq_ok h
  refine ⟨nl, r, hnl, by rw [written_rulesOf, hc], ?_, ?_⟩
  · have := length_frontNewline r
    simp only [Cursor.skip_rest, List.length_drop, hc, List.length_append]
    omega
  · simp only [Cursor.skip_rest, List.length_drop, hc, List.length_append]
    omega

/-- A separator at the front of complete lines leaves some of these to the body. -/
theorem exists_of_separator {nl u q w : Text} (hnl : nl ∈ TokenKind.newline.spellings)
    (h : separator ++ (nl ++ u) = q ++ '\n' :: w) : ∃ q', u = q' ++ w := by
  obtain ⟨q, rfl⟩ : separator <+: q := prefix_of_prefix_append_cons (by decide) ⟨_, h⟩
  rw [List.append_assoc] at h
  have hline : ∀ q : Text, '\n' :: u = q ++ '\n' :: w → ∃ q', u = q' ++ w := by
    intro q hq
    cases q with
    | nil => exact ⟨[], (List.cons.inj hq).2⟩
    | cons a q => exact ⟨q ++ ['\n'], by rw [(List.cons.inj hq).2]; simp⟩
  have hq := List.append_cancel_left h
  rcases TokenKind.mem_newline.mp hnl with rfl | rfl
  · exact hline q hq
  · cases q with
    | nil => simp at hq
    | cons a q => exact hline q (List.cons.inj hq).2

/-- A definition whose header ends within its lines ends elsewhere or holds more text. -/
theorem header_not_early {c d : Cursor} {q nl t b r : Text} {rules : List Rule}
    (hnl : nl ∈ TokenKind.newline.spellings) (ht : FirstClosing t b r)
    (hc : c.rest = q ++ '\n' :: (separator ++ (nl ++ t)))
    (hbreak : TokenKind.Breaks headerBreaks c.rest)
    (hr : rulesBehindHeader c = (.ok rules, d)) (hd : d.rest.length ≤ r.length) :
    written rules ≠ b := by
  rintro rfl
  have hlen := ht.length_le
  have hone := (length_newline hnl).1
  have htotal := congrArg List.length hc
  simp only [separator, List.length_append, List.length_cons, List.length_nil] at htotal
  rcases (breaks_headerBreaks _).mp hbreak with ⟨u, hu⟩ | ⟨nl', hnl', u, hu⟩
  · obtain ⟨nl', u', hnl', rfl, hbody⟩ := rulesBehindHeader_eq_ok hu.symm hr
    obtain ⟨q', rfl⟩ := exists_of_separator hnl' (hu.trans hc)
    obtain ⟨nl'', r', hnl'', hrest, hr'⟩ := body_written hbody
    rw [Cursor.skip_rest, ← hu, ← List.append_assoc, List.drop_left] at hrest
    have hn := (length_newline hnl'').2
    have hl := congrArg List.length hrest
    simp only [separator, closing, List.length_append, List.length_cons, List.length_nil] at hl
    obtain rfl : q' = [] := List.length_eq_zero_iff.mp (by omega)
    have hb : written rules = [] := hlen.2 (by omega)
    rw [hb] at hrest
    rcases TokenKind.mem_newline.mp hnl'' with rfl | rfl <;> simp [separator] at hrest
  · rw [rulesBehindHeader_of_lineClose hnl' hu.symm] at hr
    simp only [Prod.mk.injEq, Except.ok.injEq] at hr
    obtain ⟨rfl, rfl⟩ := hr
    have h1 := (length_newline hnl').2
    have h2 := length_frontNewline u
    simp only [Cursor.skip_rest, List.length_drop, ← hu, closing, List.length_append,
      List.length_cons, List.length_nil] at hd htotal
    omega

section

variable {before name nl₁ h nl₂ t b r : Text} {header : Header}

/-- A definition closes at the first closing line that is not the one directly behind the
separator. -/
theorem closesAt_of_not_closing (hname : IsWord name) (hnl₁ : EndsLine name nl₁)
    (hh : CompleteLines h) (hnl₂ : nl₂ ∈ TokenKind.newline.spellings)
    (hread : Header.read (nl₁ ++ h) = .ok header) (ht : FirstClosing t b r)
    (hnot : ¬ closing <+: t) (hsep : ¬ separator <:+: h) (hclose : ¬ HasClosingLine h) :
    ClosesAt (before ++ (openedBody name nl₁ h nl₂ ++ t)) before.length name header b r := by
  obtain ⟨nl, hnl, hb, rfl⟩ := ht.exists_newline hnot
  have hc := Cursor.ofText_rest_append before (openedBody name nl₁ h nl₂ ++ (b ++ (nl ++ closing ++ r)))
  have hclear := (clearOf_lineClose_iff (r := r) hnl.1).mpr ⟨fun hi => hb (.inr hi), hnl.2⟩
  have hbody := body_of_lineClose hnl.1 (Cursor.rest_skip_of_append hc) hclear
  obtain ⟨e, he⟩ := frontNewline_prefix r
  refine ⟨rulesOf b, e, ?_, written_rulesOf b, ?_⟩
  · rcases frontNewline_cases r with hr | ⟨hr, -⟩
    · exact .inr ⟨_, hr, he.symm⟩
    · rw [hr, List.nil_append] at he
      exact .inl he.symm
  · rw [command_of_openedBody hname hnl₁ hh hnl₂ hsep hclose hread hc, Action.bind_ok hbody,
      Action.pure_apply, Cursor.skip_ofText, Cursor.skip_ofText]
    have hlen := congrArg List.length he
    simp only [List.length_append] at hlen
    have hpos : before.length + (openedBody name nl₁ h nl₂).length
          + (b.length + (nl ++ closing ++ frontNewline r).length)
        = (before ++ (openedBody name nl₁ h nl₂ ++ (b ++ (nl ++ closing ++ r)))).length
          - e.length := by
      simp only [List.length_append]
      omega
    rw [hpos]

/-- A definition that closes has read a header and the rules behind it. -/
theorem ClosesAt.exists_header {u : Text} (hname : IsWord name) (hb : Boundary name u)
    (hu : ¬ closing <+: u)
    (hc : ClosesAt (before ++ (opened .define name ++ u)) before.length name header b r) :
    ∃ x c rules d, u = x ++ c.rest ∧ ClearOf (TokenKind.Breaks headerBreaks) x c.rest ∧
      (c.rest = [] ∨ TokenKind.Breaks headerBreaks c.rest) ∧
      rulesBehindHeader c = (.ok rules, d) ∧ written rules = b ∧ d.rest.length ≤ r.length := by
  obtain ⟨rules, e, he, hw, hcmd⟩ := hc
  have hrest := Cursor.ofText_rest_append before (opened .define name ++ u)
  have hm := Cursor.rest_skip_of_append hrest
  obtain ⟨x, v, rfl, hx, hv⟩ := exists_first (TokenKind.Breaks headerBreaks) u
  have hv' := Cursor.rest_skip_of_append hm
  rw [command_of_opened .define hname hb hrest, behindName,
    definition_of_clear (by rwa [hm]) hm hx hv] at hcmd
  obtain ⟨header', m, hread, hdef⟩ := Action.bind_eq_ok hcmd
  obtain ⟨rules', d, hrules, hpure⟩ := Action.bind_eq_ok hdef
  simp only [Action.pure_apply, Prod.mk.injEq, Except.ok.injEq, Section.define.injEq,
    Snippet.mk.injEq] at hpure
  obtain ⟨⟨-, -, rfl⟩, rfl⟩ := hpure
  unfold readHeader at hread
  split at hread
  · simp only [Prod.mk.injEq] at hread
    obtain ⟨-, rfl⟩ := hread
    refine ⟨x, _, rules', _, by rw [hv'], by rwa [hv'], by rwa [hv'], hrules, hw, ?_⟩
    have hlen : e.length ≤ r.length := by
      rcases he with rfl | ⟨nl, -, rfl⟩ <;> simp
    simp only [Cursor.ofText, List.length_drop]
    omega
  · simp at hread

/-- If the rules behind a header are those in front of the first closing line, then all header lines
belong to the header. -/
theorem header_eq_of_rules {x : Text} {c d : Cursor} {rules : List Rule}
    (hnl₁ : nl₁ ∈ TokenKind.newline.spellings) (hh : CompleteLines h)
    (hnl₂ : nl₂ ∈ TokenKind.newline.spellings) (ht : FirstClosing t (written rules) r)
    (hx : (nl₁ ++ h) ++ (separator ++ (nl₂ ++ t)) = x ++ c.rest)
    (hclear : ClearOf (TokenKind.Breaks headerBreaks) x c.rest)
    (hbreak : c.rest = [] ∨ TokenKind.Breaks headerBreaks c.rest)
    (hrules : rulesBehindHeader c = (.ok rules, d)) (hd : d.rest.length ≤ r.length) :
    x = nl₁ ++ h ∧ c.rest = separator ++ (nl₂ ++ t) := by
  rcases List.append_eq_append_iff.mp hx with ⟨q, rfl, hw⟩ | ⟨q, hq, hrest⟩
  · by_cases hne : q = []
    · subst hne
      exact ⟨by simp, by rw [hw]; rfl⟩
    · refine absurd ((breaks_headerBreaks _).mpr (.inl ?_))
        (hclear q (List.suffix_append _ q) hne)
      rw [← hw]
      exact List.prefix_append separator _
  · by_cases hne : q = []
    · subst hne
      exact ⟨by rw [hq]; simp, by rw [hrest]; rfl⟩
    · exfalso
      obtain ⟨q, rfl⟩ := exists_eq_concat_of_suffix hnl₁ hh ⟨x, hq.symm⟩ hne
      rw [List.append_assoc, List.singleton_append] at hrest
      exact header_not_early hnl₂ ht hrest (hbreak.resolve_left (by simp [hrest])) hrules hd rfl

/-- A definition of a readable header closes at the first line behind the separator that starts with
closing braces exactly if that is not the line directly behind the separator, and the header holds
neither the separator nor such a line. -/
theorem closesAt_first_closing_line_iff (hname : IsWord name) (hnl₁ : EndsLine name nl₁)
    (hh : CompleteLines h) (hnl₂ : nl₂ ∈ TokenKind.newline.spellings)
    (hread : Header.read (nl₁ ++ h) = .ok header) (ht : FirstClosing t b r) :
    ClosesAt (before ++ (openedBody name nl₁ h nl₂ ++ t)) before.length name header b r ↔
      ¬ closing <+: t ∧ ¬ separator <:+: h ∧ ¬ HasClosingLine h := by
  constructor
  · intro hc
    have hdoc : openedBody name nl₁ h nl₂ ++ t
        = opened .define name ++ (nl₁ ++ (h ++ (separator ++ (nl₂ ++ t)))) := by
      simp only [openedBody, List.append_assoc]
    rw [hdoc] at hc
    obtain ⟨x, c, rules, d, hx, hclear, hbreak, hrules, rfl, hd⟩ :=
      hc.exists_header hname (hnl₁.boundary _) (not_closing_prefix_of_newline hnl₁.1)
    rw [← List.append_assoc] at hx
    obtain ⟨rfl, hrest⟩ := header_eq_of_rules hnl₁.1 hh hnl₂ ht hx hclear hbreak hrules hd
    refine ⟨?_, (clearOf_headerBreaks_iff hnl₁.1 hh).mp (by rwa [hrest] at hclear)⟩
    intro hclosing
    obtain ⟨hb, ht'⟩ := ht.eq_of_closing hclosing
    rw [← List.append_assoc] at hrest
    rw [rulesBehindHeader_of_separator hnl₂ hrest] at hrules
    obtain ⟨nl, r', hnl, hbody, -⟩ := body_written hrules
    rw [Cursor.rest_skip_of_append hrest, hb, List.nil_append, List.append_assoc] at hbody
    rw [hbody] at hclosing
    exact not_closing_prefix_of_newline hnl hclosing
  · rintro ⟨hnot, hsep, hclose⟩
    exact closesAt_of_not_closing hname hnl₁ hh hnl₂ hread ht hnot hsep hclose

/-- The same command closes at the line behind the separator only if that line does not start with
closing braces. -/
theorem closesAt_commentHeader :
    ¬ ClosesAt ([] ++ (openedBody ['a'] ['\n'] "# c\n".toList ['\n'] ++ (closing ++ ['\n']))) 0
        ['a'] {} [] ['\n'] ∧
      ClosesAt ([] ++ (openedBody ['a'] ['\n'] "# c\n".toList ['\n']
          ++ (['1'] ++ (['\n'] ++ closing ++ ['\n'])))) 0 ['a'] {} ['1'] ['\n'] := by
  have hname : IsWord ['a'] := by decide
  have hnl : EndsLine ['a'] ['\n'] := ⟨by decide, fun _ => by decide⟩
  have hh : CompleteLines "# c\n".toList := .inr (by decide)
  have hread : Header.read (['\n'] ++ "# c\n".toList) = .ok {} := by rfl
  have hsep : ¬ separator <:+: "# c\n".toList := by decide
  have hclose : ¬ HasClosingLine "# c\n".toList := by
    rintro (h | h)
    · exact absurd h (by decide)
    · exact absurd h (by decide)
  have hone : FirstClosing (['1'] ++ (['\n'] ++ closing ++ ['\n'])) ['1'] ['\n'] := by
    refine .later ?_ ⟨by decide, fun _ => by decide⟩ _
    rintro (h | h)
    · exact absurd h (by decide)
    · exact absurd h (by decide)
  constructor
  · intro h
    exact ((closesAt_first_closing_line_iff hname hnl hh (by decide) hread (.atOnce _)).mp h).1
      (List.prefix_append closing _)
  · exact (closesAt_first_closing_line_iff hname hnl hh (by decide) hread hone).mpr
      ⟨by decide, hsep, hclose⟩

end

end Weave.Document
