import Mathlib.Data.List.Forall2
import Weave.Proofs.Document.Printing

/-!
# Spans of sections

Every section of a document has a span of its own in the text it was read from. The spans stand one
behind the other in the order of the sections, and together they are the text: reading neither drops a
character nor takes one twice, although it looks ahead and goes back.
-/

set_option autoImplicit false

namespace Weave

theorem CommandWord.eq_written_of_ofWord? {w : Text} {k : CommandWord} (h : ofWord? w = some k) :
    w = k.written := by
  obtain ⟨e, he, rfl⟩ := Option.map_eq_some_iff.mp h
  have hw : e.1 = w := by simpa using List.find?_some he
  have hmem := List.mem_of_find?_eq_some he
  simp only [table, List.mem_cons, List.not_mem_nil, or_false] at hmem
  rw [← hw]
  rcases hmem with rfl | rfl | rfl | rfl | rfl <;> rfl

namespace Document

open TokenKind (spell Breaks)

variable {c d : Cursor}

def MaybeNewline (u : Text) : Prop := u ∈ [] :: TokenKind.newline.spellings

theorem maybeNewline_frontNewline (r : Text) : MaybeNewline (frontNewline r) := by
  rcases frontNewline_cases r with h | ⟨h, -⟩
  · exact List.mem_cons_of_mem _ h
  · exact h ▸ List.mem_cons_self

/-- The text that a section is read from. A command starts with opening braces, its word and its name
and ends with closing braces and at most one newline; in between stand the source of the header and that
of the rules, as far as there are any. -/
inductive Span : Section → Text → Prop
  | text {t : Text} (hne : t ≠ []) (ht : ¬ ['{', '{'] <:+: t) : Span (.text t) t
  | show {name lead tail : Text} (hname : IsWord name) (hlead : MaybeNewline lead)
      (htail : MaybeNewline tail) :
      Span (.show name) (opened .show name ++ (lead ++ closing ++ tail))
  | embed {name lead tail : Text} (kind : EmbedKind) (hname : IsWord name)
      (hlead : MaybeNewline lead) (htail : MaybeNewline tail) :
      Span (.embed name kind) (opened (.embed kind) name ++ (lead ++ closing ++ tail))
  | bare {name tail : Text} (hname : IsWord name) (htail : MaybeNewline tail) :
      Span (.define ⟨name, {}, []⟩) (opened .define name ++ (closing ++ tail))
  | headed {name h nl tail : Text} {header : Header} (hname : IsWord name)
      (hread : Header.read h = .ok header) (hnl : nl ∈ TokenKind.newline.spellings)
      (htail : MaybeNewline tail) :
      Span (.define ⟨name, header, []⟩) (opened .define name ++ h ++ (nl ++ closing ++ tail))
  | bodied {name h nl nl' tail : Text} {header : Header} {rules : List Rule} (hname : IsWord name)
      (hread : Header.read h = .ok header) (hnl : nl ∈ TokenKind.newline.spellings)
      (hnl' : nl' ∈ TokenKind.newline.spellings) (htail : MaybeNewline tail) :
      Span (.define ⟨name, header, rules⟩)
        (opened .define name ++ h ++ (separator ++ nl) ++ written rules ++ (nl' ++ closing ++ tail))

def IsText (x : Section) : Prop := ∃ t, x = .text t

/-- At least one of two neighbours is a command. -/
def Apart (x y : Section) : Prop := ¬ (IsText x ∧ IsText y)

theorem Span.not_isText {x : Section} {u : Text} (h : Span x u) (hu : Opens u) : ¬ IsText x := by
  rintro ⟨t, rfl⟩
  cases h with
  | text hne ht => exact ht hu.isInfix

/-! ### What readers have taken -/

theorem rest_skip_append {x y z : Text} (h : c.rest = x ++ y ++ z) :
    c.rest = x ++ y ++ (c.skip (x ++ y).length).rest := by
  rw [Cursor.rest_skip_of_append h, h]

theorem expect_delimiter_eq_ok {k : TokenKind} {t : Token} (hk : k.isDelimiter = true)
    (h : expect k c = (.ok t, d)) : ∃ s ∈ k.spellings, c.rest = s ++ d.rest := by
  obtain ⟨hkind, -, rfl⟩ := expect_eq_ok h
  refine ⟨c.peek.text, ?_, c.rest_eq_peek_text_append⟩
  by_cases hc : c.rest = []
  · have hf : k = .finish := by simpa [Cursor.peek, hc] using hkind.symm
    simp [hf, TokenKind.isDelimiter, TokenKind.spellings] at hk
  · rw [Cursor.peek_eq_front hc] at hkind ⊢
    exact Token.mem_spellings_of_front hk hkind

theorem expectAll_eq_ok {ks : List TokenKind} {ts : List Token}
    (hk : ∀ k ∈ ks, k.isDelimiter = true) (h : expectAll ks c = (.ok ts, d)) :
    ∃ s ∈ spell ks, c.rest = s ++ d.rest := by
  induction ks generalizing c ts with
  | nil =>
    simp only [expectAll, Action.pure_apply, Prod.mk.injEq] at h
    exact ⟨[], by simp [spell], by rw [h.2]; rfl⟩
  | cons k ks ih =>
    obtain ⟨t, m, hfirst, hothers⟩ := Action.bind_eq_ok h
    obtain ⟨us, n, hus, hpure⟩ := Action.bind_eq_ok hothers
    simp only [Action.pure_apply, Prod.mk.injEq] at hpure
    obtain ⟨-, rfl⟩ := hpure
    obtain ⟨s, hs, hc⟩ := expect_delimiter_eq_ok (hk k List.mem_cons_self) hfirst
    obtain ⟨s', hs', hm⟩ := ih (fun k' h' => hk k' (List.mem_cons_of_mem k h')) hus
    refine ⟨s ++ s', ?_, by rw [hc, hm, List.append_assoc]⟩
    exact List.mem_flatMap.mpr ⟨s, hs, List.mem_map.mpr ⟨s', hs', rfl⟩⟩

theorem word_eq_ok {w : Text} (h : word c = (.ok w, d)) : IsWord w ∧ c.rest = w ++ d.rest := by
  obtain ⟨t, m, hexp, hpure⟩ := Action.bind_eq_ok h
  simp only [Action.pure_apply, Prod.mk.injEq, Except.ok.injEq] at hpure
  obtain ⟨rfl, rfl⟩ := hpure
  obtain ⟨hkind, rfl, rfl⟩ := expect_eq_ok hexp
  exact ⟨isWord_of_peek hkind, c.rest_eq_peek_text_append⟩

theorem commandWord_eq_ok {k : CommandWord} (h : commandWord c = (.ok k, d)) :
    c.rest = k.written ++ d.rest := by
  obtain ⟨w, m, hw, hk⟩ := Action.bind_eq_ok h
  obtain ⟨-, hc⟩ := word_eq_ok hw
  cases hword : CommandWord.ofWord? w with
  | none => simp [hword, Action.fail_apply] at hk
  | some k' =>
    simp only [hword, Action.pure_apply, Prod.mk.injEq, Except.ok.injEq] at hk
    obtain ⟨rfl, rfl⟩ := hk
    rw [hc, CommandWord.eq_written_of_ofWord? hword]

/-- Every form in which a command is closed is closing braces with newlines on either side or not. -/
theorem mem_spell_closings : ∀ ks ∈ closings, ∀ s ∈ spell ks,
    ∃ lead ∈ [] :: TokenKind.newline.spellings, ∃ tail ∈ [] :: TokenKind.newline.spellings,
      s = lead ++ closing ++ tail := by decide

theorem closeCommand_eq_ok {ts : List Token} (h : closeCommand c = (.ok ts, d)) :
    ∃ lead tail, MaybeNewline lead ∧ MaybeNewline tail ∧
      c.rest = lead ++ closing ++ tail ++ d.rest := by
  unfold closeCommand at h
  split at h
  · next ks hks =>
    have hmem := List.mem_of_find?_eq_some hks
    obtain ⟨s, hs, hc⟩ := expectAll_eq_ok (closings_isDelimiter ks hmem) h
    obtain ⟨lead, hlead, tail, htail, rfl⟩ := mem_spell_closings ks hmem s hs
    exact ⟨lead, tail, hlead, htail, hc⟩
  · simp at h

theorem readHeader_eq_ok {t : Text} {header : Header} (h : readHeader t c = (.ok header, d)) :
    Header.read t = .ok header ∧ d = c := by
  unfold readHeader at h
  split at h
  · next header' hread =>
    simp only [Prod.mk.injEq, Except.ok.injEq] at h
    exact ⟨h.1 ▸ hread, h.2.symm⟩
  · simp at h

/-! ### Spans of commands -/

theorem body_span {rules : List Rule} (h : body c = (.ok rules, d)) :
    ∃ nl tail, nl ∈ TokenKind.newline.spellings ∧ MaybeNewline tail ∧
      c.rest = written rules ++ (nl ++ closing ++ tail) ++ d.rest := by
  obtain ⟨b, nl, r, hnl, hc, -, rfl, rfl⟩ := body_eq_ok h
  obtain ⟨r', hr'⟩ := frontNewline_prefix r
  refine ⟨nl, frontNewline r, hnl, maybeNewline_frontNewline r, ?_⟩
  have hsplit : c.rest = b ++ (nl ++ closing ++ frontNewline r) ++ r' := by
    rw [hc, List.append_assoc b, List.append_assoc _ _ r', hr']
  rw [written_rulesOf, ← List.length_append]
  exact rest_skip_append hsplit

/-- The rules behind a header are none, or written between the separator and a closing line. -/
theorem rulesBehindHeader_span {rules : List Rule} (h : rulesBehindHeader c = (.ok rules, d)) :
    ∃ nl tail, nl ∈ TokenKind.newline.spellings ∧ MaybeNewline tail ∧
      (rules = [] ∧ c.rest = nl ++ closing ++ tail ++ d.rest ∨
        ∃ nl' ∈ TokenKind.newline.spellings,
          c.rest = separator ++ nl' ++ written rules ++ (nl ++ closing ++ tail) ++ d.rest) := by
  by_cases hclose : LineClose c.rest
  · obtain ⟨nl, hnl, r, hr⟩ := hclose
    rw [rulesBehindHeader_of_lineClose hnl hr.symm] at h
    simp only [Prod.mk.injEq, Except.ok.injEq] at h
    obtain ⟨rfl, rfl⟩ := h
    obtain ⟨r', hr'⟩ := frontNewline_prefix r
    refine ⟨nl, frontNewline r, hnl, maybeNewline_frontNewline r, .inl ⟨rfl, ?_⟩⟩
    exact rest_skip_append (by rw [← hr, List.append_assoc _ _ r', hr'])
  · unfold rulesBehindHeader at h
    rw [if_neg (by rwa [sees_lineCloseKinds])] at h
    obtain ⟨ts, m, hts, hbody⟩ := Action.bind_eq_ok h
    obtain ⟨s, hs, hc⟩ := expectAll_eq_ok (by decide) hts
    obtain ⟨nl', hnl', rfl⟩ : ∃ nl' ∈ TokenKind.newline.spellings, s = separator ++ nl' := by
      simpa [separatorKinds, spell, TokenKind.spellings, separator] using hs
    obtain ⟨nl, tail, hnl, htail, hm⟩ := body_span hbody
    exact ⟨nl, tail, hnl, htail, .inr ⟨nl', hnl', by simp only [hc, hm, List.append_assoc]⟩⟩

/-- What a definition has taken behind its name. -/
theorem definition_span {name : Text} {x : Section} (hname : IsWord name)
    (h : definition name c = (.ok x, d)) :
    ∃ u, Span x (opened .define name ++ u) ∧ c.rest = u ++ d.rest := by
  by_cases hclose : closing <+: c.rest
  · obtain ⟨r, hr⟩ := hclose
    obtain ⟨ts, hts⟩ := closeCommand_of_closing (.inl rfl) hr.symm
    unfold definition at h
    rw [if_pos (by rw [sees_closeKinds]; exact ⟨r, hr⟩), Action.bind_ok hts] at h
    simp only [Action.pure_apply, Prod.mk.injEq, Except.ok.injEq] at h
    obtain ⟨rfl, rfl⟩ := h
    obtain ⟨r', hr'⟩ := frontNewline_prefix r
    refine ⟨closing ++ frontNewline r, .bare hname (maybeNewline_frontNewline r), ?_⟩
    exact rest_skip_append (by rw [← hr, List.append_assoc _ _ r', hr'])
  · obtain ⟨x, v, hc, hx, hv⟩ := exists_first (Breaks headerBreaks) c.rest
    rw [definition_of_clear hclose hc hx hv] at h
    obtain ⟨header, m, hheader, h⟩ := Action.bind_eq_ok h
    obtain ⟨rules, n, hrules, h⟩ := Action.bind_eq_ok h
    simp only [Action.pure_apply, Prod.mk.injEq, Except.ok.injEq] at h
    obtain ⟨rfl, rfl⟩ := h
    obtain ⟨hread, rfl⟩ := readHeader_eq_ok hheader
    have hm := Cursor.rest_skip_of_append hc
    obtain ⟨nl, tail, hnl, htail, ⟨rfl, hn⟩ | ⟨nl', hnl', hn⟩⟩ := rulesBehindHeader_span hrules
    · refine ⟨x ++ (nl ++ closing ++ tail), ?_, ?_⟩
      · rw [← List.append_assoc]
        exact .headed hname hread hnl htail
      · rw [hc, ← hm, hn, List.append_assoc x]
    · refine ⟨x ++ (separator ++ nl') ++ written rules ++ (nl ++ closing ++ tail), ?_, ?_⟩
      · have hspan : Span (.define ⟨name, header, rules⟩) _ :=
          Span.bodied hname hread hnl' hnl htail
        simpa only [List.append_assoc] using hspan
      · rw [hc, ← hm, hn]
        simp only [List.append_assoc]

theorem behindName_span {k : CommandWord} {name : Text} {x : Section} (hname : IsWord name)
    (h : behindName k name c = (.ok x, d)) :
    ∃ u, Span x (opened k name ++ u) ∧ c.rest = u ++ d.rest := by
  cases k with
  | define => exact definition_span hname h
  | «show» =>
    obtain ⟨ts, m, hts, h⟩ := Action.bind_eq_ok h
    simp only [Action.pure_apply, Prod.mk.injEq, Except.ok.injEq] at h
    obtain ⟨rfl, rfl⟩ := h
    obtain ⟨lead, tail, hlead, htail, hc⟩ := closeCommand_eq_ok hts
    exact ⟨_, .show hname hlead htail, hc⟩
  | embed kind =>
    obtain ⟨ts, m, hts, h⟩ := Action.bind_eq_ok h
    simp only [Action.pure_apply, Prod.mk.injEq, Except.ok.injEq] at h
    obtain ⟨rfl, rfl⟩ := h
    obtain ⟨lead, tail, hlead, htail, hc⟩ := closeCommand_eq_ok hts
    exact ⟨_, .embed kind hname hlead htail, hc⟩

/-- A command takes its span and nothing else. -/
theorem command_span {x : Section} (h : command c = (.ok x, d)) :
    ∃ u, Span x u ∧ Opens u ∧ c.rest = u ++ d.rest := by
  obtain ⟨ts, m₁, hopen, h⟩ := Action.bind_eq_ok h
  obtain ⟨k, m₂, hk, h⟩ := Action.bind_eq_ok h
  obtain ⟨t, m₃, hspace, h⟩ := Action.bind_eq_ok h
  obtain ⟨name, m₄, hname, h⟩ := Action.bind_eq_ok h
  obtain ⟨s₁, hs₁, h₁⟩ := expectAll_eq_ok (by decide) hopen
  obtain rfl : s₁ = ['{', '{'] := by simpa [openKinds, spell, TokenKind.spellings] using hs₁
  have h₂ := commandWord_eq_ok hk
  obtain ⟨s₃, hs₃, h₃⟩ := expect_delimiter_eq_ok (by decide) hspace
  obtain rfl : s₃ = [' '] := by simpa [TokenKind.spellings] using hs₃
  obtain ⟨hword, h₄⟩ := word_eq_ok hname
  obtain ⟨u, hspan, h₅⟩ := behindName_span hword h
  refine ⟨_, hspan, opens_opened k name u, ?_⟩
  rw [h₁, h₂, h₃, h₄, h₅]
  simp only [opened, List.append_assoc]

/-! ### Spans of documents -/

theorem not_isInfix_of_clearOf {t v : Text} (h : ClearOf Opens t v) : ¬ ['{', '{'] <:+: t := by
  rintro ⟨a, b, rfl⟩
  exact h (['{', '{'] ++ b) ⟨a, by simp⟩ (by simp) ⟨b ++ v, by simp⟩

def textBefore (t : Text) : List Section := if t = [] then [] else [.text t]

theorem spans_textBefore {t : Text} (h : ¬ ['{', '{'] <:+: t) :
    ∃ spans : List Text, List.Forall₂ Span (textBefore t) spans ∧ spans.flatten = t := by
  unfold textBefore
  split
  · next he => exact ⟨[], .nil, by simp [he]⟩
  · next he => exact ⟨[t], .cons (.text he h) .nil, by simp⟩

/-- What one pass has taken: a text without opening braces and, unless the document ends there, a
command. -/
inductive Passed (c d : Cursor) : List Section → Bool → Prop
  | last {t : Text} (ht : ¬ ['{', '{'] <:+: t) (hc : c.rest = t) : Passed c d (textBefore t) false
  | more {t u : Text} {x : Section} (ht : ¬ ['{', '{'] <:+: t) (hx : Span x u) (hu : Opens u)
      (hc : c.rest = t ++ (u ++ d.rest)) : Passed c d (textBefore t ++ [x]) true

theorem sectionsPass_passed {ss : List Section} {more : Bool}
    (h : sectionsPass c = (.ok (ss, more), d)) : Passed c d ss more := by
  obtain ⟨t, v, hc, hclear, hv⟩ := exists_first Opens c.rest
  have ht := not_isInfix_of_clearOf hclear
  have hm := Cursor.rest_skip_of_append hc
  rw [sectionsPass_of_clear hc hclear hv] at h
  change sectionsStep (textBefore t) _ = _ at h
  rcases hv with rfl | hv
  · rw [sectionsStep_end hm] at h
    simp only [Prod.mk.injEq, Except.ok.injEq] at h
    obtain ⟨⟨rfl, rfl⟩, -⟩ := h
    exact .last ht (by rw [hc, List.append_nil])
  · rw [sectionsStep_opens (by rwa [hm])] at h
    obtain ⟨x, m, hx, h⟩ := Action.bind_eq_ok h
    simp only [Action.pure_apply, Prod.mk.injEq, Except.ok.injEq] at h
    obtain ⟨⟨rfl, rfl⟩, rfl⟩ := h
    obtain ⟨u, hspan, hu, hrest⟩ := command_span hx
    exact .more ht hspan hu (by rw [hc, ← hm, hrest])

/-- A text in front of a command and the command keep apart from each other and from what follows. -/
theorem isChain_apart {t : Text} {x : Section} {xs : List Section} (hx : ¬ IsText x)
    (h : xs.IsChain Apart) : (textBefore t ++ x :: xs).IsChain Apart := by
  have hcommand : (x :: xs).IsChain Apart := by
    cases xs with
    | nil => exact .singleton x
    | cons y ys => exact .cons_cons (fun hxy => hx hxy.1) h
  unfold textBefore
  split
  · exact hcommand
  · exact .cons_cons (fun hxy => hx hxy.2) hcommand

theorem sectionsFrom_spans {ss : List Section} (h : sectionsFrom c = .ok ss) :
    ∃ spans : List Text, List.Forall₂ Span ss spans ∧ spans.flatten = c.rest ∧
      ss.IsChain Apart := by
  induction c using sectionsFrom.induct generalizing ss with
  | case1 c e d hp =>
    rw [sectionsFrom_error hp] at h
    simp at h
  | case2 c xs d hp =>
    rw [sectionsFrom_end hp, Except.ok.injEq] at h
    subst h
    cases sectionsPass_passed hp with
    | @last t ht hc =>
      obtain ⟨spans, hspans, hflat⟩ := spans_textBefore ht
      refine ⟨spans, hspans, hflat.trans hc.symm, ?_⟩
      unfold textBefore
      split
      · exact .nil
      · exact .singleton _
  | case3 c xs d hp ih =>
    rw [sectionsFrom_more hp] at h
    cases hrest : sectionsFrom d with
    | error e => simp [hrest, Except.map] at h
    | ok ys =>
      simp only [hrest, Except.map, Except.ok.injEq] at h
      subst h
      obtain ⟨later, hlater, hflat, hchain⟩ := ih hrest
      cases sectionsPass_passed hp with
      | @more t u x ht hx hu hc =>
        obtain ⟨spans, hspans, htext⟩ := spans_textBefore ht
        rw [List.append_assoc, List.singleton_append]
        refine ⟨spans ++ u :: later, List.rel_append hspans (.cons hx hlater), ?_,
          isChain_apart (hx.not_isText hu) hchain⟩
        rw [List.flatten_append, List.flatten_cons, htext, hflat, hc]

/-- A text that reads as sections is made up of their spans, one behind the other, and no two texts stand
side by side. -/
theorem sections_spans {t : Text} {ss : List Section} (h : sections t = .ok ss) :
    ∃ spans : List Text, List.Forall₂ Span ss spans ∧ spans.flatten = t ∧ ss.IsChain Apart :=
  sectionsFrom_spans h

/-! ### A document with other line ends -/

def returnSections : List Section :=
  [.define ⟨['a'], {}, [.text ['1'], .embed ['b']]⟩, .text ['x'], .show ['a']]

def returnText : Text :=
  "\x7b\x7bdefine a\r\n###\r\n1\x7b\x7bb\x7d\x7d\r\n\x7d\x7d\r\nx\x7b\x7bshow a\r\n\x7d\x7d".toList

theorem sections_returnText : sections returnText = .ok returnSections := by
  have hnl : ['\r', '\n'] ∈ TokenKind.newline.spellings := by decide
  have hname : IsWord ['a'] := by decide
  have hline : EndsLine ['a'] ['\r', '\n'] := ⟨hnl, fun h => by simp at h⟩
  have hclose : ¬ HasClosingLine [] := by
    rintro (h | h)
    · exact absurd h (by decide)
    · exact absurd h (by decide)
  have hstart : (Cursor.start returnText).rest
      = openedBody ['a'] ['\r', '\n'] [] ['\r', '\n'] ++ ("1\x7b\x7bb\x7d\x7d".toList
        ++ (['\r', '\n'] ++ closing ++ "\r\nx\x7b\x7bshow a\r\n\x7d\x7d".toList)) := by decide
  have hbody := body_of_lineClose hnl (Cursor.rest_skip_of_append hstart)
    ((clearOf_lineClose_iff hnl).mpr ⟨by decide, fun h => by simp at h⟩)
  have hdefine := command_of_openedBody hname hline (.inl rfl) hnl (by decide) hclose rfl hstart
  rw [Action.bind_ok hbody, rulesOf_embed, Action.pure_apply, Cursor.skip_skip] at hdefine
  have hshow : ∀ c : Cursor, c.rest = "\x7b\x7bshow a\r\n\x7d\x7d".toList →
      sectionsFrom c = .ok [.show ['a']] := by
    intro c hc
    have hopened : c.rest = opened .show ['a'] ++ (['\r', '\n'] ++ closing) := hc
    have hrest : (c.skip (opened .show ['a']).length).rest = ['\r', '\n'] ++ closing ++ [] := by
      rw [Cursor.rest_skip_of_append hopened, List.append_nil]
    obtain ⟨ts, hts⟩ := closeCommand_of_closing (.inr hnl) hrest
    have hcommand := command_of_opened .show hname (hline.boundary closing) hopened
    rw [behindName, Action.bind_ok hts, Action.pure_apply, Cursor.skip_skip] at hcommand
    have hopens : Opens c.rest := by rw [hopened]; exact opens_opened _ _ _
    rw [sectionsFrom_command hopens hcommand, sectionsFrom_nil (by rw [Cursor.skip_rest, hc]; rfl)]
    rfl
  have hx : ∀ c : Cursor, c.rest = "x\x7b\x7bshow a\r\n\x7d\x7d".toList →
      sectionsFrom c = .ok [.text ['x'], .show ['a']] := by
    intro c hc
    have htext : c.rest = ['x'] ++ "\x7b\x7bshow a\r\n\x7d\x7d".toList := hc
    have hclear : ClearOf Opens ['x'] "\x7b\x7bshow a\r\n\x7d\x7d".toList :=
      clearOf_cons.mpr ⟨by unfold Opens; decide, clearOf_nil _⟩
    rw [sectionsFrom_text htext (by simp) hclear (.inr (by unfold Opens; decide)),
      hshow _ (Cursor.rest_skip_of_append htext)]
    rfl
  have hopens : Opens (Cursor.start returnText).rest := by unfold Opens; decide
  rw [sections, sectionsFrom_command hopens hdefine, hx _ (by decide)]
  rfl

/-- Carriage returns belong to spans like other characters. -/
theorem sections_spans_returnText : sections returnText = .ok returnSections ∧
    ∃ spans : List Text, List.Forall₂ Span returnSections spans ∧ spans.flatten = returnText ∧
      returnSections.IsChain Apart :=
  ⟨sections_returnText, sections_spans sections_returnText⟩

end Document

end Weave
