import Mathlib.Data.List.Chain
import Weave.Proofs.Document.Commands

/-!
# Printing documents

A document can be printed from its sections, and reading what has been printed gives the sections
back. The header of a definition may be printed as any text that reads as the header.
-/

set_option autoImplicit false

namespace Weave

/-- Names of snippets that stay one word wherever they are printed. -/
def IsName (name : Text) : Prop :=
  name ≠ [] ∧ ∀ a ∈ name, a ∉ (['{', '}', ' ', '#', '\r', '\n'] : Text)

instance (name : Text) : Decidable (IsName name) :=
  haveI : Decidable (∀ a ∈ name, a ∉ (['{', '}', ' ', '#', '\r', '\n'] : Text)) :=
    List.decidableBAll _ name
  instDecidableAnd

theorem IsName.isWord {name : Text} (h : IsName name) : IsWord name := by
  refine ⟨h.1, fun a ha => ?_⟩
  have hne := h.2 a ha
  simp only [List.mem_cons, List.not_mem_nil, or_false, not_or] at hne
  simp [TokenKind.ofChar?, hne]

theorem IsName.endsLine {name : Text} (h : IsName name) : EndsLine name ['\n'] := by
  refine ⟨by decide, fun _ hcr => ?_⟩
  exact h.2 '\r' (hcr.subset List.mem_cons_self) (by decide)

namespace Document

/-- A text as which a header can be printed: complete lines without a separator or a closing line
that read as the header behind a newline. -/
structure HeaderText (h : Text) (header : Header) : Prop where
  completeLines : CompleteLines h
  no_separator : ¬ separator <:+: h
  no_closingLine : ¬ HasClosingLine h
  read : Header.read ('\n' :: h) = .ok header

/-- How a section is printed. -/
inductive Printed : Section → Text → Prop
  | text (t : Text) : Printed (.text t) t
  | show (name : Text) : Printed (.show name) (opened .show name ++ closing ++ ['\n'])
  | embed (name : Text) (kind : EmbedKind) :
      Printed (.embed name kind) (opened (.embed kind) name ++ closing ++ ['\n'])
  | define (s : Snippet) {h : Text} (hh : HeaderText h s.header) :
      Printed (.define s)
        (openedBody s.name ['\n'] h ['\n'] ++ written s.rules ++ ['\n'] ++ closing ++ ['\n'])

/-- How the sections of a document are printed. -/
inductive PrintedAll : List Section → Text → Prop
  | nil : PrintedAll [] []
  | cons {x : Section} {xs : List Section} {t u : Text} (hx : Printed x t)
      (hxs : PrintedAll xs u) : PrintedAll (x :: xs) (t ++ u)

def Readable (rules : List Rule) : Prop :=
  ∃ t n d, body (Cursor.ofText t n) = (.ok rules, d)

def Printable : Section → Prop
  | .text t => t ≠ [] ∧ ¬ ['{', '{'] <:+: t
  | .define s => IsName s.name ∧ Readable s.rules ∧ ¬ ['\r'] <:+ written s.rules
  | .show name => IsName name
  | .embed name _ => IsName name
  | .foreign _ => False

/-- Behind a text comes a command, and the text does not end in a brace. -/
def Separated (x y : Section) : Prop :=
  ∀ t, x = .text t → (∀ u, y ≠ .text u) ∧ ¬ ['{'] <:+ t

/-- Sections that a document can be printed from. -/
structure Canonical (ss : List Section) : Prop where
  printable : ∀ x ∈ ss, Printable x
  separated : ss.IsChain Separated

theorem Canonical.tail {x : Section} {xs : List Section} (h : Canonical (x :: xs)) :
    Canonical xs :=
  ⟨fun y hy => h.printable y (List.mem_cons_of_mem x hy), h.separated.tail⟩

/-! ### Printed commands -/

variable {c : Cursor}

theorem opens_opened (k : CommandWord) (name u : Text) : Opens (opened k name ++ u) :=
  ⟨k.written ++ [' '] ++ name ++ u, by simp [opened]⟩

/-- A printed command starts with opening braces. -/
theorem Printed.opens {x : Section} {u : Text} (h : Printed x u) (hx : ∀ t, x ≠ .text t) :
    Opens u := by
  cases h with
  | text => exact absurd rfl (hx _)
  | «show» name =>
    rw [List.append_assoc]
    exact opens_opened _ _ _
  | embed name kind =>
    rw [List.append_assoc]
    exact opens_opened _ _ _
  | define s hh =>
    simp only [openedBody, List.append_assoc]
    exact opens_opened _ _ _

/-- The rules that a body reads as are those of a text without a closing line behind its first
line. -/
theorem Readable.exists_text {rules : List Rule} (h : Readable rules) :
    ∃ b, rules = rulesOf b ∧ ¬ '\n' :: closing <:+: b := by
  obtain ⟨t, n, d, hbody⟩ := h
  obtain ⟨b, nl, r, hnl, -, hclear, rfl, -⟩ := body_eq_ok hbody
  exact ⟨b, rfl, ((clearOf_lineClose_iff hnl).mp hclear).1⟩

/-- Written rules read as the same rules. -/
theorem body_of_written {rules : List Rule} {y : Text} (h : Readable rules)
    (hcr : ¬ ['\r'] <:+ written rules)
    (hc : c.rest = written rules ++ (['\n'] ++ closing ++ (['\n'] ++ y))) :
    body c = (.ok rules, c.skip ((written rules).length + (['\n'] ++ closing ++ ['\n']).length)) := by
  obtain ⟨b, rfl, hb⟩ := h.exists_text
  rw [written_rulesOf] at hcr hc ⊢
  have hnl : ['\n'] ∈ TokenKind.newline.spellings := by decide
  have hclear := (clearOf_lineClose_iff (r := ['\n'] ++ y) hnl).mpr ⟨hb, fun _ => hcr⟩
  rw [body_of_lineClose hnl hc hclear, frontNewline_append hnl]

theorem closeCommand_of_printed {y : Text} (h : c.rest = closing ++ (['\n'] ++ y)) :
    ∃ ts, closeCommand c = (.ok ts, c.skip (closing ++ ['\n']).length) := by
  have hnil : c.rest = [] ++ closing ++ (['\n'] ++ y) := h
  obtain ⟨ts, hts⟩ := closeCommand_of_closing (.inl rfl) hnil
  rw [frontNewline_append (by decide)] at hts
  exact ⟨ts, hts⟩

/-- A printed command reads as the command and leaves what is printed behind it. -/
theorem command_of_printed {x : Section} {u y : Text} (hp : Printed x u) (hx : ∀ t, x ≠ .text t)
    (hd : Printable x) (h : c.rest = u ++ y) : command c = (.ok x, c.skip u.length) := by
  cases hp with
  | text => exact absurd rfl (hx _)
  | «show» name =>
    simp only [List.append_assoc] at h
    have hclose := boundary_closing name (['\n'] ++ y)
    obtain ⟨ts, hts⟩ := closeCommand_of_printed (Cursor.rest_skip_of_append h)
    rw [command_of_opened .show hd.isWord hclose h, behindName, Action.bind_ok hts,
      Action.pure_apply, Cursor.skip_skip]
    simp only [List.length_append, Nat.add_assoc]
  | embed name kind =>
    simp only [List.append_assoc] at h
    have hclose := boundary_closing name (['\n'] ++ y)
    obtain ⟨ts, hts⟩ := closeCommand_of_printed (Cursor.rest_skip_of_append h)
    rw [command_of_opened (.embed kind) (IsName.isWord hd) hclose h, behindName,
      Action.bind_ok hts, Action.pure_apply, Cursor.skip_skip]
    simp only [List.length_append, Nat.add_assoc]
  | @define s hText hh =>
    obtain ⟨hname, hread, hcr⟩ := hd
    simp only [List.append_assoc] at h
    have hm := Cursor.rest_skip_of_append h
    rw [← List.append_assoc ['\n'] closing] at hm
    rw [command_of_openedBody hname.isWord hname.endsLine hh.completeLines (by decide)
      hh.no_separator hh.no_closingLine hh.read h, Action.bind_ok (body_of_written hread hcr hm),
      Action.pure_apply, Cursor.skip_skip]
    simp only [List.length_append, Nat.add_assoc]

/-! ### Printed documents -/

theorem separable_openKinds : TokenKind.Separable [openKinds] :=
  ⟨by decide, by decide, by decide⟩

theorem breaks_openKinds (u : Text) : TokenKind.Breaks [openKinds] u ↔ Opens u := by
  simp [TokenKind.Breaks, openKinds, TokenKind.spell, TokenKind.spellings, Opens]

/-- The first step of a document takes the text in front of the first command. -/
theorem sectionsPass_of_clear {t v : Text} (h : c.rest = t ++ v) (ht : ClearOf Opens t v)
    (hv : v = [] ∨ Opens v) :
    sectionsPass c = sectionsStep (if t = [] then [] else [.text t]) (c.skip t.length) := by
  have hclear : ClearOf (TokenKind.Breaks [openKinds]) t v :=
    ht.mono fun u hu => (breaks_openKinds u).mp hu
  obtain ⟨ts, hts, rfl, hnil⟩ := readUntilAny_of_clear separable_openKinds h hclear
    (hv.imp_right (breaks_openKinds v).mpr)
  refine (Action.bind_ok hts _).trans ?_
  by_cases he : ts = []
  · rw [if_pos (hnil.mp he), he]
    rfl
  · rw [if_neg (fun ht => he (hnil.mpr ht)), if_neg (by simpa using he)]

theorem sectionsFrom_end [Libraries] {ss : List Section} {d : Cursor}
    (h : sectionsPass c = (.ok (ss, false), d)) : sectionsFrom c = .ok ss := by
  rw [sectionsFrom, h]

theorem sectionsFrom_more [Libraries] {ss : List Section} {d : Cursor}
    (h : sectionsPass c = (.ok (ss, true), d)) :
    sectionsFrom c = (sectionsFrom d).map (ss ++ ·) := by
  rw [sectionsFrom, h]

theorem sectionsFrom_error [Libraries] {e : Fault} {d : Cursor} (h : sectionsPass c = (.error e, d)) :
    sectionsFrom c = .error e := by
  rw [sectionsFrom, h]

theorem sectionsStep_end (h : c.rest = []) (texts : List Section) :
    sectionsStep texts c = (.ok (texts, false), c) := by
  rw [sectionsStep, if_pos (by simp [Cursor.peek, h])]

theorem sectionsStep_opens (h : Opens c.rest) (texts : List Section) :
    sectionsStep texts c = (do
      let x ← command
      pure (texts ++ [x], true) : Reading _) c := by
  obtain ⟨u, hu⟩ := h
  have hrest : c.rest = ['{'] ++ ('{' :: u) := hu.symm
  have hp := Cursor.peek_delimiter (by decide : ['{'] ∈ TokenKind.openBrace.spellings) hrest
  rw [sectionsStep, if_neg (by simp [hp])]

theorem sectionsFrom_nil (h : c.rest = []) : sectionsFrom c = .ok [] := by
  have hpass := sectionsPass_of_clear (t := []) h (clearOf_nil _) (.inl rfl)
  rw [if_pos rfl, List.length_nil, Cursor.skip_zero, sectionsStep_end h] at hpass
  exact sectionsFrom_end hpass

theorem sectionsPass_opens (h : Opens c.rest) : sectionsPass c = (do
      let x ← command
      pure ([x], true) : Reading _) c := by
  rw [sectionsPass_of_clear (t := []) rfl (clearOf_nil _) (.inr h), if_pos rfl, List.length_nil,
    Cursor.skip_zero, sectionsStep_opens h]
  rfl

/-- A command is read off the front of a document. -/
theorem sectionsFrom_command {x : Section} {d : Cursor} (h : Opens c.rest)
    (hx : command c = (.ok x, d)) : sectionsFrom c = (sectionsFrom d).map (x :: ·) := by
  have hpass : sectionsPass c = (.ok ([x], true), d) := by
    rw [sectionsPass_opens h, Action.bind_ok hx, Action.pure_apply]
  exact sectionsFrom_more hpass

/-- So is a text in front of the first command. -/
theorem sectionsFrom_text {t v : Text} (h : c.rest = t ++ v) (hne : t ≠ [])
    (ht : ClearOf Opens t v) (hv : v = [] ∨ Opens v) :
    sectionsFrom c = (sectionsFrom (c.skip t.length)).map (.text t :: ·) := by
  have hpass := sectionsPass_of_clear h ht hv
  have hm := Cursor.rest_skip_of_append h
  rw [if_neg hne] at hpass
  rcases hv with rfl | hv
  · rw [sectionsStep_end hm] at hpass
    rw [sectionsFrom_end hpass, sectionsFrom_nil hm]
    rfl
  · rw [← hm] at hv
    rw [sectionsStep_opens hv] at hpass
    rcases hx : command (c.skip t.length) with ⟨e | x, d⟩
    · rw [Action.bind_error hx] at hpass
      have hlater := sectionsPass_opens hv
      rw [Action.bind_error hx] at hlater
      rw [sectionsFrom_error hpass, sectionsFrom_error hlater]
      rfl
    · rw [Action.bind_ok hx, Action.pure_apply] at hpass
      rw [sectionsFrom_more hpass, sectionsFrom_command hv hx]
      cases sectionsFrom d <;> rfl

/-- What is printed behind a text starts with a command, if there is anything. -/
theorem PrintedAll.opens {x : Section} {xs : List Section} {t u : Text} (h : PrintedAll xs u)
    (hc : Canonical (x :: xs)) (hx : x = .text t) : u = [] ∨ Opens u ∧ ¬ ['{'] <:+ t := by
  cases h with
  | nil => exact .inl rfl
  | @cons y ys v w hy hys =>
    obtain ⟨hcommand, hbrace⟩ := (List.isChain_cons_cons.mp hc.separated).1 t hx
    obtain ⟨r, rfl⟩ := hy.opens hcommand
    exact .inr ⟨⟨r ++ w, by simp⟩, hbrace⟩

theorem clearOf_opens_of_not_isInfix {t u : Text} (ht : ¬ ['{', '{'] <:+: t)
    (hu : u = [] ∨ Opens u ∧ ¬ ['{'] <:+ t) : ClearOf Opens t u := by
  intro q hq hne hopens
  obtain ⟨a, q, rfl⟩ := List.exists_cons_of_ne_nil hne
  have hin : ¬ ['{', '{'] <+: a :: q := fun hp => ht (hp.isInfix.trans hq.isInfix)
  rw [Opens, List.cons_append, List.cons_prefix_cons] at hopens
  obtain ⟨rfl, hopens⟩ := hopens
  cases q with
  | nil =>
    rcases hu with rfl | ⟨-, hbrace⟩
    · simp at hopens
    · exact hbrace hq
  | cons a' q =>
    rw [List.cons_append, List.cons_prefix_cons] at hopens
    obtain ⟨rfl, -⟩ := hopens
    exact hin ⟨q, rfl⟩

/-- Printed sections are read section by section. -/
theorem sectionsFrom_of_printed {ss : List Section} {t : Text} (hp : PrintedAll ss t)
    (hc : Canonical ss) (h : c.rest = t) : sectionsFrom c = .ok ss := by
  induction hp generalizing c with
  | nil => exact sectionsFrom_nil h
  | @cons x xs t u hx hxs ih =>
    have hd := hc.printable x List.mem_cons_self
    have hrest := ih hc.tail (Cursor.rest_skip_of_append h)
    by_cases htext : ∃ s, x = .text s
    · obtain ⟨s, rfl⟩ := htext
      cases hx
      have hopens := hxs.opens hc rfl
      have hclear := clearOf_opens_of_not_isInfix hd.2 hopens
      rw [sectionsFrom_text h hd.1 hclear (hopens.imp_right And.left), hrest]
      rfl
    · have hcommand : ∀ s, x ≠ .text s := fun s hs => htext ⟨s, hs⟩
      obtain ⟨r, hr⟩ := hx.opens hcommand
      have hopens : Opens c.rest := ⟨r ++ u, by rw [h, ← List.append_assoc, hr]⟩
      rw [sectionsFrom_command hopens (command_of_printed hx hcommand hd h), hrest]
      rfl

/-- Reading a printed document gives its sections back. -/
theorem sections_of_printedAll {ss : List Section} {t : Text} (hc : Canonical ss)
    (hp : PrintedAll ss t) : sections t = .ok ss :=
  sectionsFrom_of_printed hp hc (by simp [Cursor.start, Cursor.ofText])

/-! ### A printed page -/

def pageSections : List Section :=
  [ .text "x\n".toList, .define ⟨['a'], {}, [.text ['1'], .embed ['b']]⟩, .text ['\n'], .show ['a'],
    .embed ['a'] .output ]

def pageText : Text :=
  "x\n\x7b\x7bdefine a\n# c\n###\n1\x7b\x7bb\x7d\x7d\n\x7d\x7d\n\n".toList
    ++ "\x7b\x7bshow a\x7d\x7d\n\x7b\x7boutput a\x7d\x7d\n".toList

theorem rulesOf_embed : rulesOf "1\x7b\x7bb\x7d\x7d".toList = [.text ['1'], .embed ['b']] := by
  have hone : ¬ Opens "1\x7b\x7bb\x7d\x7d".toList := by unfold Opens; decide
  have hembed : embedAt? "b\x7d\x7d".toList = some (['b'], []) := by decide
  have hcons := rulesFrom_cons hone []
  have hname := rulesFrom_embed hembed (addText ['1'] [])
  rw [rulesFrom_nil] at hname
  exact congrArg List.reverse (hcons.trans hname)

theorem readable_pageRules : Readable [.text ['1'], .embed ['b']] := by
  have hnl : ['\n'] ∈ TokenKind.newline.spellings := by decide
  have hrest : (Cursor.ofText "1\x7b\x7bb\x7d\x7d\n\x7d\x7d".toList 0).rest
      = "1\x7b\x7bb\x7d\x7d".toList ++ (['\n'] ++ closing ++ []) := by decide
  have hbody := body_of_lineClose hnl hrest
    ((clearOf_lineClose_iff hnl).mpr ⟨by decide, fun _ => by decide⟩)
  rw [rulesOf_embed] at hbody
  exact ⟨_, 0, _, hbody⟩

theorem canonical_pageSections : Canonical pageSections := by
  have hname : IsName ['a'] := by decide
  constructor
  · intro x hx
    simp only [pageSections, List.mem_cons, List.not_mem_nil, or_false] at hx
    rcases hx with rfl | rfl | rfl | rfl | rfl
    · exact ⟨by decide, by decide⟩
    · exact ⟨hname, readable_pageRules, by decide⟩
    · exact ⟨by decide, by decide⟩
    · exact hname
    · exact hname
  · have hfirst : ¬ ['{'] <:+ "x\n".toList := by decide
    have hthird : ¬ ['{'] <:+ (['\n'] : Text) := by decide
    simpa [pageSections, Separated] using ⟨hfirst, hthird⟩

theorem sections_pageText : sections pageText = .ok pageSections := by
  have hheader : HeaderText "# c\n".toList {} := by
    refine ⟨.inr (by decide), by decide, ?_, rfl⟩
    rintro (h | h)
    · exact absurd h (by decide)
    · exact absurd h (by decide)
  obtain ⟨t, hprinted, rfl⟩ : ∃ t, PrintedAll pageSections t ∧ t = pageText :=
    ⟨_, .cons (.text _) (.cons (.define _ hheader) (.cons (.text _) (.cons (.show _)
      (.cons (.embed _ _) .nil)))), by decide⟩
  exact sections_of_printedAll canonical_pageSections hprinted

end Document

end Weave
