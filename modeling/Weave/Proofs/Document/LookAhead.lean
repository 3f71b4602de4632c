import Weave.Proofs.Document.Spans

/-!
# Looking ahead

What is seen ahead is what is taken: a sequence of tokens can be taken exactly where it is seen. So no
reader that has looked ahead fails at what it has seen, and of the faults of a document none is about
a brace that was to be there.
-/

set_option autoImplicit false

namespace Weave

def Cursor.past (c : Cursor) : Nat → Cursor
  | 0 => c
  | n + 1 => c.advance.past n

namespace Document

open TokenKind (Breaks)

variable {α β : Type} {c d : Cursor} {ks : List TokenKind}

def Succeeds (p : Reading α) (c : Cursor) : Prop := ∃ a d, p c = (.ok a, d)

/-- Reads in one way where tokens of these kinds are ahead, and else in another. -/
def ifSeen (ks : List TokenKind) (p q : Reading α) : Reading α := fun c =>
  if c.sees ks then p c else q c

/-! ### Taking what is seen -/

theorem expectAll_of_sees (h : c.sees ks = true) :
    expectAll ks c = (.ok (c.peekMany ks.length), c.past ks.length) := by
  induction ks generalizing c with
  | nil => rfl
  | cons k ks ih =>
    obtain ⟨hkind, hothers⟩ := (Cursor.sees_cons c k ks).mp h
    have hfirst : expect k c = (.ok c.peek, c.advance) := by rw [expect, if_pos hkind]
    rw [expectAll, Action.bind_ok hfirst, Action.bind_ok (ih hothers)]
    rfl

theorem succeeds_expectAll_iff : Succeeds (expectAll ks) c ↔ c.sees ks = true :=
  ⟨fun ⟨_, _, h⟩ => sees_of_expectAll h, fun h => ⟨_, _, expectAll_of_sees h⟩⟩

/-- Tokens are taken with their texts. -/
theorem rest_of_expectAll {ts : List Token} (h : expectAll ks c = (.ok ts, d)) :
    c.rest = textOf ts ++ d.rest := by
  induction ks generalizing c ts with
  | nil =>
    simp only [expectAll, Action.pure_apply, Prod.mk.injEq, Except.ok.injEq] at h
    obtain ⟨rfl, rfl⟩ := h
    rfl
  | cons k ks ih =>
    obtain ⟨t, m, hfirst, h⟩ := Action.bind_eq_ok h
    obtain ⟨us, n, hothers, h⟩ := Action.bind_eq_ok h
    simp only [Action.pure_apply, Prod.mk.injEq, Except.ok.injEq] at h
    obtain ⟨rfl, rfl⟩ := h
    obtain ⟨-, rfl, rfl⟩ := expect_eq_ok hfirst
    rw [textOf_cons, List.append_assoc, ← ih hothers]
    exact c.rest_eq_peek_text_append

theorem sees_append_iff {ks' : List TokenKind} :
    c.sees (ks ++ ks') = true ↔ c.sees ks = true ∧ (c.past ks.length).sees ks' = true := by
  induction ks generalizing c with
  | nil => simp [Cursor.sees_nil, Cursor.past]
  | cons k ks ih =>
    rw [List.cons_append, Cursor.sees_cons, Cursor.sees_cons, ih, and_assoc]
    rfl

theorem word_of_peek (h : c.peek.kind = .word) : word c = (.ok c.peek.text, c.advance) := by
  have hfirst : expect .word c = (.ok c.peek, c.advance) := by rw [expect, if_pos h]
  rw [word, Action.bind_ok hfirst]
  rfl

/-- The embedding of a snippet is taken where it is seen: the braces, the name, and the braces again. -/
theorem succeeds_embed (h : c.sees embedKinds = true) :
    Succeeds (do
      let _ ← openCommand
      let _ ← word
      expectAll closeKinds) c := by
  obtain ⟨hopen, hbehind⟩ := sees_append_iff.mp h
  obtain ⟨hword, hclose⟩ := (Cursor.sees_cons _ _ _).mp hbehind
  have hbraces : openCommand c = (.ok (c.peekMany openKinds.length), c.past openKinds.length) :=
    expectAll_of_sees hopen
  obtain ⟨ts, d, hts⟩ := succeeds_expectAll_iff.mpr hclose
  refine ⟨ts, d, ?_⟩
  rw [Action.bind_ok hbraces, Action.bind_ok (word_of_peek hword), hts]

/-! ### Closing a command -/

/-- A text in which a command is closed: braces with a newline on either side or not. -/
def IsClose (s : Text) : Prop :=
  ∃ lead tail, MaybeNewline lead ∧ MaybeNewline tail ∧ s = lead ++ closing ++ tail

/-- The longest text at the front of another one in which a command is closed. -/
structure LongestClose (u s : Text) : Prop where
  isClose : IsClose s
  front : s <+: u
  longest : ∀ s', IsClose s' → s' <+: u → s'.length ≤ s.length

theorem maybeNewline_iff {u : Text} :
    MaybeNewline u ↔ u = [] ∨ u ∈ TokenKind.newline.spellings := List.mem_cons

/-- Only one newline, or none, stands in front of braces. -/
theorem eq_of_lead {lead lead' r u : Text} (hl : MaybeNewline lead) (hl' : MaybeNewline lead')
    (h : lead' ++ closing ++ u = lead ++ closing ++ r) : lead' = lead := by
  rw [maybeNewline_iff, TokenKind.mem_newline] at hl hl'
  rcases hl with rfl | rfl | rfl <;> rcases hl' with rfl | rfl | rfl <;>
    first
    | rfl
    | simp [closing] at h

theorem length_le_frontNewline {tail r : Text} (ht : MaybeNewline tail) (h : tail <+: r) :
    tail.length ≤ (frontNewline r).length := by
  rcases maybeNewline_iff.mp ht with rfl | hnl
  · exact Nat.zero_le _
  · obtain ⟨r', rfl⟩ := h
    rw [frontNewline_append hnl]

theorem longestClose_of_lead {lead r : Text} (hl : MaybeNewline lead) :
    LongestClose (lead ++ closing ++ r) (lead ++ closing ++ frontNewline r) where
  isClose := ⟨lead, frontNewline r, hl, maybeNewline_frontNewline r, rfl⟩
  front := (List.prefix_append_right_inj _).mpr <| frontNewline_prefix r
  longest := by
    rintro s' ⟨lead', tail, hl', ht, rfl⟩ ⟨u, hu⟩
    rw [List.append_assoc _ tail] at hu
    obtain rfl := eq_of_lead hl hl' hu
    have htail : tail <+: r := ⟨u, List.append_cancel_left hu⟩
    simp only [List.length_append]
    exact Nat.add_le_add_left (length_le_frontNewline ht htail) _

theorem closeCommand_rest {ts : List Token} (h : closeCommand c = (.ok ts, d)) :
    c.rest = textOf ts ++ d.rest := by
  unfold closeCommand at h
  split at h
  · exact rest_of_expectAll h
  · simp at h

theorem closeCommand_of_not_isClose (h : ∀ s, IsClose s → ¬ s <+: c.rest) :
    closeCommand c = (.error (.unclosed c.offset), c) := by
  have hnone : closings.find? (fun ks => c.sees ks) = none := by
    refine List.find?_eq_none.mpr ?_
    intro ks hks hsees
    obtain ⟨s, hs, hfront⟩ := (Cursor.sees_iff_spell (closings_isDelimiter ks hks) c).mp hsees
    obtain ⟨lead, hlead, tail, htail, rfl⟩ := mem_spell_closings ks hks s hs
    exact h _ ⟨lead, tail, hlead, htail, rfl⟩ hfront
  unfold closeCommand
  rw [hnone]

/-- A command is closed with all that belongs to the close. Where it is not closed the cursor stays. -/
theorem closeCommand_outcome (c : Cursor) :
    (∃ s ts, LongestClose c.rest s ∧ closeCommand c = (.ok ts, c.skip s.length) ∧ textOf ts = s) ∨
      (∀ s, IsClose s → ¬ s <+: c.rest) ∧ closeCommand c = (.error (.unclosed c.offset), c) := by
  by_cases h : ∃ s, IsClose s ∧ s <+: c.rest
  · left
    obtain ⟨_, ⟨lead, tail, hlead, -, rfl⟩, r, hr⟩ := h
    rw [List.append_assoc _ tail] at hr
    obtain ⟨ts, hts⟩ := closeCommand_of_closing (maybeNewline_iff.mp hlead) hr.symm
    have hlongest := longestClose_of_lead hlead (r := tail ++ r)
    refine ⟨_, ts, hr ▸ hlongest, hts, ?_⟩
    obtain ⟨u, hu⟩ := hlongest.front
    have htaken := closeCommand_rest hts
    rw [← hr, ← hu, Cursor.skip_rest, ← hr, ← hu, List.drop_left] at htaken
    exact (List.append_cancel_right htaken).symm
  · right
    have hnone : ∀ s, IsClose s → ¬ s <+: c.rest := fun s hs hfront => h ⟨s, hs, hfront⟩
    exact ⟨hnone, closeCommand_of_not_isClose hnone⟩

theorem succeeds_closeCommand (hks : ks ∈ closings) (h : c.sees ks = true) :
    Succeeds closeCommand c := by
  obtain ⟨s, hs, hfront⟩ := (Cursor.sees_iff_spell (closings_isDelimiter ks hks) c).mp h
  obtain ⟨lead, hlead, tail, htail, rfl⟩ := mem_spell_closings ks hks s hs
  rcases closeCommand_outcome c with ⟨_, ts, -, hts, -⟩ | ⟨hnone, -⟩
  · exact ⟨ts, _, hts⟩
  · exact absurd hfront (hnone _ ⟨lead, tail, hlead, htail, rfl⟩)

/-! ### Opening a command -/

/-- Reading until a command comes to one, or to the end. -/
theorem opens_of_readUntilCommand {before : List Token} (h : readUntilCommand c = (.ok before, d)) :
    d.rest = [] ∨ Opens d.rest := by
  obtain ⟨x, v, hc, hclear, hv⟩ := exists_first Opens c.rest
  have hbreaks : ClearOf (Breaks [openKinds]) x v := hclear.mono fun u => (breaks_openKinds u).mp
  obtain ⟨ts, hts, -⟩ := readUntilAny_of_clear separable_openKinds hc hbreaks
    (hv.imp_right (breaks_openKinds v).mpr)
  rw [readUntilCommand, hts, Prod.mk.injEq] at h
  rw [← h.2, Cursor.rest_skip_of_append hc]
  exact hv

theorem succeeds_openCommand {before : List Token} (h : readUntilCommand c = (.ok before, d))
    (hd : d.peek.kind ≠ .finish) : Succeeds openCommand d := by
  have hopens := (opens_of_readUntilCommand h).resolve_left (Cursor.rest_ne_nil_of_peek_kind hd)
  exact succeeds_expectAll_iff.mpr (sees_openKinds.mpr hopens)

/-! ### Faults of documents -/

def FailsOnlyWith (P : Fault → Prop) (p : Reading α) : Prop := ∀ c e d, p c = (.error e, d) → P e

/-- The faults that a document can have. Braces are not among what is missed: they are looked for
first. -/
inductive Fault.InDocument : Fault → Prop
  | unexpected {k : TokenKind} (a : Token) (hk : k ∈ [TokenKind.word, .space, .hash, .newline]) :
      Fault.InDocument (.unexpected k a)
  | unclosed (n : Nat) : Fault.InDocument (.unclosed n)
  | unknownCommand (w : Text) : Fault.InDocument (.unknownCommand w)
  | header (f : HeaderFault) : Fault.InDocument (.header f)

section

variable {P : Fault → Prop}

theorem failsOnlyWith_pure (a : α) : FailsOnlyWith P (pure a : Reading α) := by
  intro c e d h
  cases h

theorem FailsOnlyWith.bind {p : Reading α} {f : α → Reading β} (hp : FailsOnlyWith P p)
    (hf : ∀ a, FailsOnlyWith P (f a)) : FailsOnlyWith P (p >>= f) := by
  intro c e d h
  rcases hr : p c with ⟨e' | a, m⟩
  · rw [Action.bind_error hr] at h
    cases h
    exact hp c e _ hr
  · rw [Action.bind_ok hr] at h
    exact hf a m e d h

theorem FailsOnlyWith.ifSeen {p q : Reading α} (ks : List TokenKind) (hp : FailsOnlyWith P p)
    (hq : FailsOnlyWith P q) : FailsOnlyWith P (ifSeen ks p q) := by
  intro c e d h
  unfold Document.ifSeen at h
  split at h
  · exact hp c e d h
  · exact hq c e d h

theorem failsOnlyWith_expect {k : TokenKind} (h : ∀ a, P (.unexpected k a)) :
    FailsOnlyWith P (expect k) := by
  intro c e d he
  unfold expect at he
  split at he
  · cases he
  · cases he
    exact h _

theorem failsOnlyWith_expectAll (h : ∀ k ∈ ks, ∀ a, P (.unexpected k a)) :
    FailsOnlyWith P (expectAll ks) := by
  induction ks with
  | nil => exact failsOnlyWith_pure []
  | cons k ks ih =>
    obtain ⟨hk, hks⟩ := List.forall_mem_cons.mp h
    exact (failsOnlyWith_expect hk).bind fun _ => (ih hks).bind fun _ => failsOnlyWith_pure _

theorem failsOnlyWith_readUntilAny {breaks : List (List TokenKind)} (h : [] ∉ breaks) :
    FailsOnlyWith P (readUntilAny breaks) := by
  intro c e d he
  rw [readUntilAny_eq_search h] at he
  cases he

theorem failsOnlyWith_closeCommand (h : ∀ n, P (.unclosed n)) : FailsOnlyWith P closeCommand := by
  intro c e d he
  rcases closeCommand_outcome c with ⟨s, ts, -, hts, -⟩ | ⟨-, hunclosed⟩
  · rw [hts] at he
    cases he
  · rw [hunclosed] at he
    cases he
    exact h _

theorem failsOnlyWith_body (h : ∀ n, P (.unclosed n)) : FailsOnlyWith P body := by
  intro c e d he
  obtain ⟨b, y, hc, hb, hy⟩ := exists_first LineClose c.rest
  rcases hy with rfl | ⟨nl, hnl, r, rfl⟩
  · rw [List.append_nil] at hc
    rw [body_of_clear (hc ▸ hb)] at he
    cases he
    exact h _
  · rw [body_of_lineClose hnl hc hb] at he
    cases he

end

theorem inDocument_word : FailsOnlyWith Fault.InDocument word :=
  (failsOnlyWith_expect fun a => .unexpected a (by decide)).bind fun _ => failsOnlyWith_pure _

theorem inDocument_commandWord : FailsOnlyWith Fault.InDocument commandWord := by
  refine inDocument_word.bind fun w => ?_
  split
  · exact failsOnlyWith_pure _
  · intro c e d h
    cases h
    exact .unknownCommand w

theorem inDocument_readHeader (t : Text) : FailsOnlyWith Fault.InDocument (readHeader t) := by
  intro c e d h
  unfold readHeader at h
  split at h
  · cases h
  · cases h
    exact .header _

theorem inDocument_closeCommand : FailsOnlyWith Fault.InDocument closeCommand :=
  failsOnlyWith_closeCommand .unclosed

theorem inDocument_rulesBehindHeader : FailsOnlyWith Fault.InDocument rulesBehindHeader := by
  have hkinds : ∀ k ∈ separatorKinds ++ [.newline], k ∈ [TokenKind.word, .space, .hash, .newline] := by
    decide
  refine .ifSeen lineCloseKinds ?_ ?_
  · exact inDocument_closeCommand.bind fun _ => failsOnlyWith_pure _
  · exact (failsOnlyWith_expectAll fun k hk a => .unexpected a (hkinds k hk)).bind fun _ =>
      failsOnlyWith_body .unclosed

theorem inDocument_definition (name : Text) : FailsOnlyWith Fault.InDocument (definition name) := by
  refine .ifSeen closeKinds ?_ ?_
  · exact inDocument_closeCommand.bind fun _ => failsOnlyWith_pure _
  · refine (failsOnlyWith_readUntilAny (by decide)).bind fun ts => ?_
    refine (inDocument_readHeader _).bind fun header => ?_
    exact inDocument_rulesBehindHeader.bind fun _ => failsOnlyWith_pure _

theorem inDocument_behindName (k : CommandWord) (name : Text) :
    FailsOnlyWith Fault.InDocument (behindName k name) := by
  cases k with
  | define => exact inDocument_definition name
  | «show» => exact inDocument_closeCommand.bind fun _ => failsOnlyWith_pure _
  | embed kind => exact inDocument_closeCommand.bind fun _ => failsOnlyWith_pure _

/-- A command whose opening braces stand has no fault but those behind them. -/
theorem inDocument_command {e : Fault} (hopen : Succeeds openCommand c)
    (h : command c = (.error e, d)) : e.InDocument := by
  obtain ⟨ts, m, hts⟩ := hopen
  rw [command, Action.bind_ok hts] at h
  have hspace : FailsOnlyWith Fault.InDocument (expect .space) :=
    failsOnlyWith_expect fun a => .unexpected a (by decide)
  refine (inDocument_commandWord.bind fun k => ?_) m e d h
  exact hspace.bind fun _ => inDocument_word.bind fun name => inDocument_behindName k name

theorem inDocument_sectionsPass {e : Fault} (h : sectionsPass c = (.error e, d)) : e.InDocument := by
  have hscan : FailsOnlyWith (fun _ => False) readUntilCommand := failsOnlyWith_readUntilAny (by decide)
  rcases hr : readUntilCommand c with ⟨e' | before, m⟩
  · exact (hscan c e' m hr).elim
  · rw [sectionsPass, Action.bind_ok hr, sectionsStep] at h
    split at h
    · cases h
    next hm =>
      rcases hx : command m with ⟨e' | x, n⟩
      · rw [Action.bind_error hx] at h
        cases h
        exact inDocument_command (succeeds_openCommand hr hm) hx
      · rw [Action.bind_ok hx] at h
        cases h

theorem inDocument_sectionsFrom {e : Fault} (h : sectionsFrom c = .error e) : e.InDocument := by
  induction c using sectionsFrom.induct with
  | case1 c e' d hp =>
    rw [sectionsFrom_error hp] at h
    cases h
    exact inDocument_sectionsPass hp
  | case2 c ss d hp =>
    rw [sectionsFrom_end hp] at h
    cases h
  | case3 c ss d hp ih =>
    rw [sectionsFrom_more hp] at h
    cases hlater : sectionsFrom d with
    | error e' =>
      rw [hlater] at h
      cases h
      exact ih hlater
    | ok xs =>
      rw [hlater] at h
      cases h

/-- What has been seen ahead is taken, wherever the cursor is. Behind the text in front of a command
stand its opening braces; an embedding that is seen in a body can be taken whole, and braces that are
seen can be taken; the close of a command is the longest that stands at the cursor, or the cursor
stays. So a body has no fault but that it is not closed, and no document has one about braces that
were to be there. -/
theorem lookAhead_taken (c : Cursor) :
    (∀ ks, (c.sees ks = true ↔ Succeeds (expectAll ks) c) ∧
      (c.sees ks = true → expectAll ks c = (.ok (c.peekMany ks.length), c.past ks.length))) ∧
    (∀ before d, readUntilCommand c = (.ok before, d) → d.peek.kind ≠ .finish →
      Succeeds openCommand d) ∧
    (c.sees embedKinds = true → Succeeds (do
      let _ ← openCommand
      let _ ← word
      expectAll closeKinds) c) ∧
    (c.sees openKinds = true → Succeeds openCommand c) ∧
    (∀ ks ∈ closings, c.sees ks = true → Succeeds closeCommand c) ∧
    ((∃ s ts, LongestClose c.rest s ∧ closeCommand c = (.ok ts, c.skip s.length) ∧ textOf ts = s) ∨
      (∀ s, IsClose s → ¬ s <+: c.rest) ∧ closeCommand c = (.error (.unclosed c.offset), c)) ∧
    (∀ e d, body c = (.error e, d) → ∃ n, e = .unclosed n) ∧
    ∀ t e, sections t = .error e → e.InDocument := by
  refine ⟨?_, ?_, succeeds_embed, succeeds_expectAll_iff.mpr, ?_, closeCommand_outcome c, ?_, ?_⟩
  · intro ks
    exact ⟨succeeds_expectAll_iff.symm, expectAll_of_sees⟩
  · intro before d
    exact succeeds_openCommand
  · intro ks hks
    exact succeeds_closeCommand hks
  · intro e d
    exact failsOnlyWith_body (P := fun e => ∃ n, e = .unclosed n) (fun n => ⟨n, rfl⟩) c e d
  · intro t e
    exact inDocument_sectionsFrom

def embeddingText : Text := "a\x7b\x7bb\x7d\x7d\r\n\x7d\x7d\r\n".toList

theorem lookAhead_taken_embeddingText :
    (∃ before, readUntilCommand (Cursor.start embeddingText) = (.ok before, .ofText embeddingText 1) ∧
      Succeeds openCommand (.ofText embeddingText 1)) ∧
    ((Cursor.ofText embeddingText 1).sees embedKinds = true ∧ Succeeds (do
      let _ ← openCommand
      let _ ← word
      expectAll closeKinds) (.ofText embeddingText 1)) ∧
    (lineCloseKinds ∈ closings ∧ (Cursor.ofText embeddingText 6).sees lineCloseKinds = true ∧
      Succeeds closeCommand (.ofText embeddingText 6)) ∧
    (∃ e d, body (.ofText embeddingText 8) = (.error e, d) ∧ ∃ n, e = .unclosed n) ∧
    ∃ e, sections embeddingText = .error e ∧ e.InDocument := by
  obtain ⟨-, hopen, -, -, -, -, -, hsections⟩ := lookAhead_taken (Cursor.start embeddingText)
  obtain ⟨-, -, hembed, -⟩ := lookAhead_taken (.ofText embeddingText 1)
  obtain ⟨-, -, -, -, hclose, -⟩ := lookAhead_taken (.ofText embeddingText 6)
  obtain ⟨-, -, -, -, -, -, hbody, -⟩ := lookAhead_taken (.ofText embeddingText 8)
  have hbefore : readUntilCommand (Cursor.start embeddingText) =
      (.ok [⟨.word, ['a'], 0, 1⟩], .ofText embeddingText 1) := by with_unfolding_all rfl
  have hembeds : (Cursor.ofText embeddingText 1).sees embedKinds = true := by decide
  have hcloses : (Cursor.ofText embeddingText 6).sees lineCloseKinds = true := by decide
  have hunclosed : body (.ofText embeddingText 8) =
      (.error (.unclosed 12), .ofText embeddingText 12) := by with_unfolding_all rfl
  have hunknown : sections embeddingText = .error (.unknownCommand ['b']) := by
    with_unfolding_all rfl
  refine ⟨⟨_, hbefore, hopen _ _ hbefore (by decide)⟩, ⟨hembeds, hembed hembeds⟩,
    ⟨by decide, hcloses, hclose _ (by decide) hcloses⟩, ⟨_, _, hunclosed, hbody _ _ hunclosed⟩,
    ⟨_, hunknown, hsections _ _ hunknown⟩⟩

end Document

end Weave
