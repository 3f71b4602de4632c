import Mathlib.Data.List.Infix
import Weave.Proofs.Document.LineEnds
import Weave.Proofs.Document.Spans

/-!
# Documents with other line ends

A document without carriage returns reads as it does with one in front of each line feed: reader by
reader both come to the same place in the same way, and what is read differs in its line ends only.
-/

set_option autoImplicit false

namespace Weave

def Rule.withReturns : Rule → Rule
  | .text t => .text t.withReturns
  | .embed name => .embed name

def Section.withReturns : Section → Section
  | .text t => .text t.withReturns
  | .define s => .define { s with rules := s.rules.map Rule.withReturns }
  | x => x

namespace Document

/-- A fault of `t` where it is found with carriage returns. -/
def Fault.withReturns (t : Text) : Fault → Fault
  | .unexpected wanted found => .unexpected wanted (found.withReturns t)
  | .unclosed offset => .unclosed (t.placeWithReturns offset)
  | e => e

/-- Two readings, the first on `t`, come to the same place and read the same up to `f`. -/
inductive Mirrors {α β : Type} (t : Text) (f : α → β) :
    Except Fault α × Cursor → Except Fault β × Cursor → Prop
  | ok {a : α} {d : Cursor} (h : d.On t) : Mirrors t f (.ok a, d) (.ok (f a), d.withReturns t)
  | error {e : Fault} {d : Cursor} (h : d.On t) :
    Mirrors t f (.error e, d) (.error (e.withReturns t), d.withReturns t)

variable {α β α' β' : Type} {t : Text} {c : Cursor}

theorem Mirrors.bind {f : α → β} {g : α' → β'} {p : Reading α} {q : Reading β} {c' : Cursor}
    {P : α → Reading α'} {Q : β → Reading β'} (h : Mirrors t f (p c) (q c'))
    (hnext : ∀ a d, p c = (.ok a, d) → d.On t → Mirrors t g (P a d) (Q (f a) (d.withReturns t))) :
    Mirrors t g ((p >>= P) c) ((q >>= Q) c') := by
  rw [Action.bind_apply, Action.bind_apply]
  generalize hp : p c = r at h ⊢
  generalize q c' = r' at h ⊢
  cases h with
  | ok hd => exact hnext _ _ hp hd
  | error hd => exact .error hd

/-! ### Tokens, searches and rules -/

theorem textOf_withReturns (ts : List Token) :
    textOf (ts.map (Token.withReturns t)) = (textOf ts).withReturns := by
  induction ts with
  | nil => rfl
  | cons k ts ih =>
    rw [List.map_cons, textOf_cons, textOf_cons, ih, Token.withReturns_text, Text.withReturns_append]

theorem IsWord.withReturns_eq {w : Text} (h : IsWord w) : w.withReturns = w := by
  refine Text.withReturns_of_not_mem ?_
  intro hm
  have hnone := h.2 _ hm
  simp [TokenKind.ofChar?] at hnone

theorem endingIn_withReturns (breaks : List (List TokenKind)) (read : List (Token × Cursor)) :
    endingIn breaks (read.map (Cursor.placedWithReturns t)) = endingIn breaks read := by
  have hkinds : ∀ n, (((read.map (Cursor.placedWithReturns t)).take n).map fun r => r.1.kind) =
      (read.take n).map fun r => r.1.kind := by
    intro n
    rw [← List.map_take, List.map_map]
    rfl
  simp only [endingIn, hkinds]

theorem search_on (breaks : List (List TokenKind)) {rest read : List (Token × Cursor)}
    {behind : Cursor} (hrest : ∀ r ∈ rest, r.2.On t) (hread : ∀ r ∈ read, r.2.On t)
    (hbehind : behind.On t) : (search breaks rest read behind).2.On t := by
  induction rest generalizing read behind with
  | nil => exact hbehind
  | cons r rest ih =>
    obtain ⟨hr, hothers⟩ := List.forall_mem_cons.mp hrest
    have hall : ∀ s ∈ r :: read, s.2.On t := List.forall_mem_cons.mpr ⟨hr, hread⟩
    rw [search]
    cases endingIn breaks (r :: read) with
    | none => exact ih hothers hall hr.advance
    | some b =>
      cases hm : ((r :: read).take b.length).getLast? with
      | none => simpa [hm] using hbehind
      | some s => simpa [hm] using hall s (List.mem_of_mem_take (List.mem_of_getLast? hm))

theorem addText_withReturns (u : Text) (rules : List Rule) :
    addText u.withReturns (rules.map Rule.withReturns) =
      (addText u rules).map Rule.withReturns := by
  cases rules with
  | nil => rfl
  | cons r rules =>
    cases r with
    | embed name => rfl
    | text s => simp [addText, Rule.withReturns]

theorem bodyFrom_pass (rules : List Rule) (c : Cursor) :
    bodyFrom rules c = match bodyPass rules c with
      | (.error e, d) => (.error e, d)
      | (.ok (rules, false), d) => (.ok rules.reverse, d)
      | (.ok (rules, true), d) => bodyFrom rules d := by
  rw [bodyFrom]
  split <;> simp_all

/-! ### Readers -/

section
variable (ht : '\r' ∉ t)
include ht

theorem mirrors_expect (h : c.On t) (kind : TokenKind) :
    Mirrors t (Token.withReturns t) (expect kind c) (expect kind (c.withReturns t)) := by
  unfold expect
  rw [h.peek_withReturns ht, h.advance_withReturns ht, Token.withReturns_kind]
  split
  · exact .ok h.advance
  · exact .error h.advance

theorem mirrors_expectAll (h : c.On t) (kinds : List TokenKind) :
    Mirrors t (List.map (Token.withReturns t)) (expectAll kinds c)
      (expectAll kinds (c.withReturns t)) := by
  induction kinds generalizing c with
  | nil => exact .ok h
  | cons k ks ih =>
    refine (mirrors_expect ht h k).bind fun a d _ hd => ?_
    exact (ih hd).bind fun as e _ he => .ok he

theorem mirrors_word (h : c.On t) : Mirrors t id (word c) (word (c.withReturns t)) := by
  refine (mirrors_expect ht h .word).bind fun a d ha hd => ?_
  obtain ⟨hkind, rfl, -⟩ := expect_eq_ok ha
  have hword : c.peek.text.withReturns = c.peek.text := IsWord.withReturns_eq (isWord_of_peek hkind)
  rw [Token.withReturns_text, hword]
  exact .ok hd

theorem search_withReturns (breaks : List (List TokenKind)) (rest read : List (Token × Cursor))
    (behind : Cursor) (hrest : ∀ r ∈ rest, r.2.On t) :
    search breaks (rest.map (Cursor.placedWithReturns t)) (read.map (Cursor.placedWithReturns t))
        (behind.withReturns t) =
      ((search breaks rest read behind).1.map (Token.withReturns t),
        (search breaks rest read behind).2.withReturns t) := by
  induction rest generalizing read behind with
  | nil => simp [search, Cursor.placedWithReturns, Function.comp_def]
  | cons r rest ih =>
    obtain ⟨hr, hothers⟩ := List.forall_mem_cons.mp hrest
    have hend := endingIn_withReturns (t := t) breaks (r :: read)
    rw [List.map_cons] at hend ⊢
    rw [search, search, hend]
    cases endingIn breaks (r :: read) with
    | none =>
      -- the cursor behind a token moves on alike only for a cursor on the text
      have hnext := ih (r :: read) r.2.advance hothers
      rw [← hr.advance_withReturns ht] at hnext
      exact hnext
    | some b =>
      simp only [← List.map_cons, ← List.map_drop, ← List.map_take, List.getLast?_map,
        Option.map_map, List.map_map, List.map_reverse]
      cases ((r :: read).take b.length).getLast? <;> rfl

theorem mirrors_readUntilAny (h : c.On t) (breaks : List (List TokenKind)) :
    Mirrors t (List.map (Token.withReturns t)) (readUntilAny breaks c)
      (readUntilAny breaks (c.withReturns t)) := by
  unfold readUntilAny
  split
  · exact .error h
  · have htokens : ∀ r ∈ c.tokens, r.2.On t := fun r hr => h.of_mem_tokens hr
    have hsearch := search_withReturns ht breaks c.tokens [] c htokens
    rw [List.map_nil, ← h.tokens_withReturns ht] at hsearch
    rw [hsearch]
    exact .ok (search_on breaks htokens (by simp) h)

theorem mirrors_closeCommand (h : c.On t) :
    Mirrors t (List.map (Token.withReturns t)) (closeCommand c) (closeCommand (c.withReturns t)) := by
  have hsees : (fun ks => (c.withReturns t).sees ks) = fun ks => c.sees ks :=
    funext fun ks => h.sees_withReturns ht ks
  unfold closeCommand
  rw [hsees]
  cases closings.find? fun ks => c.sees ks with
  | some ks => exact mirrors_expectAll ht h ks
  | none => exact .error h

theorem mirrors_bodyStep (h : c.On t) (rules : List Rule) :
    Mirrors t (Prod.map (List.map Rule.withReturns) id) (bodyStep rules c)
      (bodyStep (rules.map Rule.withReturns) (c.withReturns t)) := by
  unfold bodyStep
  rw [h.sees_withReturns ht, h.sees_withReturns ht]
  split
  · refine (mirrors_expectAll ht h openKinds).bind fun _ c₁ _ h₁ => ?_
    refine (mirrors_word ht h₁).bind fun name c₂ _ h₂ => ?_
    exact (mirrors_expectAll ht h₂ closeKinds).bind fun _ c₃ _ h₃ => .ok h₃
  split
  · refine (mirrors_expectAll ht h openKinds).bind fun ts c₁ _ h₁ => ?_
    rw [textOf_withReturns, addText_withReturns]
    exact .ok h₁
  · exact (mirrors_closeCommand ht h).bind fun _ c₁ _ h₁ => .ok h₁

theorem mirrors_bodyPass (h : c.On t) (rules : List Rule) :
    Mirrors t (Prod.map (List.map Rule.withReturns) id) (bodyPass rules c)
      (bodyPass (rules.map Rule.withReturns) (c.withReturns t)) := by
  refine (mirrors_readUntilAny ht h [openKinds, lineCloseKinds]).bind fun before d _ hd => ?_
  have hrules : (if (before.map (Token.withReturns t)).isEmpty then rules.map Rule.withReturns
      else addText (textOf (before.map (Token.withReturns t))) (rules.map Rule.withReturns)) =
      (if before.isEmpty then rules else addText (textOf before) rules).map Rule.withReturns := by
    rw [textOf_withReturns, addText_withReturns, List.isEmpty_map]
    split <;> rfl
  rw [hrules]
  exact mirrors_bodyStep ht hd _

theorem mirrors_bodyFrom (h : c.On t) (rules : List Rule) :
    Mirrors t (List.map Rule.withReturns) (bodyFrom rules c)
      (bodyFrom (rules.map Rule.withReturns) (c.withReturns t)) := by
  -- on what is left of the text: a pass after which the body goes on has taken some of it
  induction hn : c.rest.length using Nat.strongRecOn generalizing c rules with
  | ind n ih =>
    have hpass := mirrors_bodyPass ht h rules
    rw [bodyFrom_pass, bodyFrom_pass (rules.map _)]
    generalize hp : bodyPass rules c = r at hpass ⊢
    generalize bodyPass (rules.map Rule.withReturns) (c.withReturns t) = r' at hpass ⊢
    cases hpass with
    | error hd => exact .error hd
    | @ok a d hd =>
      obtain ⟨rules', more⟩ := a
      cases more with
      | false =>
        have hread : Mirrors t (List.map Rule.withReturns) (.ok rules'.reverse, d)
            (.ok (rules'.reverse.map Rule.withReturns), d.withReturns t) := .ok hd
        rwa [List.map_reverse] at hread
      | true => exact ih d.rest.length (hn ▸ bodyPass_shortens hp) hd rules' rfl

end

/-! ### Headers -/

/-- The source of a header: what stands in front of a separator or of a line that starts with closing
braces. -/
def headerSource : Text → Text
  | [] => []
  | c :: r =>
    if separator <+: c :: r ∨ '\n' :: closing <+: c :: r then [] else c :: headerSource r

def headerAt? (t : Text) : Option Text :=
  (Text.after? (opened .define []) t).bind fun r =>
    let behind := r.drop (Token.wordAt r).length
    if closing <+: behind then none else some (headerSource behind)

def headerSources (t : Text) : List Text := t.tails.filterMap headerAt?

theorem breaks_headerBreaks_iff {u : Text} (hu : '\r' ∉ u) :
    TokenKind.Breaks headerBreaks u ↔ separator <+: u ∨ '\n' :: closing <+: u := by
  rw [breaks_headerBreaks]
  refine or_congr_right ?_
  constructor
  · rintro ⟨nl, hnl, hpre⟩
    rcases TokenKind.mem_newline.mp hnl with rfl | rfl
    · exact hpre
    · exact absurd (hpre.subset List.mem_cons_self) hu
  · intro hpre
    exact ⟨['\n'], by decide, hpre⟩

theorem exists_headerSource {u : Text} (hu : '\r' ∉ u) :
    ∃ y, u = headerSource u ++ y ∧ ClearOf (TokenKind.Breaks headerBreaks) (headerSource u) y ∧
      (y = [] ∨ TokenKind.Breaks headerBreaks y) := by
  induction u with
  | nil => exact ⟨[], rfl, clearOf_nil _, .inl rfl⟩
  | cons c r ih =>
    have hbreaks := breaks_headerBreaks_iff hu
    rw [headerSource]
    split
    · next h => exact ⟨c :: r, rfl, clearOf_nil _, .inr (hbreaks.mpr h)⟩
    · next h =>
      obtain ⟨y, hy, hclear, hend⟩ := ih fun hm => hu (List.mem_cons_of_mem c hm)
      refine ⟨y, by rw [List.cons_append, ← hy], clearOf_cons.mpr ⟨?_, hclear⟩, hend⟩
      rw [← hy]
      exact fun hb => h (hbreaks.mp hb)

theorem textOf_readUntil_header {ts : List Token} {d : Cursor} (hc : '\r' ∉ c.rest)
    (h : readUntilAny [separatorKinds, lineCloseKinds] c = (.ok ts, d)) :
    textOf ts = headerSource c.rest := by
  obtain ⟨y, hy, hclear, hend⟩ := exists_headerSource hc
  obtain ⟨us, hus, htext, -⟩ := readUntilAny_of_clear separable_headerBreaks hy hclear hend
  rw [headerBreaks, h] at hus
  simp only [Prod.mk.injEq, Except.ok.injEq] at hus
  rw [hus.1, htext]

theorem mirrors_readHeader (h : c.On t) {u u' : Text} (hu : Header.read u' = Header.read u) :
    Mirrors t id (readHeader u c) (readHeader u' (c.withReturns t)) := by
  unfold readHeader
  rw [hu]
  cases Header.read u with
  | ok header => exact .ok h
  | error f => exact .error h

theorem peek_text_of_word (h : c.peek.kind = .word) : c.peek.text = Token.wordAt c.rest := by
  have hne : c.rest ≠ [] := Cursor.rest_ne_nil_of_peek_kind (by simp [h])
  rw [Cursor.peek_eq_front hne] at h ⊢
  unfold Token.front at h ⊢
  split at h
  · contradiction
  · split at h
    · next hd =>
      have hspelled := (TokenKind.mem_spellings_of_delimiter? hd).1
      dsimp only at h
      rw [h] at hspelled
      simp [TokenKind.spellings] at hspelled
    · rfl

theorem rest_of_word_eq_ok {w : Text} {d : Cursor} (h : word c = (.ok w, d)) :
    d.rest = c.rest.drop (Token.wordAt c.rest).length := by
  obtain ⟨k, m, hexp, hpure⟩ := Action.bind_eq_ok h
  simp only [Action.pure_apply, Prod.mk.injEq] at hpure
  obtain ⟨-, rfl⟩ := hpure
  obtain ⟨hkind, -, rfl⟩ := expect_eq_ok hexp
  rw [← peek_text_of_word hkind]
  rfl

theorem rest_eq_opened {k : CommandWord} {ts : List Token} {s : Token} {d₁ d₂ d₃ : Cursor}
    (hopen : openCommand c = (.ok ts, d₁)) (hk : commandWord d₁ = (.ok k, d₂))
    (hspace : expect .space d₂ = (.ok s, d₃)) : c.rest = opened k [] ++ d₃.rest := by
  obtain ⟨u, hu, hc⟩ := expectAll_eq_ok (by decide) hopen
  obtain ⟨v, hv, hd⟩ := expect_delimiter_eq_ok (by decide) hspace
  obtain rfl : u = ['{', '{'] := by simpa [openKinds, TokenKind.spell, TokenKind.spellings] using hu
  obtain rfl : v = [' '] := by simpa [TokenKind.spellings] using hv
  rw [hc, commandWord_eq_ok hk, hd]
  simp [opened]

theorem mem_headerSources {r : Text} (hr : opened .define [] ++ r <:+ t)
    (hclose : ¬ closing <+: r.drop (Token.wordAt r).length) :
    headerSource (r.drop (Token.wordAt r).length) ∈ headerSources t := by
  refine List.mem_filterMap.mpr ⟨_, (List.mem_tails _ _).mpr hr, ?_⟩
  rw [headerAt?, Text.after?_append, Option.bind_some]
  exact if_neg hclose

/-- The headers that a text holds are read alike with either line ends. -/
def HeadersAlike (t : Text) : Prop :=
  ∀ h ∈ headerSources t, Header.read h.withReturns = Header.read h

/-! ### Sections -/

section
variable (ht : '\r' ∉ t)
include ht

theorem mirrors_rulesBehindHeader (h : c.On t) :
    Mirrors t (List.map Rule.withReturns) (rulesBehindHeader c)
      (rulesBehindHeader (c.withReturns t)) := by
  unfold rulesBehindHeader
  rw [h.sees_withReturns ht]
  split
  · exact (mirrors_closeCommand ht h).bind fun _ d _ hd => .ok hd
  · exact (mirrors_expectAll ht h _).bind fun _ d _ hd => mirrors_bodyFrom ht hd []

theorem mirrors_definition (h : c.On t) (name : Text)
    (hread : ¬ closing <+: c.rest →
      Header.read (headerSource c.rest).withReturns = Header.read (headerSource c.rest)) :
    Mirrors t Section.withReturns (definition name c) (definition name (c.withReturns t)) := by
  unfold definition
  rw [h.sees_withReturns ht]
  split
  · exact (mirrors_closeCommand ht h).bind fun _ d _ hd => .ok hd
  · next hclose =>
    have halike := hread fun hp => hclose (sees_closeKinds.mpr hp)
    refine (mirrors_readUntilAny ht h _).bind fun ts d hts hd => ?_
    have hsource := textOf_readUntil_header (h.return_not_mem ht) hts
    rw [textOf_withReturns, hsource]
    refine (mirrors_readHeader hd halike).bind fun header d₁ _ h₁ => ?_
    exact (mirrors_rulesBehindHeader ht h₁).bind fun rules d₂ _ h₂ => .ok h₂

theorem mirrors_commandWord (h : c.On t) :
    Mirrors t id (commandWord c) (commandWord (c.withReturns t)) := by
  refine (mirrors_word ht h).bind fun w d _ hd => ?_
  rw [id]
  cases CommandWord.ofWord? w with
  | some k => exact .ok hd
  | none => exact .error hd

theorem mirrors_command (h : c.On t) (hh : HeadersAlike t) :
    Mirrors t Section.withReturns (command c) (command (c.withReturns t)) := by
  refine (mirrors_expectAll ht h openKinds).bind fun ts d₁ hopen h₁ => ?_
  refine (mirrors_commandWord ht h₁).bind fun k d₂ hk h₂ => ?_
  refine (mirrors_expect ht h₂ .space).bind fun s d₃ hspace h₃ => ?_
  refine (mirrors_word ht h₃).bind fun name d₄ hname h₄ => ?_
  cases k with
  | «show» => exact (mirrors_closeCommand ht h₄).bind fun _ d₅ _ h₅ => .ok h₅
  | embed kind => exact (mirrors_closeCommand ht h₄).bind fun _ d₅ _ h₅ => .ok h₅
  | define =>
    refine mirrors_definition ht h₄ name fun hclose => hh _ ?_
    have hopened := rest_eq_opened hopen hk hspace
    rw [rest_of_word_eq_ok hname] at hclose ⊢
    obtain ⟨x, hx, -⟩ := h.split
    exact mem_headerSources (hx ▸ hopened ▸ List.suffix_append x _) hclose

theorem mirrors_sectionsStep (h : c.On t) (hh : HeadersAlike t) (texts : List Section) :
    Mirrors t (Prod.map (List.map Section.withReturns) id) (sectionsStep texts c)
      (sectionsStep (texts.map Section.withReturns) (c.withReturns t)) := by
  unfold sectionsStep
  rw [h.peek_withReturns ht, Token.withReturns_kind]
  split
  · exact .ok h
  · refine (mirrors_command ht h hh).bind fun x d _ hd => ?_
    have hread : Mirrors t (Prod.map (List.map Section.withReturns) id) (.ok (texts ++ [x], true), d)
        (.ok ((texts ++ [x]).map Section.withReturns, true), d.withReturns t) := .ok hd
    rwa [List.map_append] at hread

theorem mirrors_sectionsPass (h : c.On t) (hh : HeadersAlike t) :
    Mirrors t (Prod.map (List.map Section.withReturns) id) (sectionsPass c)
      (sectionsPass (c.withReturns t)) := by
  refine (mirrors_readUntilAny ht h [openKinds]).bind fun before d _ hd => ?_
  have htexts : (if (before.map (Token.withReturns t)).isEmpty then []
      else [Section.text (textOf (before.map (Token.withReturns t)))]) =
      (if before.isEmpty then [] else [Section.text (textOf before)]).map Section.withReturns := by
    rw [textOf_withReturns, List.isEmpty_map]
    split <;> rfl
  rw [htexts]
  exact mirrors_sectionsStep ht hd hh _

theorem sectionsFrom_withReturns (h : c.On t) (hh : HeadersAlike t) :
    sectionsFrom (c.withReturns t) =
      ((sectionsFrom c).map (List.map Section.withReturns)).mapError (Fault.withReturns t) := by
  induction hn : c.rest.length using Nat.strongRecOn generalizing c with
  | ind n ih =>
    have hpass := mirrors_sectionsPass ht h hh
    generalize hp : sectionsPass c = r at hpass
    generalize hq : sectionsPass (c.withReturns t) = r' at hpass
    cases hpass with
    | error hd =>
      rw [sectionsFrom_error hp, sectionsFrom_error hq]
      rfl
    | @ok a d hd =>
      obtain ⟨ss, more⟩ := a
      cases more with
      | false =>
        rw [sectionsFrom_end hp, sectionsFrom_end hq]
        rfl
      | true =>
        have hothers := ih d.rest.length (hn ▸ sectionsPass_shortens hp) hd rfl
        rw [sectionsFrom_more hp, sectionsFrom_more hq, hothers]
        cases sectionsFrom d with
        | error e => rfl
        | ok xs => simp [Except.map, Except.mapError]

/-- A document without carriage returns and the one with a carriage return in front of each line feed
have the same sections up to these returns in their texts, or the same fault. -/
theorem sections_withReturns (hh : HeadersAlike t) :
    sections t.withReturns =
      ((sections t).map (List.map Section.withReturns)).mapError (Fault.withReturns t) := by
  rw [sections, sections, ← Cursor.withReturns_start]
  exact sectionsFrom_withReturns ht (Cursor.on_start t) hh

end

/-! ### A note with other line ends -/

def noteText : Text :=
  "\x7b\x7bdefine a\nlang: text\n###\nx\ny\n\x7d\x7d\nz\n".toList

theorem eq_ok_of_toOption {ε α : Type} {r : Except ε α} {a : α} (h : r.toOption = some a) :
    r = .ok a := by
  cases r with
  | ok b => exact congrArg _ (Option.some.inj h)
  | error e => cases h

theorem headersAlike_noteText : HeadersAlike noteText := by
  have hsources : headerSources noteText = ["\nlang: text\n".toList] := by decide +kernel
  have hread : (Header.read "\nlang: text\n".toList).toOption = some ⟨.text, true, false⟩ := by
    decide +kernel
  have hread' : (Header.read "\r\nlang: text\r\n".toList).toOption = some ⟨.text, true, false⟩ := by
    decide +kernel
  intro h hh
  rw [hsources, List.mem_singleton] at hh
  subst hh
  exact (eq_ok_of_toOption hread').trans (eq_ok_of_toOption hread).symm

theorem sections_withReturns_noteText :
    '\r' ∉ noteText ∧ HeadersAlike noteText ∧ sections noteText.withReturns = .ok
      [ .define ⟨['a'], ⟨.text, true, false⟩, [.text "x\r\ny".toList]⟩, .text "z\r\n".toList ] := by
  have hr : '\r' ∉ noteText := by decide
  have hread : (sections noteText).toOption = some
      [ .define ⟨['a'], ⟨.text, true, false⟩, [.text "x\ny".toList]⟩, .text "z\n".toList ] := by
    decide +kernel
  refine ⟨hr, headersAlike_noteText, ?_⟩
  rw [sections_withReturns hr headersAlike_noteText, eq_ok_of_toOption hread]
  rfl

end Document

end Weave
