import Mathlib.Data.List.DropRight
import Weave.Proofs.Document.Parts
import Weave.Proofs.Rendering.Requests
import Weave.Proofs.Snippet.Expansion

/-!
# Rendering a script

A script can be played without names: a chunk is run and shown where it stands, and a directive presents
the outcome of the chunk that was run last. The sections of a script that is not refused are rendered in
the same way: each name that is looked up then is that of the latest chunk.
-/

set_option autoImplicit false

namespace Weave

open Document.Script (Part chunk chunkName chunksFrom orphan? partsOf proseText sectionsOf)

variable {σ ε : Type}

def Action.Returns {α : Type} (p : Action σ ε α) : Prop := ∀ s, ∃ a u, p s = (.ok a, u)

namespace Renderer

/-- Tracks the next chunk and, if there is an evaluator, runs it. -/
def runChunk (r : Renderer σ ε) (n : Nat) (code : Text) : Action σ ε (Option Outcome) := do
  Action.change (r.say ("Defined and tracked snippet ".toList ++ chunkName (n + 1)))
  match r.evaluating with
  | none => pure none
  | some e => do
    Action.change (r.say ("Evaluating snippet ".toList ++ chunkName (n + 1)))
    let o ← e.evaluate code false r.file
    pure (some o)

/-- Presents an outcome, if there is one and an evaluator. -/
def presentLatest (r : Renderer σ ε) (kind : EmbedKind) (latest : Option Outcome) :
    Action σ ε (List Block) :=
  match r.evaluating, latest with
  | some e, some o => e.present o kind
  | _, _ => pure []

/-- The blocks of a part behind so many chunks, the last of which has left this outcome; and the outcome
that is the latest behind the part. -/
def playPart (r : Renderer σ ε) (n : Nat) (latest : Option Outcome) :
    Part → Action σ ε (List Block × Option Outcome)
  | .gap _ => pure ([], latest)
  | .prose ls => pure (proseBlocks (proseText ls), latest)
  | .directive _ kind => do
    let bs ← r.presentLatest kind latest
    pure (bs, latest)
  | .code ls => do
    let code := Text.trimNewlines (Text.join ['\n'] ls)
    let o ← r.runChunk n code
    pure ([.code code "python".toList], o)

def play (r : Renderer σ ε) : Nat → Option Outcome → List Part → Action σ ε (List Block)
  | _, _, [] => pure []
  | n, latest, p :: ps => do
    let (bs, latest) ← r.playPart n latest p
    let cs ← r.play (n + p.chunks) latest ps
    pure (bs ++ cs)

end Renderer

/-! ### Actions that never fail -/

section
variable {α β : Type}

theorem Action.returns_pure (a : α) : (pure a : Action σ ε α).Returns := fun s => ⟨a, s, rfl⟩

theorem Action.returns_change (f : σ → σ) : (change f : Action σ ε Unit).Returns :=
  fun s => ⟨(), f s, rfl⟩

theorem Action.Returns.bind {p : Action σ ε α} {f : α → Action σ ε β} (hp : p.Returns)
    (hf : ∀ a, (f a).Returns) : (p >>= f).Returns := by
  intro s
  obtain ⟨a, u, hp⟩ := hp s
  rw [Action.bind_ok hp]
  exact hf a u

end

/-! ### Composing a chunk -/

theorem Text.trimNewlines_trimNewlines (t : Text) : trimNewlines (trimNewlines t) = trimNewlines t := by
  have hstart : (trimNewlines t).dropWhile (· == '\n') = trimNewlines t := by
    rw [List.dropWhile_eq_self_iff]
    intro hl
    have hfront : trimNewlines t <+: t.dropWhile (· == '\n') := List.rdropWhile_prefix _ _
    have hne : t.dropWhile (· == '\n') ≠ [] := by
      intro hnil
      rw [hnil, List.prefix_nil] at hfront
      simp [hfront] at hl
    have hhead := List.head_dropWhile_not (· == '\n') hne
    rw [List.head_eq_getElem, ← hfront.getElem hl] at hhead
    simpa using hhead
  unfold trimNewlines trimWhile at hstart ⊢
  rw [hstart]
  exact List.rdropWhile_idempotent _ _

theorem expand_chunk (defs : Definitions) (n : Nat) (code : Text) :
    Snippet.expand defs (chunk n code) = ⟨[], .ok (Text.trimNewlines code)⟩ := by
  have hmem : (chunk n code).name ∈ Snippet.ownNames defs (chunk n code) := Snippet.mem_ownNames_self
  obtain ⟨depth, hdepth⟩ := Nat.exists_eq_succ_of_ne_zero (List.length_pos_of_mem hmem).ne'
  rw [Snippet.expand, hdepth]
  simp [Snippet.expandFrom, chunk, Snippet.expandRules, Expansion.done, Expansion.append, Except.map]

/-- The text of a chunk is its code, whatever has been defined. -/
theorem composed_chunk (defs : Definitions) (n : Nat) (code : Text) :
    Snippet.composed defs (chunk n code) = .ok (Text.trimNewlines code) := by
  rw [Snippet.composed, expand_chunk, ← Text.trimNewlines_trimNewlines code]
  simp [Except.map, Text.trimNewlines_trimNewlines]

namespace Renderer

variable {r : Renderer σ ε} {n : Nat} {latest : Option Outcome} {m : Rendering}

theorem tracked_chunk (r : Renderer σ ε) (m : Rendering) (n : Nat) (code : Text) (s : σ) :
    r.tracked m (chunk n code) s =
      r.say ("Defined and tracked snippet ".toList ++ chunkName (n + 1)) s := by
  rw [tracked, notices, expand_chunk]
  rfl

theorem asked_chunk (r : Renderer σ ε) (n : Nat) (code : Text) :
    r.asked (chunk n code) = r.evaluating := by
  rw [asked]
  rfl

/-! ### Parts -/

/-- The latest chunk is defined, and what it has left is kept under its name. -/
structure Latest (r : Renderer σ ε) (n : Nat) (latest : Option Outcome) (m : Rendering) : Prop where
  defined : n ≠ 0 → (m.definitions.get? (chunkName n)).isSome
  outcome : n ≠ 0 → r.evaluating.isSome → latest.isSome ∧ m.results.get? (chunkName n) = latest

/-- Rendering ends as playing does, and is prepared for what follows. -/
structure Renders (r : Renderer σ ε) (n : Nat)
    (rendered : Except (RenderingFault ε) (List Block) × Rendering × σ)
    (played : Except ε (List Block × Option Outcome) × σ) : Prop where
  blocks : rendered.1 = (played.1.map Prod.fst).mapError .raised
  state : rendered.2.2 = played.2
  latest : ∀ bs o, played.1 = .ok (bs, o) → r.Latest n o rendered.2.1

theorem Latest.embed (hm : r.Latest n latest m) (hn : n ≠ 0) (kind : EmbedKind) (s : σ) :
    r.embed (chunkName n) kind (m, s) =
      ((r.presentLatest kind latest s).1.mapError .raised, m, (r.presentLatest kind latest s).2) := by
  obtain ⟨d, hd⟩ := Option.isSome_iff_exists.mp (hm.defined hn)
  rw [embed_apply, hd]
  cases he : r.evaluating with
  | none => simp [presentLatest, he, Action.pure_apply, Except.mapError]
  | some e =>
    obtain ⟨hsome, hresult⟩ := hm.outcome hn (by simp [he])
    obtain ⟨o, rfl⟩ := Option.isSome_iff_exists.mp hsome
    simp only [hresult, presentLatest, he]
    rcases e.present o kind s with ⟨x | bs, u⟩ <;> rfl

theorem renders_directive (hm : r.Latest n latest m) (hn : n ≠ 0) (l : Text) (kind : EmbedKind)
    (s : σ) :
    r.Renders n (r.embed (chunkName n) kind (m, s)) (r.playPart n latest (.directive l kind) s) := by
  rw [hm.embed hn, playPart, Action.bind_apply]
  rcases r.presentLatest kind latest s with ⟨x | bs, u⟩
  · exact ⟨rfl, rfl, nofun⟩
  · refine ⟨rfl, rfl, ?_⟩
    rintro cs o ⟨⟩
    exact hm

/-- A chunk is kept under its name with its code and with what running it has left. -/
structure Settled (r : Renderer σ ε) (n : Nat) (code : Text) (o : Option Outcome) (m : Rendering) :
    Prop where
  definition : m.definitions.get? (chunkName (n + 1)) = some (chunk n code)
  text : m.texts.get? (chunkName (n + 1)) = some (Text.trimNewlines code)
  outcome : r.evaluating.isSome → o.isSome ∧ m.results.get? (chunkName (n + 1)) = o

theorem define_chunk (r : Renderer σ ε) (n : Nat) (code : Text) (m : Rendering) (s : σ) :
    (∃ o u m', r.runChunk n (Text.trimNewlines code) s = (.ok o, u) ∧ r.Settled n code o m' ∧
        r.section_ (.define (chunk n code)) (m, s) = (.ok [], m', u)) ∨
      ∃ x u m', r.runChunk n (Text.trimNewlines code) s = (.error x, u) ∧
        r.section_ (.define (chunk n code)) (m, s) = (.error (.raised x), m', u) := by
  rw [section_, define_apply, composed_chunk, asked_chunk, ready, tracked_chunk, runChunk]
  cases he : r.evaluating with
  | none =>
    refine .inl ⟨none, _, _, rfl, ⟨?_, ?_, ?_⟩, rfl⟩
    · simp [chunk]
    · simp [chunk]
    · simp [he]
  | some e =>
    simp only [Action.bind_apply, Action.change_apply, Action.pure_apply]
    have hname : (chunk n code).name = chunkName (n + 1) := rfl
    have hexpression : (chunk n code).header.expression = false := rfl
    simp only [hname, hexpression]
    rcases e.evaluate (Text.trimNewlines code) false r.file _ with ⟨x | o, u⟩
    · exact .inr ⟨x, u, _, rfl, rfl⟩
    · refine .inl ⟨some o, u, _, rfl, ⟨?_, ?_, ?_⟩, rfl⟩
      · simp [hname]
      · simp [hname]
      · simp

/-- A chunk that has just been settled is shown with its code. -/
theorem Settled.show {code : Text} {o : Option Outcome} (h : r.Settled n code o m) (s : σ) :
    r.section_ (.show (chunkName (n + 1))) (m, s) =
      (.ok [.code (Text.trimNewlines code) "python".toList], m, s) := by
  rw [section_, listing_apply, h.definition, h.text]
  rfl

theorem renders_code (r : Renderer σ ε) (n : Nat) (latest : Option Outcome) (ls : List Text)
    (m : Rendering) (s : σ) :
    r.Renders (n + 1) (r.sections (Part.sections n (.code ls)) (m, s))
      (r.playPart n latest (.code ls) s) := by
  rw [Part.sections_code, sections_cons, sections_singleton, playPart]
  rcases r.define_chunk n (Text.join ['\n'] ls) m s with ⟨o, u, m', hrun, hm, hsec⟩ | ⟨x, u, m', hrun, hsec⟩
  · rw [Action.bind_ok hsec, Action.bind_ok (hm.show u), Action.bind_ok hrun]
    refine ⟨rfl, rfl, ?_⟩
    rintro bs o' ⟨⟩
    exact ⟨fun _ => Option.isSome_of_eq_some hm.definition, fun _ => hm.outcome⟩
  · rw [Action.bind_error hsec, Action.bind_error hrun]
    exact ⟨rfl, rfl, fun _ _ hok => by cases hok⟩

def Led (n : Nat) (ps : List Part) : Prop :=
  ∀ pre l kind post, ps = pre ++ .directive l kind :: post →
    n + (pre.filterMap Part.code?).length ≠ 0

theorem renders_part (hm : r.Latest n latest m) (p : Part)
    (hp : ∀ l kind, p = .directive l kind → n ≠ 0) (s : σ) :
    r.Renders (n + p.chunks) (r.sections (p.sections n) (m, s)) (r.playPart n latest p s) := by
  cases p with
  | gap l =>
    refine ⟨rfl, rfl, ?_⟩
    rintro bs o ⟨⟩
    exact hm
  | prose ls =>
    rw [Part.sections, sections_singleton]
    refine ⟨rfl, rfl, ?_⟩
    rintro bs o ⟨⟩
    exact hm
  | directive l kind =>
    rw [Part.sections, sections_singleton]
    exact renders_directive hm (hp l kind rfl) l kind s
  | code ls => exact renders_code r n latest ls m s

/-- The parts are played one after the other; what carries over is the latest chunk. -/
theorem sections_sectionsOf {ps : List Part} (hm : r.Latest n latest m) (hps : Led n ps) (s : σ) :
    ∃ m', r.sections (sectionsOf n ps) (m, s) =
      ((r.play n latest ps s).1.mapError .raised, m', (r.play n latest ps s).2) := by
  induction ps generalizing n latest m s with
  | nil => exact ⟨m, rfl⟩
  | cons p ps ih =>
    have hp : ∀ l kind, p = .directive l kind → n ≠ 0 := by
      rintro l kind rfl
      simpa using hps [] l kind ps rfl
    have hrest : Led (n + p.chunks) ps := by
      intro pre l kind post h
      have hled := hps (p :: pre) l kind post (by rw [h]; rfl)
      cases p with
      | code ls =>
        show n + 1 + _ ≠ 0
        omega
      | _ => exact hled
    obtain ⟨hblocks, hstate, hlatest⟩ := renders_part hm p hp s
    rw [sectionsOf, sections_append, play]
    rcases hr : r.sections (p.sections n) (m, s) with ⟨a, m', u⟩
    rcases hq : r.playPart n latest p s with ⟨b, u'⟩
    rw [hr, hq] at hblocks hlatest hstate
    obtain rfl : u = u' := hstate
    cases b with
    | error x =>
      obtain rfl : a = .error (.raised x) := hblocks
      rw [Action.bind_error hr, Action.bind_error hq]
      exact ⟨m', rfl⟩
    | ok b =>
      obtain ⟨bs, o⟩ := b
      obtain rfl : a = .ok bs := hblocks
      obtain ⟨m'', hrun⟩ := ih (hlatest bs o rfl) hrest u
      refine ⟨m'', ?_⟩
      rw [Action.bind_ok hr, Action.bind_ok hq, Action.bind_apply, hrun]
      simp only [Action.bind_apply]
      rcases r.play (n + p.chunks) o ps u with ⟨x | cs, v⟩ <;> rfl

theorem Latest.start (r : Renderer σ ε) : r.Latest 0 none {} :=
  ⟨fun h => absurd rfl h, fun h => absurd rfl h⟩

/-! ### Playing to the end -/

theorem presentLatest_returns (hr : ∀ e ∈ r.evaluating, e.Returns) (kind : EmbedKind)
    (latest : Option Outcome) : (r.presentLatest kind latest).Returns := by
  unfold presentLatest
  split
  · next e o he => exact (hr e he).present o kind
  · exact Action.returns_pure []

theorem runChunk_returns (hr : ∀ e ∈ r.evaluating, e.Returns) (n : Nat) (code : Text) :
    (r.runChunk n code).Returns := by
  apply Action.Returns.bind (Action.returns_change _)
  intro _
  split
  · exact Action.returns_pure none
  · next e he =>
    apply Action.Returns.bind (Action.returns_change _)
    intro _
    apply Action.Returns.bind ((hr e he).evaluate code false r.file)
    intro o
    exact Action.returns_pure (some o)

theorem playPart_returns (hr : ∀ e ∈ r.evaluating, e.Returns) (n : Nat) (latest : Option Outcome)
    (p : Part) : (r.playPart n latest p).Returns := by
  cases p with
  | gap l => exact Action.returns_pure _
  | prose ls => exact Action.returns_pure _
  | directive l kind =>
    exact (presentLatest_returns hr kind latest).bind fun bs => Action.returns_pure _
  | code ls => exact (runChunk_returns hr n _).bind fun o => Action.returns_pure _

theorem play_returns (hr : ∀ e ∈ r.evaluating, e.Returns) (n : Nat) (latest : Option Outcome)
    (ps : List Part) : (r.play n latest ps).Returns := by
  induction ps generalizing n latest with
  | nil => exact Action.returns_pure []
  | cons p ps ih =>
    apply (playPart_returns hr n latest p).bind
    rintro ⟨bs, o⟩
    exact (ih (n + p.chunks) o).bind fun cs => Action.returns_pure _

/-! ### What is asked -/

def chunkRequest (r : Renderer σ ε) (code : Text) : Request := ⟨Text.trimNewlines code, false, r.file⟩

theorem map_snd_asking (defs : Definitions) (xs : List Section) :
    (asking defs xs).map Prod.snd =
      (xs.filterMap Section.snippet?).filter fun d => d.header.shouldEvaluate := by
  induction xs generalizing defs with
  | nil => rfl
  | cons x xs ih =>
    cases x with
    | define d =>
      have hcons : (Section.define d :: xs).filterMap Section.snippet? =
        d :: xs.filterMap Section.snippet? := rfl
      rw [hcons, asking, List.filter_cons]
      split
      · rw [List.map_cons, ih]
      · exact ih _
    | _ => exact ih defs

theorem requests_of_answers {codes : List Text} {reqs : List Request}
    (h : List.Forall₂ (fun d q => ∃ defs, r.Answers (defs, d) q) (chunksFrom n codes) reqs) :
    reqs = codes.map r.chunkRequest := by
  induction codes generalizing n reqs with
  | nil =>
    cases h
    rfl
  | cons code codes ih =>
    have hcons : chunksFrom n (code :: codes) = chunk n code :: chunksFrom (n + 1) codes := by
      simpa [chunksFrom] using Document.Script.chunksFrom_append (n := n) [code] codes
    rw [hcons] at h
    cases h with
    | @cons _ q _ qs hq hqs =>
      obtain ⟨defs, htext, hmode, hfile⟩ := hq
      rw [composed_chunk] at htext
      obtain ⟨text, mode, file⟩ := q
      obtain rfl : Text.trimNewlines code = text := Except.ok.inj htext
      obtain rfl : mode = false := hmode
      obtain rfl : file = r.file := hfile
      rw [List.map_cons, ← ih hqs]
      rfl

theorem evaluations_of_chunks {e : Evaluating σ ε} (he : r.evaluating = some e) {ss : List Section}
    {codes : List Text} (hss : ss.filterMap Section.snippet? = chunksFrom 0 codes) {s : σ}
    (h : r.Passes ss s) : (r.evaluations ss s).map Evaluation.request = codes.map r.chunkRequest := by
  obtain ⟨bs, ⟨m, u⟩, h⟩ := h
  have hanswers := madeBy_answers he h
  rw [← evaluations_eq] at hanswers
  have hall : ∀ d ∈ chunksFrom 0 codes, d.header.shouldEvaluate = true := by
    intro d hd
    obtain ⟨k, hk, rfl⟩ := List.mem_mapIdx.mp hd
    rfl
  have hchunks : (asking {} ss).map Prod.snd = chunksFrom 0 codes := by
    rw [map_snd_asking, hss, List.filter_eq_self.mpr hall]
  apply requests_of_answers
  rw [← hchunks, List.forall₂_map_left_iff]
  exact hanswers.imp fun p q hpq => ⟨p.1, hpq⟩

theorem led_partsOf {ls : List Text} (ho : orphan? ls = none) : Led 0 (partsOf ls) := by
  intro pre l kind post hps
  have hlayout := Document.Script.layout_partsOf ls
  rw [hps] at hlayout
  rw [Nat.zero_add]
  exact mt List.eq_nil_of_length_eq_zero (hlayout.code_before ho)

/-- A script that is not refused is rendered as its parts are played. Rendering can only fail where the
evaluator does; otherwise the evaluator is asked for its chunks, one after the other. -/
theorem sections_play {t : Text} {ss : List Section} (h : Document.Script.sections t = .ok ss)
    (r : Renderer σ ε) (s : σ) :
    (∃ m, r.sections ss ({}, s) =
      ((r.play 0 none (partsOf (Text.lines t)) s).1.mapError .raised, m,
        (r.play 0 none (partsOf (Text.lines t)) s).2)) ∧
      ((∀ e ∈ r.evaluating, e.Returns) → r.Passes ss s ∧ ∀ e, r.evaluating = some e →
        (r.evaluations ss s).map Evaluation.request =
          ((partsOf (Text.lines t)).filterMap Part.code?).map r.chunkRequest) := by
  rw [Document.Script.sections_eq_outcome, Document.Script.outcome, if_pos rfl] at h
  cases ho : orphan? (Text.lines t) with
  | some d =>
    rw [ho] at h
    contradiction
  | none =>
    rw [ho] at h
    obtain rfl : sectionsOf 0 (partsOf (Text.lines t)) = ss := Except.ok.inj h
    obtain ⟨m, hm⟩ := sections_sectionsOf (Latest.start r) (led_partsOf ho) s
    refine ⟨⟨m, hm⟩, ?_⟩
    intro hr
    obtain ⟨bs, u, hplay⟩ := play_returns hr 0 none (partsOf (Text.lines t)) s
    have hpasses : r.Passes (sectionsOf 0 (partsOf (Text.lines t))) s := by
      rw [hplay] at hm
      exact ⟨bs, (m, u), hm⟩
    refine ⟨hpasses, ?_⟩
    intro e he
    exact evaluations_of_chunks he (Document.Script.snippets_sectionsOf 0 _) hpasses

def shownScript : Text := "x\n#~ a\n#~ include-output\n".toList

def shownSections : List Section :=
  [.define (chunk 0 ['x']), .show (chunkName 1), .text ['a', '\n'], .embed (chunkName 1) .output]

theorem sections_play_shownScript :
    Document.Script.sections shownScript = .ok shownSections ∧ (∀ e ∈ echo.evaluating, e.Returns) ∧
      (∃ m, echo.sections shownSections ({}, ()) =
        ((echo.play 0 none (partsOf (Text.lines shownScript)) ()).1.mapError .raised, m, ())) ∧
      echo.Passes shownSections () ∧
      (echo.evaluations shownSections ()).map Evaluation.request =
        ((partsOf (Text.lines shownScript)).filterMap Part.code?).map echo.chunkRequest := by
  have h : Document.Script.sections shownScript = .ok shownSections := by rfl
  have hr : ∀ e ∈ echo.evaluating, e.Returns := by
    rintro e ⟨⟩
    exact echoing_returns
  obtain ⟨hplay, hreturns⟩ := sections_play h echo ()
  exact ⟨h, hr, hplay, (hreturns hr).1, (hreturns hr).2 echoing rfl⟩

example : (echo.sections shownSections ({}, ())).1 =
    .ok [.code ['x'] "python".toList, .prose ['a', '\n'], .code ['x'] []] := rfl

end Renderer

end Weave
