import Weave.Build
import Weave.Proofs.Evaluation.Attempts
import Weave.Proofs.Output.Documents
import Weave.Proofs.Rendering.InStep
import Weave.Proofs.Rendering.Refusals

/-!
# Documents under way

While a document is rendered, one more listener collects its failures. What is collected are the attempts
that have failed so far, in order; rendering stops for a flaw of the document, or because an attempt, a
listener or the presentation of an outcome has raised. However it ends, the listener is gone afterwards.
-/

set_option autoImplicit false

namespace Weave

variable {τ : Type}

namespace Job

def renderer (session : Session τ) (listening : Listening Listener) (j : Job) :
    Renderer (Workshop τ Listener) EvaluationFault where
  say line s := (s.1.print line, s.2)
  evaluating := if j.config.evaluate then some (Evaluator.evaluating session listening) else none
  file := some j.input

def collecting (s : Workshop τ Listener) : Workshop τ Listener := (s.1, s.2.subscribe .collect)

/-- The attempts to run snippets while sections are rendered, in order. -/
def attemptsAt (session : Session τ) (listening : Listening Listener) (j : Job) (ss : List Section)
    (s : Workshop τ Listener) : List Attempt :=
  (j.renderer session listening).notes (Evaluator.attempt session) ss (collecting s)

/-- The attempts of a whole build. There are none where the document cannot be read. -/
def attempts (session : Session τ) (listening : Listening Listener) (j : Job)
    (s : Workshop τ Listener) : List Attempt :=
  match j.read s.1 with
  | (.ok ss, w) => j.attemptsAt session listening ss (w, s.2)
  | (.error _, _) => []

/-- Why an evaluator raises while a document is rendered: running a snippet has ended with what is not
its own failure, one who was told about a failure has raised, or an outcome cannot be presented. -/
inductive GivesUp (listening : Listening Listener) (presenter : Presenter) (log : List Attempt) :
    EvaluationFault → Prop
  | attempt {a : Attempt} {e : Exception} (ha : a ∈ log) (he : a.result = .error (.raised e)) :
      GivesUp listening presenter log (.raised e)
  | listener {a : Attempt} {f : Failure} {h : Listener} {w : World} {e : Exception} (ha : a ∈ log)
      (hf : a.failure? = some f) (he : (listening h f w).1.Raises e) :
      GivesUp listening presenter log (.raised e)
  | presenter {a : Attempt} {o : Outcome} {kind : EmbedKind} {e : PresentationError} (ha : a ∈ log)
      (ho : a.result = .ok o) (he : presenter.present o kind = .error e) :
      GivesUp listening presenter log (.unpresentable e)

/-- Why rendering sections stops before their end: one of them has a flaw, or the evaluator has
raised. -/
inductive StopsFor (listening : Listening Listener) (presenter : Presenter) (log : List Attempt)
    (ss : List Section) : RenderingFault EvaluationFault → Prop
  | flaw {pre post : List Section} {x : Section} {f : RenderingFault EvaluationFault}
      (hss : ss = pre ++ x :: post) (hf : Renderer.Flaw pre x f) :
      StopsFor listening presenter log ss f
  | raised {e : EvaluationFault} (he : GivesUp listening presenter log e) :
      StopsFor listening presenter log ss (.raised e)

/-- What has come of the attempts, where all of them keep `K`. -/
def Sparing (K : Disk → Disk → Prop) (log : List Attempt) : Prop := ∀ a ∈ log, K a.before a.after

/-- What holds while a document is rendered: of the disk, of who is subscribed, of the outcomes kept
and of the failures collected since the beginning. -/
structure Underway (K : Disk → Disk → Prop) (I : Event Listener → Prop) (s₀ : Workshop τ Listener)
    (k : Dictionary Outcome) (s : Workshop τ Listener) (log : List Attempt) : Prop where
  disk : Sparing K log → K s₀.1.disk s.1.disk
  failed : I s.2.failed
  presenter : s.2.presenter = s₀.2.presenter
  kept : ∀ name o, k.get? name = some o → o = .empty ∨ ∃ a ∈ log, a.result = .ok o
  told : ∃ new, s.2.told = s₀.2.told ++ new ∧
    (new.filter fun t => t.1 = .collect).map Prod.snd = log.filterMap Attempt.failure?

/-- What holds when rendering stops before the end. -/
structure Stopped (K : Disk → Disk → Prop) (I : Event Listener → Prop)
    (listening : Listening Listener) (s₀ : Workshop τ Listener)
    (f : RenderingFault EvaluationFault) (s : Workshop τ Listener) (log : List Attempt) : Prop where
  disk : Sparing K log → K s₀.1.disk s.1.disk
  failed : I s.2.failed
  reason : ∀ e, f = .raised e → GivesUp listening s₀.2.presenter log e

variable {session : Session τ} {listening : Listening Listener} {j : Job} {K : Disk → Disk → Prop}
  {I : Event Listener → Prop} {s₀ s : Workshop τ Listener} {k : Dictionary Outcome}
  {log : List Attempt} {ss : List Section}

theorem Stopped.of_raised {e : EvaluationFault} (hdisk : Sparing K log → K s₀.1.disk s.1.disk)
    (hfailed : I s.2.failed) (he : GivesUp listening s₀.2.presenter log e) :
    Stopped K I listening s₀ (.raised e) s log := by
  refine ⟨hdisk, hfailed, ?_⟩
  intro e' he'
  obtain rfl := RenderingFault.raised.inj he'
  exact he

/-- Rendering has stopped for a flaw, or because the evaluator has raised. -/
theorem Stopped.stopsFor {f : RenderingFault EvaluationFault} (h : Stopped K I listening s₀ f s log)
    (hflaw : (∀ e, f ≠ .raised e) → ∃ pre x post, ss = pre ++ x :: post ∧ Renderer.Flaw pre x f) :
    StopsFor listening s₀.2.presenter log ss f := by
  by_cases hf : ∃ e, f = .raised e
  · obtain ⟨e, rfl⟩ := hf
    exact .raised (h.reason e rfl)
  · obtain ⟨pre, x, post, hss, hflaw⟩ := hflaw fun e he => hf ⟨e, he⟩
    exact .flaw hss hflaw

theorem Sparing.of_concat {a : Attempt} (h : Sparing K (log ++ [a])) :
    Sparing K log ∧ K a.before a.after :=
  ⟨fun b hb => h b (List.mem_append_left _ hb), h a (by simp)⟩

theorem failures_concat (log : List Attempt) (a : Attempt) :
    (log ++ [a]).filterMap Attempt.failure? = log.filterMap Attempt.failure? ++ a.failure?.toList := by
  rw [List.filterMap_append]
  cases h : a.failure? <;> simp [h]

theorem eq_of_evaluating {e : Evaluating (Workshop τ Listener) EvaluationFault}
    (h : (j.renderer session listening).evaluating = some e) :
    e = Evaluator.evaluating session listening := by
  unfold renderer at h
  split at h
  · exact (Option.some.inj h).symm
  · contradiction

theorem attempts_of_read {ss : List Section} {w : World} (h : j.read s.1 = (.ok ss, w)) :
    j.attempts session listening s = j.attemptsAt session listening ss (w, s.2) := by
  rw [attempts, h]

theorem present_empty (presenter : Presenter) (kind : EmbedKind) :
    ∃ bs, presenter.present .empty kind = .ok bs := by
  cases kind <;> exact ⟨_, rfl⟩

/-- A failure that has been announced to the collecting listener once is collected once. -/
theorem collected_announced {hs : List Listener} (h : hs.count .collect = 1) (f : Failure) :
    ((hs.map fun x => (x, f)).filter fun t => t.1 = .collect).map Prod.snd = [f] := by
  have hmap : ((hs.map fun x => (x, f)).filter fun t => t.1 = .collect).map Prod.snd =
      List.replicate (hs.count .collect) f := by
    rw [List.filter_map, List.map_map, List.count_eq_length_filter]
    apply List.eq_replicate_iff.mpr
    constructor
    · rw [List.length_map]
      congr 1
    · intro b hb
      obtain ⟨x, -, rfl⟩ := List.mem_map.mp hb
      rfl
  rw [hmap, h]
  rfl

theorem count_collect_subscribe {e : Event Listener} (h : .collect ∉ e.handlers) :
    (e.subscribe .collect).handlers.count .collect = 1 := by
  rw [Event.subscribe, List.count_append, List.count_eq_zero_of_not_mem h]
  rfl

/-! ### One request -/

section

variable (session : Session τ) (hK : Evaluator.Spares listening K)
  (hl : Evaluator.Leaves listening I) (hI : ∀ e, I e → e.handlers.count .collect = 1)

include hK in
/-- The disk behind an attempt. -/
theorem Underway.attempted (h : Underway K I s₀ k s log) (q : Request)
    (hlog : Sparing K (log ++ [Evaluator.attempt session q s])) :
    K s₀.1.disk (Evaluator.attempted session q s).1.disk := by
  obtain ⟨hbefore, hnow⟩ := hlog.of_concat
  exact hK.trans _ _ _ (h.disk hbefore) hnow

include hK hl in
/-- Whoever is told about a failed attempt, and however that ends. -/
theorem Underway.announced (h : Underway K I s₀ k s log) (q : Request) {f : Failure}
    {r : Except Exception Unit} {u : Workshop τ Listener}
    (hu : Evaluator.announce listening f (Evaluator.attempted session q s) = (r, u)) :
    (Sparing K (log ++ [Evaluator.attempt session q s]) → K s₀.1.disk u.1.disk) ∧ I u.2.failed ∧
      u.2.presenter = s₀.2.presenter := by
  have hdisk := Evaluator.announce_disk hK f (Evaluator.attempted session q s)
  have hleft := Evaluator.announce_leaves hl f (Evaluator.attempted session q s) h.failed
  have hpresenter := Evaluator.announce_presenter listening f (Evaluator.attempted session q s)
  rw [hu] at hdisk hleft hpresenter
  refine ⟨?_, hleft, hpresenter.trans h.presenter⟩
  intro hlog
  exact hK.trans _ _ _ (h.attempted session hK q hlog) hdisk

/-- The outcomes that are kept with that of one more attempt. -/
theorem Underway.kept_set (h : Underway K I s₀ k s log) {a : Attempt} {o : Outcome}
    (ho : o = .empty ∨ a.result = .ok o) (name name' : Text) (o' : Outcome)
    (hget : (k.set name o).get? name' = some o') :
    o' = .empty ∨ ∃ b ∈ log ++ [a], b.result = .ok o' := by
  rw [Dictionary.get?_set] at hget
  split at hget
  · obtain rfl := Option.some.inj hget
    exact ho.imp_right fun ho => ⟨a, by simp, ho⟩
  · obtain ho' | ⟨b, hb, ho'⟩ := h.kept name' o' hget
    · exact .inl ho'
    · exact .inr ⟨b, List.mem_append_left _ hb, ho'⟩

include hK hl hI in
/-- What an evaluator does when it is asked for a snippet. -/
theorem Underway.evaluate (h : Underway K I s₀ k s log) (q : Request) :
    match Evaluator.evaluate session listening q.text q.asExpression q.file s with
    | (.ok o, u) => ∀ name, Underway K I s₀ (k.set name o) u (log ++ [Evaluator.attempt session q s])
    | (.error e, u) => Stopped K I listening s₀ (.raised (.raised e)) u
        (log ++ [Evaluator.attempt session q s]) := by
  have hmem : Evaluator.attempt session q s ∈ log ++ [Evaluator.attempt session q s] := by simp
  have hattempted := h.attempted session hK q
  have hfailed : I (Evaluator.attempted session q s).2.failed := h.failed
  have hanswer := Evaluator.answers_evaluate session listening q s
  obtain ⟨new, htold, hnew⟩ := h.told
  generalize Evaluator.evaluate session listening q.text q.asExpression q.file s = x at hanswer ⊢
  cases hanswer with
  | passed ho =>
    intro name
    refine ⟨hattempted, hfailed, h.presenter, h.kept_set (.inr ho) name, new, htold, ?_⟩
    rw [hnew, failures_concat, Attempt.failure?_of_ok ho]
    exact (List.append_nil _).symm
  | raised he => exact .of_raised hattempted hfailed (.attempt hmem he)
  | told hf hv =>
    obtain ⟨hdisk, hleft, hpresenter⟩ := h.announced session hK hl q hv
    have htold' := Evaluator.announce_told hv
    rw [Evaluator.attempted_told, htold, List.append_assoc] at htold'
    intro name
    refine ⟨hdisk, hleft, hpresenter, h.kept_set (.inl rfl) name, _, htold', ?_⟩
    rw [List.filter_append, List.map_append, hnew, failures_concat, hf,
      collected_announced (hI _ hfailed)]
    rfl
  | untold hf hv =>
    obtain ⟨hdisk, hleft, -⟩ := h.announced session hK hl q hv
    obtain ⟨x, w, hraises⟩ := Evaluator.announce_raises hv
    exact .of_raised hdisk hleft (.listener hmem hf hraises)

theorem Underway.present (h : Underway K I s₀ k s log) {name : Text} {o : Outcome}
    (ho : k.get? name = some o) (kind : EmbedKind) {e : PresentationError}
    (he : s.2.presenter.present o kind = .error e) :
    Stopped K I listening s₀ (.raised (.unpresentable e)) s log := by
  refine .of_raised h.disk h.failed ?_
  rw [h.presenter] at he
  rcases h.kept name o ho with rfl | ⟨a, ha, hresult⟩
  · obtain ⟨bs, hbs⟩ := present_empty s₀.2.presenter kind
    rw [hbs] at he
    contradiction
  · exact .presenter ha hresult he

include hK hl hI in
theorem notes_underway (j : Job) (s₀ : Workshop τ Listener) :
    Renderer.Notes (Evaluator.attempt session) (Underway K I s₀) (Stopped K I listening s₀)
      (j.renderer session listening) where
  say _ h := ⟨h.disk, h.failed, h.presenter, h.kept, h.told⟩
  refuse h hf := ⟨h.disk, h.failed, fun e he => absurd he (hf e)⟩
  evaluate := by
    intro e k s log text asExpression he h
    obtain rfl := eq_of_evaluating he
    have hevaluate := h.evaluate session hK hl hI ⟨text, asExpression, some j.input⟩
    simp only [Evaluator.evaluating, Action.mapError, renderer]
    dsimp only at hevaluate
    generalize Evaluator.evaluate session listening text asExpression (some j.input) s = x
      at hevaluate ⊢
    obtain ⟨e | o, u⟩ := x <;> exact hevaluate
  present := by
    intro e k s log name o kind he h ho
    obtain rfl := eq_of_evaluating he
    simp only [Evaluator.evaluating, Action.mapError, Evaluator.present]
    cases hpresent : s.2.presenter.present o kind with
    | ok bs => exact h
    | error e => exact h.present ho kind hpresent

end

/-! ### Reading a document -/

/-- How reading a document ends. All that happens meanwhile is a line on the console. -/
inductive Reads (j : Job) (w : World) : Except BuildFault (List Section) × World → Prop
  | unreadable {e : Exception} (h : w.read j.input = .error e) :
      Reads j w (.error (.raised e), w.print ("Rendering ".toList ++ j.input.text))
  | refused {t : Text} {f : Document.Fault} (ht : w.read j.input = .ok t)
      (hf : j.form.sections t = .error f) :
      Reads j w (.error (.document f), w.print ("Rendering ".toList ++ j.input.text))
  | read {t : Text} {ss : List Section} (ht : w.read j.input = .ok t)
      (hss : j.form.sections t = .ok ss) :
      Reads j w (.ok ss, w.print ("Rendering ".toList ++ j.input.text))

theorem reads_read (j : Job) (w : World) : Reads j w (j.read w) := by
  have hsaid := World.read_of_said (World.said_print w ("Rendering ".toList ++ j.input.text)) j.input
  simp only [read, Action.bind_apply, Action.change, Action.state, Action.mapError, hsaid]
  cases ht : w.read j.input with
  | error e => exact .unreadable ht
  | ok t =>
    simp only [Action.ofExcept, Action.pure_apply]
    cases hss : j.form.sections t with
    | error f => exact .refused ht hss
    | ok ss => exact .read ht hss

/-! ### Rendering a document -/

theorem render_apply (session : Session τ) (listening : Listening Listener) (j : Job)
    (ss : List Section) (s : Workshop τ Listener) :
    render session listening j ss s =
      match (j.renderer session listening).sections ss ({}, collecting s) with
      | (r, _, u) =>
        match u.2.unsubscribe? .collect with
        | none => (.error (.raised (.ofMessage "ValueError" notSubscribed)), u)
        | some e => ((r.mapError .rendering).map fun bs => (bs, collected s.2.told.length e), u.1, e) := by
  simp only [render, Action.bind_apply, Action.state, Action.change, Action.andFinally, blocks,
    stopCollecting]
  have hrenderer : ({
      say := fun line s => (s.1.print line, s.2)
      evaluating := if j.config.evaluate then some (Evaluator.evaluating session listening) else none
      file := some j.input } : Renderer (Workshop τ Listener) EvaluationFault) =
    j.renderer session listening := rfl
  rw [hrenderer]
  have hcollecting : ((s.1, s.2.subscribe .collect) : Workshop τ Listener) = collecting s := rfl
  rw [hcollecting]
  rcases (j.renderer session listening).sections ss ({}, collecting s) with ⟨f | bs, m, u⟩ <;>
    dsimp only <;> cases u.2.unsubscribe? .collect <;> rfl

/-- What holds behind a rendering: the listener that collected is gone. -/
structure Departed (K : Disk → Disk → Prop) (I : Event Listener → Prop) (log : List Attempt)
    (s u : Workshop τ Listener) : Prop where
  disk : Sparing K log → K s.1.disk u.1.disk
  failed : ∃ e, I e ∧ e.unsubscribe? .collect = some u.2.failed

/-- How rendering a document ends, where these are its sections and the attempts made. -/
inductive Rendered (K : Disk → Disk → Prop) (I : Event Listener → Prop)
    (listening : Listening Listener) (ss : List Section) (log : List Attempt) (passes : Prop)
    (s : Workshop τ Listener) :
    Except BuildFault (List Block × List Failure) × Workshop τ Listener → Prop
  | passed {bs : List Block} {u : Workshop τ Listener} (h : passes) (hu : Departed K I log s u) :
      Rendered K I listening ss log passes s (.ok (bs, log.filterMap Attempt.failure?), u)
  | stopped {f : RenderingFault EvaluationFault} {u : Workshop τ Listener} (h : ¬ passes)
      (hf : StopsFor listening s.2.presenter log ss f) (hu : Departed K I log s u) :
      Rendered K I listening ss log passes s (.error (.rendering f), u)

theorem unsubscribe?_collect {e : Evaluator τ Listener} (h : e.failed.handlers.count .collect = 1) :
    ∃ e', e.unsubscribe? .collect = some e' ∧ e.failed.unsubscribe? .collect = some e'.failed ∧
      e'.told = e.told := by
  have hmem : Listener.collect ∈ e.failed.handlers := List.count_pos_iff.mp (by omega)
  have hfailed : e.failed.unsubscribe? .collect = some ⟨e.failed.handlers.erase .collect⟩ :=
    if_pos hmem
  exact ⟨_, congrArg (Option.map _) hfailed, hfailed, rfl⟩

section

variable (session : Session τ) (hK : Evaluator.Spares listening K)
  (hl : Evaluator.Leaves listening I) (hI : ∀ e, I e → e.handlers.count .collect = 1)
include hK hl hI

theorem rendered_render (j : Job) (ss : List Section) (s : Workshop τ Listener)
    (hs : I (s.2.failed.subscribe .collect)) :
    Rendered K I listening ss (j.attemptsAt session listening ss s)
      ((j.renderer session listening).Passes ss (collecting s)) s
      (render session listening j ss s) := by
  have hbegun : Underway K I (collecting s) {} (collecting s) [] :=
    ⟨fun _ => hK.refl _, hs, rfl, fun name o h => by simp at h, [], by simp, rfl⟩
  have hended := (notes_underway session hK hl hI j (collecting s)).sections hbegun ss
  rw [render_apply, attemptsAt, Renderer.Passes]
  rcases hx : (j.renderer session listening).sections ss ({}, collecting s) with ⟨f | bs, m, u⟩
  · rw [hx] at hended
    obtain ⟨e, he, hfailed, -⟩ := unsubscribe?_collect (hI _ hended.failed)
    have hstops := hended.stopsFor (Renderer.flaw_of_sections_error hx)
    dsimp only
    rw [he]
    exact .stopped (by simp) hstops ⟨hended.disk, _, hended.failed, hfailed⟩
  · rw [hx] at hended
    obtain ⟨e, he, hfailed, htold⟩ := unsubscribe?_collect (hI _ hended.failed)
    obtain ⟨new, hnew, hcollected⟩ := hended.told
    dsimp only
    rw [he]
    have hall : collected s.2.told.length e =
        ((j.renderer session listening).notes (Evaluator.attempt session) ss
          (collecting s)).filterMap Attempt.failure? := by
      have hs₀ : (collecting s).2.told = s.2.told := rfl
      rw [collected, htold, hnew, hs₀, List.drop_left]
      exact hcollected
    dsimp only [Except.map, Except.mapError]
    rw [hall]
    exact .passed ⟨bs, _, rfl⟩ ⟨hended.disk, _, hended.failed, hfailed⟩

end

/-! ### Writing a document -/

/-- How writing a text ends. -/
inductive Writes (j : Job) (t : Text) (w : World) : Except BuildFault Unit × World → Prop
  | unasked (h : j.output = none) : Writes j t w (.ok (), w)
  | written {p : Path} {v u : World} (h : j.output = some p)
      (hv : World.Made (w.print ("Writing ".toList ++ p.text)) v) (hu : v.write p t = .ok u) :
      Writes j t w (.ok (), u)
  | noDirectory {p : Path} {e : Exception} {u : World} (h : j.output = some p)
      (he : World.makeDirectories p.parent (w.print ("Writing ".toList ++ p.text)) = (.error e, u))
      (hu : World.Made (w.print ("Writing ".toList ++ p.text)) u)
      (hd : p.IsProper → ¬ World.HasDirectory (w.print ("Writing ".toList ++ p.text)) p.parent ∧
        ¬ World.HasDirectory u p.parent) : Writes j t w (.error (.raised e), u)
  | unwritten {p : Path} {e : Exception} {v : World} (h : j.output = some p)
      (hv : World.Made (w.print ("Writing ".toList ++ p.text)) v) (he : v.write p t = .error e) :
      Writes j t w (.error (.raised e), v)

theorem writes_write (j : Job) (t : Text) (w : World) : Writes j t w (j.write t w) := by
  unfold write
  cases hout : j.output with
  | none => exact .unasked hout
  | some p =>
    have hparent : p.IsProper → p.parent.IsProper := fun hp n hn => hp n (List.dropLast_subset _ hn)
    have hmakes := World.makesDirectory_makeDirectories p.parent
      (w.print ("Writing ".toList ++ p.text))
    simp only [Action.mapError, Action.bind_apply, Action.change]
    generalize hx : World.makeDirectories p.parent (w.print ("Writing ".toList ++ p.text)) = x at hmakes ⊢
    cases hmakes with
    | failed hu hd => exact .noDirectory hout hx hu fun hp => hd (hparent hp)
    | @made v hv _ =>
      simp only [Action.tryChange]
      cases hwrite : v.write p t with
      | error e => exact .unwritten hout hv hwrite
      | ok u => exact .written hout hv hwrite

/-! ### Building a document -/

def Passes (session : Session τ) (listening : Listening Listener) (j : Job)
    (s : Workshop τ Listener) : Prop :=
  ∃ ss w, j.read s.1 = (.ok ss, w) ∧
    (j.renderer session listening).Passes ss (collecting (w, s.2))

def failures (session : Session τ) (listening : Listening Listener) (j : Job)
    (s : Workshop τ Listener) : List Failure :=
  (j.attempts session listening s).filterMap Attempt.failure?

/-- Failures that the configuration does not tolerate. -/
def Fails (session : Session τ) (listening : Listening Listener) (j : Job)
    (s : Workshop τ Listener) : Prop :=
  j.config.failOnError = true ∧ j.failures session listening s ≠ []

def document (j : Job) (bs : List Block) (w : World) : Except OutputFault Text :=
  Output.document (fun p => (w.read p).toOption) j.config.outputKind j.config.template j.title bs

/-- How building a document with an evaluator ends. -/
inductive Builds (K : Disk → Disk → Prop) (I : Event Listener → Prop) (session : Session τ)
    (listening : Listening Listener) (j : Job) (s : Workshop τ Listener) :
    Except BuildFault Text × Workshop τ Listener → Prop
  | unreadable {e : Exception} (h : s.1.read j.input = .error e)
      (hpasses : ¬ j.Passes session listening s) : Builds K I session listening j s
        (.error (.raised e), s.1.print ("Rendering ".toList ++ j.input.text), s.2)
  | refused {t : Text} {f : Document.Fault} (ht : s.1.read j.input = .ok t)
      (hf : j.form.sections t = .error f) (hpasses : ¬ j.Passes session listening s) :
      Builds K I session listening j s
        (.error (.document f), s.1.print ("Rendering ".toList ++ j.input.text), s.2)
  | stopped {ss : List Section} {w : World} {f : RenderingFault EvaluationFault}
      {u : Workshop τ Listener} (hpasses : ¬ j.Passes session listening s)
      (hread : j.read s.1 = (.ok ss, w))
      (hf : StopsFor listening s.2.presenter (j.attempts session listening s) ss f)
      (hu : Departed K I (j.attempts session listening s) s u) :
      Builds K I session listening j s (.error (.rendering f), u)
  | failed {u : Workshop τ Listener} (hpasses : j.Passes session listening s)
      (h : j.Fails session listening s) (hu : Departed K I (j.attempts session listening s) s u) :
      Builds K I session listening j s
        (.error (.failedSnippets j.input (j.failures session listening s)), u)
  | unfit {bs : List Block} {f : OutputFault} {u : Workshop τ Listener}
      (hpasses : j.Passes session listening s) (h : ¬ j.Fails session listening s)
      (hf : j.document bs u.1 = .error f) (hu : Departed K I (j.attempts session listening s) s u) :
      Builds K I session listening j s (.error (.output f), u)
  | ended {t : Text} {r : Except BuildFault Unit} {u : Workshop τ Listener} {v : World}
      (hpasses : j.Passes session listening s) (h : ¬ j.Fails session listening s)
      (hu : Departed K I (j.attempts session listening s) s u) (hv : Writes j t u.1 (r, v)) :
      Builds K I session listening j s (r.map fun _ => t, v, u.2)

theorem buildWith_apply (session : Session τ) (listening : Listening Listener) (j : Job)
    (s : Workshop τ Listener) :
    j.buildWith session listening s =
      match j.read s.1 with
      | (.error f, w) => (.error f, w, s.2)
      | (.ok ss, w) =>
        match render session listening j ss (w, s.2) with
        | (.error f, u) => (.error f, u)
        | (.ok (bs, fs), u) =>
          match j.finish bs fs u.1 with
          | .error f => (.error f, u)
          | .ok t => ((j.write t u.1).1.map fun _ => t, (j.write t u.1).2, u.2) := by
  unfold buildWith
  rw [Action.bind_apply, Action.onFirst]
  rcases j.read s.1 with ⟨f | ss, w⟩
  · rfl
  · dsimp only
    rw [Action.bind_apply]
    rcases render session listening j ss (w, s.2) with ⟨f | ⟨bs, fs⟩, u⟩
    · rfl
    · simp only [Action.onFirst, complete, Action.bind_apply, Action.state]
      cases j.finish bs fs u.1 with
      | error f => rfl
      | ok t =>
        simp only [Action.ofExcept, Action.pure_apply]
        rcases j.write t u.1 with ⟨f | _, v⟩ <;> rfl

theorem finish_of_fails (bs : List Block) {fs : List Failure} (h : j.config.failOnError = true)
    (hfs : fs ≠ []) (w : World) : j.finish bs fs w = .error (.failedSnippets j.input fs) := by
  simp [finish, h, hfs]

/-- Tolerated failures do not stand in the way of a text. -/
theorem finish_of_tolerated (bs : List Block) {fs : List Failure}
    (h : ¬ (j.config.failOnError = true ∧ fs ≠ [])) (w : World) :
    j.finish bs fs w = (j.document bs w).mapError .output := by
  have htolerated : (!fs.isEmpty && j.config.failOnError) = false := by
    cases fs <;> simp_all
  unfold finish
  rw [htolerated, if_neg Bool.false_ne_true]
  -- The Markdown at hand raises nothing.
  exact Output.writer.document_map BuildFault.output ..

section

variable (session : Session τ) (hK : Evaluator.Spares listening K)
  (hl : Evaluator.Leaves listening I) (hI : ∀ e, I e → e.handlers.count .collect = 1)
include hK hl hI

theorem builds_buildWith (j : Job) (hs : I (s.2.failed.subscribe .collect)) :
    Builds K I session listening j s (j.buildWith session listening s) := by
  have hread := reads_read j s.1
  have hunread : ∀ {f w}, j.read s.1 = (.error f, w) → ¬ j.Passes session listening s := by
    rintro f w hfail ⟨ss, v, hok, -⟩
    simp [hfail] at hok
  rw [buildWith_apply]
  rcases hx : j.read s.1 with ⟨f | ss, w⟩
  · have hpasses := hunread hx
    rw [hx] at hread
    cases hread with
    | unreadable h => exact .unreadable h hpasses
    | refused ht hf => exact .refused ht hf hpasses
  · have hattempts : j.attempts session listening s = _ := attempts_of_read hx
    have hpasses : j.Passes session listening s ↔
        (j.renderer session listening).Passes ss (collecting (w, s.2)) := by
      unfold Passes
      simp [hx]
    have hdisk : w.disk = s.1.disk := by
      rw [hx] at hread
      cases hread
      rfl
    have hrendered := rendered_render session hK hl hI j ss (w, s.2) hs
    rw [← hattempts] at hrendered
    have hdeparted : ∀ {u}, Departed K I (j.attempts session listening s) (w, s.2) u →
        Departed K I (j.attempts session listening s) s u := fun hu => ⟨hdisk ▸ hu.disk, hu.failed⟩
    dsimp only
    generalize render session listening j ss (w, s.2) = x at hrendered ⊢
    cases hrendered with
    | stopped h hf hu => exact .stopped (mt hpasses.mp h) hx hf (hdeparted hu)
    | @passed bs u h hu =>
      have hfailures : (j.attempts session listening s).filterMap Attempt.failure? =
          j.failures session listening s := rfl
      dsimp only
      rw [hfailures]
      by_cases hfails : j.Fails session listening s
      · rw [finish_of_fails bs hfails.1 hfails.2]
        exact .failed (hpasses.mpr h) hfails (hdeparted hu)
      · rw [finish_of_tolerated bs hfails]
        cases hdocument : j.document bs u.1 with
        | error f => exact .unfit (hpasses.mpr h) hfails hdocument (hdeparted hu)
        | ok t =>
          have hwrites := j.writes_write t u.1
          exact .ended (hpasses.mpr h) hfails (hdeparted hu) hwrites

end

end Job

end Weave
