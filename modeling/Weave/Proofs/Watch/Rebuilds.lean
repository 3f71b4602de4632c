import Mathlib.Data.List.Permutation
import Weave.Program.Session
import Weave.Proofs.Document.Printing
import Weave.Proofs.Output.Documents
import Weave.Proofs.Rendering.InStep
import Weave.Proofs.Rendering.Unevaluated
import Weave.Watch

/-!
# Rebuilding a watched document

A document that is modified while it is watched is rebuilt once for each modification that concerns
it. Without evaluation and in the template at hand a rebuild fails for faults of the document only,
and all of these let the watch go on but two kinds: a header that is no header for a reason other than
the values in it, and Markdown over which the library that turns it into HTML fails in a way of its
own.
-/

set_option autoImplicit false

namespace Weave

open World (Said SameTree)

/-! ### Building without evaluation -/

/-- A header that cannot be taken for data, or whose data cannot be made for a reason that is no wrong
value, ends the watch. -/
def Document.Fault.endsWatch : Document.Fault → Bool
  | .header .yaml => true
  | .header (.raised e) => !e.isPassing
  | _ => false

theorem BuildFault.isPassing_document (f : Document.Fault) :
    (BuildFault.document f).isPassing = !f.endsWatch := by
  cases f with
  | header h => cases h <;> simp [isPassing, Document.Fault.endsWatch]
  | _ => rfl

theorem BuildFault.isPassing_rendering {f : RenderingFault EvaluationFault}
    (hf : ∀ e, f ≠ .raised e) : (BuildFault.rendering f).isPassing = true := by
  cases f with
  | raised e => exact absurd rfl (hf e)
  | _ => rfl

/-- The fault that building comes to, if it ends the watch. -/
def BuildFault.ending? {α : Type} : Except BuildFault α → Option BuildFault
  | .error f => if f.isPassing then none else some f
  | .ok _ => none

namespace Job

variable {τ : Type} {j : Job} {w : World} {t : Text} {ss : List Section}

theorem read_apply [Libraries] (hread : w.read j.input = .ok t) :
    j.read w = ((j.form.sections t).mapError .document,
      w.print ("Rendering ".toList ++ j.input.text)) := by
  have hsaid := World.read_of_said
    (World.said_print w ("Rendering ".toList ++ j.input.text)) j.input
  simp only [read, Action.bind_apply, Action.change, Action.state, Action.mapError]
  rw [hsaid, hread]
  simp only [Action.ofExcept, Action.pure_apply]
  cases j.form.sections t <;> rfl

/-- What a job asks for that only turns a document into a text. -/
structure IsPlain (j : Job) : Prop where
  evaluate : j.config.evaluate = false
  template : j.config.template = none
  output : j.output = none

theorem complete_apply [Libraries] (hj : j.IsPlain) (hfills : writer.Fills) {bs : List Block}
    (hbs : ∀ b ∈ bs, ∀ t, b ≠ .foreign t) (w : World) :
    match writer.fault? j.config.outputKind bs with
    | some f => j.complete bs [] w = (.error f, w)
    | none => ∃ t, j.complete bs [] w = (.ok t, w) := by
  have hdocument := Writer.document_outcome hfills (fun p => (w.read p).toOption)
    j.config.outputKind j.title hbs
  simp only [complete, Action.bind_apply, Action.state, finish, hj.template, write, hj.output]
  cases hfault : writer.fault? j.config.outputKind bs with
  | some f =>
    rw [hfault] at hdocument
    dsimp only at hdocument ⊢
    rw [List.isEmpty_nil, Bool.not_true, Bool.false_and, if_neg Bool.false_ne_true, hdocument]
    rfl
  | none =>
    rw [hfault] at hdocument
    obtain ⟨t, ht⟩ := hdocument
    refine ⟨t, ?_⟩
    rw [List.isEmpty_nil, Bool.not_true, Bool.false_and, if_neg Bool.false_ne_true, ht]
    rfl

def plainBlocks (j : Job) (ss : List Section) : Except BuildFault (List Block) := (j.renderWithout ss {}).1

/-- They do not depend on the world. -/
theorem renderWithout_fst (j : Job) (ss : List Section) (w : World) :
    (j.renderWithout ss w).1 = j.plainBlocks ss := by
  have hstep : Renderer.InStep (ε := EvaluationFault) (fun _ (_ _ : World) => True) (fun _ _ _ => True)
      { say := fun line w => w.print line, evaluating := none, file := some j.input }
      { say := fun line w => w.print line, evaluating := none, file := some j.input } :=
    ⟨rfl, fun _ _ => trivial, fun _ _ => trivial, .none⟩
  have hended := hstep.sections (m := {}) (s := w) (t := {}) trivial ss
  unfold plainBlocks renderWithout blocks
  generalize Renderer.sections _ ss ({}, w) = p at hended ⊢
  generalize Renderer.sections _ ss ({}, ({} : World)) = q at hended ⊢
  cases hended <;> rfl

theorem renderWithout_apply (j : Job) (ss : List Section) (w : World) :
    ∃ u, Said w u ∧ j.renderWithout ss w = (j.plainBlocks ss, u) ∧ match j.plainBlocks ss with
      | .ok bs => ∀ b ∈ bs, ∀ t, b ≠ .foreign t
      | .error f => f.isPassing = true := by
  have hplain := Renderer.plain_sections (ε := EvaluationFault)
    (r := { say := fun line w => w.print line, evaluating := none, file := some j.input })
    ⟨fun line w => World.said_print w line, rfl⟩ ss {} w
  have hblocks := j.renderWithout_fst ss w
  rw [← hblocks]
  unfold renderWithout blocks
  generalize Renderer.sections _ ss ({}, w) = q at hplain ⊢
  cases hplain with
  | ok hb hu => exact ⟨_, hu, rfl, hb⟩
  | error hf hu => exact ⟨_, hu, rfl, BuildFault.isPassing_rendering hf⟩

def fatal? [Libraries] (j : Job) (t : Text) : Option BuildFault :=
  match j.form.sections (Text.unifyNewlines t) with
  | .error f => if f.endsWatch then some (.document f) else none
  | .ok ss => match j.plainBlocks ss with
    | .error _ => none
    | .ok bs => (writer.fault? j.config.outputKind bs).filter fun f => !f.isPassing

/-- The faults of a writer are those of Markdown that is turned into HTML. -/
theorem writer_fault [Libraries] {kind : OutputKind} {bs : List Block} {f : BuildFault}
    (h : writer.fault? kind bs = some f) :
    kind = .html ∧ ∃ t e, Libraries.toHtml t = .error e ∧ f = .raised e := by
  obtain ⟨b, -, hb⟩ := List.exists_of_findSome?_eq_some h
  unfold Writer.blockFault? at hb
  split at hb
  next t =>
    refine ⟨rfl, t, ?_⟩
    cases hhtml : Libraries.toHtml t with
    | error e =>
      simp only [writer, hhtml, Except.mapError, Option.some.injEq] at hb
      exact ⟨e, rfl, hb.symm⟩
    | ok html => simp [writer, hhtml, Except.mapError] at hb
  next => cases hb

/-- Where nothing is evaluated, a document is built to a text or to a fault. -/
theorem build_apply [Libraries] (hj : j.IsPlain) (hfills : writer.Fills) (session : Session τ)
    (start : List Text → Action World SessionFault τ)
    (hread : w.read j.input = .ok (Text.unifyNewlines t)) :
    ∃ r u, Said w u ∧ j.build session start w = (r, u) ∧ BuildFault.ending? r = j.fatal? t := by
  have hsaid := World.said_print w ("Rendering ".toList ++ j.input.text)
  have hread' := read_apply hread
  unfold build fatal?
  cases hsections : j.form.sections (Text.unifyNewlines t) with
  | error f =>
    rw [hsections] at hread'
    refine ⟨_, _, hsaid, Action.bind_error hread' _, ?_⟩
    simp only [BuildFault.ending?, BuildFault.isPassing_document]
    cases f.endsWatch <;> rfl
  | ok ss =>
    rw [hsections] at hread'
    rw [Action.bind_ok hread', hj.evaluate, if_neg Bool.false_ne_true]
    obtain ⟨u, hu, hrender, hplain⟩ := j.renderWithout_apply ss
      (w.print ("Rendering ".toList ++ j.input.text))
    cases hblocks : j.plainBlocks ss with
    | error f =>
      rw [hblocks] at hrender hplain
      refine ⟨_, u, hsaid.trans hu, Action.bind_error hrender _, ?_⟩
      simp only [BuildFault.ending?, hblocks, if_pos hplain]
    | ok bs =>
      rw [hblocks] at hrender hplain
      have hcomplete := complete_apply hj hfills hplain u
      rw [Action.bind_ok hrender]
      simp only [hblocks]
      cases hfault : writer.fault? j.config.outputKind bs with
      | none =>
        rw [hfault] at hcomplete
        obtain ⟨s, hs⟩ := hcomplete
        exact ⟨_, _, hsaid.trans hu, hs, rfl⟩
      | some f =>
        rw [hfault] at hcomplete
        refine ⟨_, _, hsaid.trans hu, hcomplete, ?_⟩
        simp only [BuildFault.ending?, Option.filter_some]
        cases f.isPassing <;> rfl

/-- What ends the watch of a text is a header of its that is no data, or Markdown that is not turned into
HTML, and in the latter two cases an exception of a class that is not expected. -/
theorem fatal?_cases [Libraries] {f : BuildFault} (h : j.fatal? t = some f) :
    f = .document (.header .yaml) ∨ ∃ e, e.isPassing = false ∧
      (f = .document (.header (.raised e)) ∨
        j.config.outputKind = .html ∧ f = .raised e ∧ ∃ t, Libraries.toHtml t = .error e) := by
  unfold fatal? at h
  split at h
  next f' hsections =>
    split at h
    next hends =>
      obtain rfl := Option.some.inj h
      cases f' with
      | header fault =>
        cases fault with
        | yaml => exact .inl rfl
        | issues is => cases hends
        | raised e => exact .inr ⟨e, by simpa [Document.Fault.endsWatch] using hends, .inl rfl⟩
      | _ => cases hends
    next => cases h
  next ss hsections =>
    split at h
    next => cases h
    next bs hblocks =>
      obtain ⟨hfault, hpassing⟩ := Option.filter_eq_some_iff.mp h
      obtain ⟨hkind, t, e, hhtml, rfl⟩ := writer_fault hfault
      exact .inr ⟨e, by simpa [BuildFault.isPassing] using hpassing, .inr ⟨hkind, rfl, t, hhtml⟩⟩

end Job

/-! ### One modification after the other -/

namespace Watch

variable {σ ε τ : Type}

/-- Each modification is heard of when others have done something to the world. -/
def onModifiedAll (watch : Watch) (passing? : ε → Option Text) (rebuild : Action (World × σ) ε Unit) :
    List (Modification × (World → World)) → World × σ → List (Except ε Unit) × World × σ
  | [], s => ([], s)
  | (m, others) :: ms, s =>
    let (r, t) := watch.onModified passing? rebuild m (others s.1, s.2)
    let (rs, u) := watch.onModifiedAll passing? rebuild ms t
    (r :: rs, u)

def concernsAll (watch : Watch) (passing? : ε → Option Text) (rebuild : Action (World × σ) ε Unit) :
    List (Modification × (World → World)) → World × σ → List Bool
  | [], _ => []
  | (m, others) :: ms, s =>
    watch.concerns (others s.1) m :: watch.concernsAll passing? rebuild ms
      (watch.onModified passing? rebuild m (others s.1, s.2)).2

def counting (rebuild : Action (World × σ) ε Unit) : Action (World × Nat × σ) ε Unit := fun s =>
  let (r, t) := rebuild (s.1, s.2.2)
  (r, t.1, s.2.1 + 1, t.2)

theorem onModified_counting (watch : Watch) (passing? : ε → Option Text)
    (rebuild : Action (World × σ) ε Unit) (m : Modification) (w : World) (n : Nat) (s : σ) :
    watch.onModified passing? (counting rebuild) m (w, n, s) =
      ((watch.onModified passing? rebuild m (w, s)).1,
        (watch.onModified passing? rebuild m (w, s)).2.1,
        n + (if watch.concerns w m then 1 else 0),
        (watch.onModified passing? rebuild m (w, s)).2.2) := by
  unfold onModified
  by_cases h : watch.concerns w m
  · simp only [h, if_true, counting]
    generalize rebuild _ = q
    rcases q with ⟨f | u, t⟩
    · dsimp only
      cases passing? f <;> rfl
    · rfl
  · simp [h]

/-- There is one rebuild for each modification that concerns the watch. -/
theorem onModifiedAll_counting (watch : Watch) (passing? : ε → Option Text)
    (rebuild : Action (World × σ) ε Unit) (ms : List (Modification × (World → World))) (w : World)
    (n : Nat) (s : σ) :
    watch.onModifiedAll passing? (counting rebuild) ms (w, n, s) =
      ((watch.onModifiedAll passing? rebuild ms (w, s)).1,
        (watch.onModifiedAll passing? rebuild ms (w, s)).2.1,
        n + (watch.concernsAll passing? rebuild ms (w, s)).count true,
        (watch.onModifiedAll passing? rebuild ms (w, s)).2.2) := by
  induction ms generalizing w n s with
  | nil => rfl
  | cons m ms ih =>
    simp only [onModifiedAll, onModified_counting, ih, concernsAll, List.count_cons, beq_true]
    rw [Nat.add_assoc, Nat.add_comm (ite ..)]

/-! ### Saving a watched document -/

theorem concerns_congr (watch : Watch) {v w : World} (h : SameTree v w) (m : Modification) :
    watch.concerns w m = watch.concerns v m := by
  rw [concerns, concerns, h.absolute]

def rebuilding [Libraries] (session : Session τ) (start : List Text → Action World SessionFault τ) (j : Job) :
    Action (World × σ) BuildFault Unit :=
  Action.onFirst ((fun _ => ()) <$> j.build session start)

/-- What comes of a modification when the document holds a text. -/
def answer [Libraries] (watch : Watch) (j : Job) (w : World) (save : Modification × Text) :
    Except BuildFault Unit :=
  if watch.concerns w save.1 then
    match j.fatal? save.2 with
    | some f => .error f
    | none => .ok ()
  else .ok ()

section

variable [Libraries] (watch : Watch) {j : Job} {w : World} (session : Session τ)
  (start : List Text → Action World SessionFault τ)

theorem rebuilding_apply (j : Job) (w : World) (s : σ) :
    rebuilding session start j (w, s) = ((j.build session start w).1.map fun _ => (),
      (j.build session start w).2, s) := by
  simp only [rebuilding, Action.onFirst, Action.map_apply]
  rcases j.build session start w with ⟨f | t, u⟩ <;> rfl

omit [Libraries] in
/-- A rebuild that fails ends the watch unless its fault passes. -/
theorem onModified_of_concerns {passing? : ε → Option Text} {rebuild : Action (World × σ) ε Unit}
    {m : Modification} {s : World × σ} (h : watch.concerns s.1 m) :
    watch.onModified passing? rebuild m s =
      match rebuild (s.1.print ("Rendering in response to ".toList ++ m.written ++ "...".toList),
        s.2) with
      | (.ok _, t) => (.ok (), t)
      | (.error f, t) =>
        match passing? f with
        | some reason => (.ok (), t.1.print ("Failed to render: ".toList ++ reason), t.2)
        | none => (.error f, t) := if_pos h

theorem onModified_rebuilding (hj : j.IsPlain) (hfills : Job.writer.Fills) (save : Modification × Text)
    (hread : w.read j.input = .ok (Text.unifyNewlines save.2)) (s : σ) :
    ∃ u, Said w u ∧ watch.onModified BuildFault.passing? (rebuilding session start j) save.1 (w, s) =
      (watch.answer j w save, u, s) := by
  obtain ⟨m, t⟩ := save
  unfold answer
  by_cases h : watch.concerns w m
  · have hsaid := World.said_print w
      ("Rendering in response to ".toList ++ m.written ++ "...".toList)
    obtain ⟨r, u, hu, hbuild, hending⟩ := Job.build_apply hj hfills session start
      ((World.read_of_said hsaid j.input).trans hread)
    have hwu := hsaid.trans hu
    rw [if_pos h, ← hending, onModified_of_concerns watch h, rebuilding_apply]
    dsimp only
    rw [hbuild]
    cases r with
    | ok out => exact ⟨u, hwu, rfl⟩
    | error f =>
      simp only [Except.map, BuildFault.passing?, BuildFault.ending?]
      cases f.isPassing with
      | false => exact ⟨u, hwu, rfl⟩
      | true => exact ⟨_, hwu.trans (World.said_print u _), rfl⟩
  · rw [if_neg h]
    exact ⟨w, .refl w, if_neg h⟩

/-- What the document holds when it is saved decides what comes of it, whatever it held before. -/
theorem onModifiedAll_rebuilding (hj : j.IsPlain) (hfills : Job.writer.Fills)
    (saves : List (Modification × Text)) {w : World} (hread : ∃ t, w.read j.input = .ok t) (s : σ) :
    (watch.onModifiedAll BuildFault.passing? (rebuilding session start j)
        (saves.map fun e => (e.1, World.saving j.input e.2)) (w, s)).1 =
        saves.map (watch.answer j w) ∧
      watch.concernsAll BuildFault.passing? (rebuilding session start j)
        (saves.map fun e => (e.1, World.saving j.input e.2)) (w, s) =
        saves.map fun e => watch.concerns w e.1 := by
  induction saves generalizing w s with
  | nil => exact ⟨rfl, rfl⟩
  | cons save saves ih =>
    have htree := World.sameTree_saving hread save.2
    have hsaved := World.read_saving hread save.2
    obtain ⟨u, hu, hnow⟩ := onModified_rebuilding watch session start hj hfills save hsaved s
    have hlater := htree.trans (.of_said hu)
    obtain ⟨hresults, hconcerns⟩ := ih ⟨_, (World.read_of_said hu j.input).trans hsaved⟩ s
    have hhere : watch.concerns (w.saving j.input save.2) = watch.concerns w :=
      funext fun m => watch.concerns_congr htree m
    have hthere : watch.concerns u = watch.concerns w :=
      funext fun m => watch.concerns_congr hlater m
    have hanswer : watch.answer j u = watch.answer j w := by
      funext e
      rw [answer, answer, hthere]
    simp only [List.map_cons, onModifiedAll, concernsAll, hnow, hresults, hconcerns]
    rw [hanswer, hthere, hhere, answer, answer, hhere]
    exact ⟨rfl, rfl⟩

end

/-- A rebuild is made exactly once for each modification that concerns the watch when it is heard of,
and never otherwise, whatever a rebuild does. Where it builds a document without evaluation and in the
template at hand, each save of the document has what it holds decide: a modification that concerns the
watch is survived unless the text has a fault that ends the watch, and then this fault is what comes
out. Whatever the libraries are, there are two kinds of such faults: a header that is no data, and an
exception of a class that is not expected, which the libraries have raised over a header or over
Markdown. -/
theorem onModifiedAll_saves [Libraries] (watch : Watch) (session : Session τ)
    (start : List Text → Action World SessionFault τ) {j : Job} (hj : j.IsPlain) (hfills : Job.writer.Fills)
    {w : World} (hread : ∃ t, w.read j.input = .ok t) (saves : List (Modification × Text)) (s : σ) :
    (∀ {σ ε : Type} (passing? : ε → Option Text) (rebuild : Action (World × σ) ε Unit)
        (ms : List (Modification × (World → World))) (w : World) (n : Nat) (s : σ),
      (watch.onModifiedAll passing? (counting rebuild) ms (w, n, s)).2.2.1 =
        n + (watch.concernsAll passing? rebuild ms (w, s)).count true) ∧
      (watch.onModifiedAll BuildFault.passing? (counting (rebuilding session start j))
          (saves.map fun e => (e.1, World.saving j.input e.2)) (w, 0, s)).2.2.1 =
        (saves.map fun e => watch.concerns w e.1).count true ∧
      (watch.onModifiedAll BuildFault.passing? (rebuilding session start j)
          (saves.map fun e => (e.1, World.saving j.input e.2)) (w, s)).1 =
        saves.map (watch.answer j w) ∧
      ((∀ r ∈ saves.map (watch.answer j w), ∃ u, r = .ok u) ↔
        ∀ e ∈ saves, watch.concerns w e.1 → j.fatal? e.2 = none) ∧
      ∀ t f, j.fatal? t = some f → f = .document (.header .yaml) ∨ ∃ e, e.isPassing = false ∧
        (f = .document (.header (.raised e)) ∨
          j.config.outputKind = .html ∧ f = .raised e ∧ ∃ t, Libraries.toHtml t = .error e) := by
  obtain ⟨hresults, hconcerns⟩ :=
    onModifiedAll_rebuilding watch session start hj hfills saves hread s
  refine ⟨?_, ?_, hresults, ?_, fun t f => Job.fatal?_cases⟩
  · intro σ ε passing? rebuild ms w n s
    rw [onModifiedAll_counting]
  · rw [onModifiedAll_counting, hconcerns, Nat.zero_add]
  · rw [List.forall_mem_map]
    refine forall₂_congr fun e _ => ?_
    unfold answer
    split
    · next h => cases j.fatal? e.2 <;> simp [h]
    · next h => simp [h]

def openList : Text := "\x7b\x7bdefine a [\n\x7d\x7d".toList

def strangeWord : Text := "\x7b\x7bx".toList

def notes : Job := { input := Path.ofText "doc.md".toList, config := { evaluate := false } }

def notesAlone : World := { files := [(["doc.md".toList], [])] }

theorem fatal?_openList : notes.fatal? openList = some (.document (.header .yaml)) := by
  have hpass : ∃ d, Document.sectionsPass (Cursor.start openList) = (.error (.header .yaml), d) := by
    refine ⟨?_, ?_⟩
    rotate_left
    · cbv
      rfl
  obtain ⟨d, hd⟩ := hpass
  have hsections : notes.form.sections (Text.unifyNewlines openList) = .error (.header .yaml) :=
    Document.sectionsFrom_error hd
  rw [Job.fatal?, hsections]
  rfl

theorem fatal?_strangeWord : notes.fatal? strangeWord = none := by
  have hpass : ∃ d, Document.sectionsPass (Cursor.start strangeWord) =
      (.error (.unknownCommand ['x']), d) := by
    refine ⟨?_, ?_⟩
    rotate_left
    · cbv
      rfl
  obtain ⟨d, hd⟩ := hpass
  have hsections : notes.form.sections (Text.unifyNewlines strangeWord) =
      .error (.unknownCommand ['x']) := Document.sectionsFrom_error hd
  rw [Job.fatal?, hsections]
  rfl

def strangeDeclaration : Text := "<![foo bar]>".toList

def unknownKeyword : Exception := .ofMessage "AssertionError" "unknown status keyword 'foo' in marked section"

/-- The libraries at hand, but for one that does not turn such a declaration into HTML. -/
@[reducible] def strictLibraries : Libraries :=
  { Libraries.atHand with
    toHtml := fun t => if t = strangeDeclaration then .error unknownKeyword else .ok (Markdown.toHtml t) }

theorem fatal?_strangeDeclaration :
    @Job.fatal? strictLibraries notes strangeDeclaration = some (.raised unknownKeyword) := by
  have hpass : ∃ d, @Document.sectionsPass strictLibraries (Cursor.start strangeDeclaration) =
      (.ok ([.text strangeDeclaration], false), d) := by
    refine ⟨?_, ?_⟩
    rotate_left
    · cbv
      rfl
  obtain ⟨d, hd⟩ := hpass
  have hsections : @SourceForm.sections strictLibraries notes.form (Text.unifyNewlines strangeDeclaration) =
      .ok [.text strangeDeclaration] := @Document.sectionsFrom_end _ strictLibraries _ _ hd
  unfold Job.fatal?
  rw [hsections]
  rfl

/-- Of two saves of a watched document that cannot be built, the watch survives one, and a save of
another document does not matter. Whether a save with a strange declaration matters is for the
libraries to say. -/
theorem onModifiedAll_saves_notes :
    notes.IsPlain ∧ Job.writer.Fills ∧ @Writer.Fills _ (@Job.writer strictLibraries) ∧
      notesAlone.read notes.input = .ok [] ∧
      (onModifiedAll (ofPaths notesAlone [notes.input]) BuildFault.passing?
        (rebuilding Program.session Program.start notes)
        ([(⟨"doc.md".toList, false⟩, strangeWord), (⟨"doc.md".toList, false⟩, openList),
          (⟨"other.md".toList, false⟩, openList)].map fun e => (e.1, World.saving notes.input e.2))
        (notesAlone, ())).1 = [.ok (), .error (.document (.header .yaml)), .ok ()] ∧
      (onModifiedAll (ofPaths notesAlone [notes.input]) BuildFault.passing?
        (@rebuilding _ _ strictLibraries Program.session Program.start notes)
        ([(⟨"doc.md".toList, false⟩, strangeDeclaration)].map fun e => (e.1, World.saving notes.input e.2))
        (notesAlone, ())).1 = [.error (.raised unknownKeyword)] := by
  have hplain : notes.IsPlain := ⟨rfl, rfl, rfl⟩
  have hfills : Job.writer.Fills := Output.isSome_render_defaultTemplate
  have hstrict : @Writer.Fills _ (@Job.writer strictLibraries) := Output.isSome_render_defaultTemplate
  have hread : notesAlone.read notes.input = .ok [] := rfl
  have hconcerns : (ofPaths notesAlone [notes.input]).concerns notesAlone ⟨"doc.md".toList, false⟩ =
      true := by decide
  have hother : (ofPaths notesAlone [notes.input]).concerns notesAlone ⟨"other.md".toList, false⟩ =
      false := by decide
  obtain ⟨-, -, hresults, -⟩ := onModifiedAll_saves (ofPaths notesAlone [notes.input])
    Program.session Program.start hplain hfills ⟨_, hread⟩ [(⟨"doc.md".toList, false⟩, strangeWord),
      (⟨"doc.md".toList, false⟩, openList), (⟨"other.md".toList, false⟩, openList)] ()
  obtain ⟨-, -, hresults', -⟩ := @onModifiedAll_saves _ _ strictLibraries
    (ofPaths notesAlone [notes.input]) Program.session Program.start _ hplain hstrict _ ⟨_, hread⟩
    [(⟨"doc.md".toList, false⟩, strangeDeclaration)] ()
  refine ⟨hplain, hfills, hstrict, hread, hresults.trans ?_, hresults'.trans ?_⟩
  · simp only [List.map_cons, List.map_nil, answer, hconcerns, hother, fatal?_openList,
      fatal?_strangeWord]
    rfl
  · simp only [List.map_cons, List.map_nil, answer, hconcerns, fatal?_strangeDeclaration]
    rfl

end Watch

end Weave
