import Weave.Rendering

/-!
# Steps of rendering

What a definition does to a rendering and to the evaluator beside it, as one equation, and how the
steps of a document follow one another. A definition is composed among the definitions so far, of
which it is one, before anything is evaluated.
-/

set_option autoImplicit false

namespace Weave

/-- The text of a snippet among these definitions, or the path that leads from it to itself. -/
def Snippet.composed (defs : Definitions) (d : Snippet) : Except (List Text) Text :=
  (expand defs d).outcome.map Text.trimNewlines

namespace Rendering

def take (m : Rendering) (d : Snippet) : Rendering :=
  { m with definitions := m.definitions.set d.name d }

def settle (m : Rendering) (d : Snippet) (t : Text) : Rendering :=
  { m.take d with texts := m.texts.set d.name t }

def keep (m : Rendering) (name : Text) (o : Outcome) : Rendering :=
  { m with results := m.results.set name o }

variable (m : Rendering) (d : Snippet) (t name : Text) (o : Outcome)

@[simp] theorem take_definitions : (m.take d).definitions = m.definitions.set d.name d := rfl
@[simp] theorem take_texts : (m.take d).texts = m.texts := rfl
@[simp] theorem take_results : (m.take d).results = m.results := rfl
@[simp] theorem settle_definitions :
    (m.settle d t).definitions = m.definitions.set d.name d := rfl
@[simp] theorem settle_texts : (m.settle d t).texts = m.texts.set d.name t := rfl
@[simp] theorem settle_results : (m.settle d t).results = m.results := rfl
@[simp] theorem keep_definitions : (m.keep name o).definitions = m.definitions := rfl
@[simp] theorem keep_texts : (m.keep name o).texts = m.texts := rfl
@[simp] theorem keep_results : (m.keep name o).results = m.results.set name o := rfl

end Rendering

namespace Renderer

variable {σ ε : Type}

/-- The evaluator, where there is one and the header asks for it. -/
def asked (r : Renderer σ ε) (d : Snippet) : Option (Evaluating σ ε) :=
  if d.header.shouldEvaluate then r.evaluating else none

def sayAll (r : Renderer σ ε) (lines : List Text) (s : σ) : σ :=
  lines.foldl (fun s line => r.say line s) s

def notices (defs : Definitions) (d : Snippet) : List Text :=
  (Snippet.expand defs d).missing.map Snippet.missingNotice

/-- The evaluator's state once a definition has been taken up and composed. -/
def tracked (r : Renderer σ ε) (m : Rendering) (d : Snippet) (s : σ) : σ :=
  r.say ("Defined and tracked snippet ".toList ++ d.name)
    (r.sayAll (notices (m.take d).definitions d) s)

def ready (r : Renderer σ ε) (m : Rendering) (d : Snippet) (s : σ) : σ :=
  r.say ("Evaluating snippet ".toList ++ d.name) (r.tracked m d s)

theorem outside_apply {α : Type} (p : Action σ ε α) (m : Rendering) (s : σ) :
    outside p (m, s) =
      match p s with
      | (.ok a, u) => (.ok a, m, u)
      | (.error x, u) => (.error (.raised x), m, u) := by
  simp only [outside, Action.mapError, Action.onSecond]
  rcases p s with ⟨x | a, u⟩ <;> rfl

theorem each_print (r : Renderer σ ε) (f : Text → Text) (names : List Text) (m : Rendering)
    (s : σ) : ∃ us, Action.each (fun name => r.print (f name)) names (m, s)
      = (.ok us, m, r.sayAll (names.map f) s) := by
  induction names generalizing s with
  | nil => exact ⟨[], rfl⟩
  | cons name names ih =>
    obtain ⟨us, h⟩ := ih (r.say (f name) s)
    refine ⟨() :: us, ?_⟩
    have hp : r.print (f name) (m, s) = (.ok (), m, r.say (f name) s) := rfl
    rw [Action.each, Action.bind_ok hp, Action.bind_ok h]
    rfl

theorem compose_apply (r : Renderer σ ε) (d : Snippet) (m : Rendering) (s : σ) :
    r.compose d (m, s) =
      ((Snippet.composed m.definitions d).mapError .selfEmbedding, m,
        r.sayAll (notices m.definitions d) s) := by
  obtain ⟨us, h⟩ := r.each_print Snippet.missingNotice (Snippet.expand m.definitions d).missing m s
  have hs : (Action.state : RenderingAction σ ε _) (m, s) = (.ok (m, s), m, s) := rfl
  rw [compose, Action.bind_ok hs, Action.bind_ok h, Snippet.composed]
  cases (Snippet.expand m.definitions d).outcome <;> rfl

theorem evaluate_apply (r : Renderer σ ε) (d : Snippet) (t : Text) (m : Rendering) (s : σ) :
    r.evaluate d t (m, s) =
      match r.asked d with
      | none => (.ok (), m, s)
      | some e =>
        match e.evaluate t d.header.expression r.file
            (r.say ("Evaluating snippet ".toList ++ d.name) s) with
        | (.ok o, u) => (.ok (), m.keep d.name o, u)
        | (.error x, u) => (.error (.raised x), m, u) := by
  unfold evaluate asked
  cases he : r.evaluating with
  | none => simp [Action.pure_apply]
  | some e =>
    cases ha : d.header.shouldEvaluate with
    | false => simp [Action.pure_apply]
    | true =>
      have hp : r.print ("Evaluating snippet ".toList ++ d.name) (m, s)
        = (.ok (), m, r.say ("Evaluating snippet ".toList ++ d.name) s) := rfl
      simp only [if_true]
      rw [Action.bind_ok hp, Action.bind_apply, outside_apply]
      rcases e.evaluate t d.header.expression r.file
        (r.say ("Evaluating snippet ".toList ++ d.name) s) with ⟨x | o, u⟩ <;> rfl

/-- All that a definition does. -/
theorem define_apply (r : Renderer σ ε) (d : Snippet) (m : Rendering) (s : σ) :
    r.define d (m, s) =
      match Snippet.composed (m.take d).definitions d with
      | .error path =>
        (.error (.selfEmbedding path), m.take d, r.sayAll (notices (m.take d).definitions d) s)
      | .ok t =>
        match r.asked d with
        | none => (.ok [], m.settle d t, r.tracked m d s)
        | some e =>
          match e.evaluate t d.header.expression r.file (r.ready m d s) with
          | (.ok o, u) => (.ok [], (m.settle d t).keep d.name o, u)
          | (.error x, u) => (.error (.raised x), m.settle d t, u) := by
  have hc := r.compose_apply d (m.take d) s
  have ht : (Action.change fun p : Rendering × σ => (p.1.take d, p.2) : RenderingAction σ ε Unit)
    (m, s) = (.ok (), m.take d, s) := rfl
  unfold define
  refine (Action.bind_ok ht _).trans ?_
  cases h : Snippet.composed (m.take d).definitions d with
  | error path =>
    rw [h] at hc
    exact Action.bind_error hc _
  | ok t =>
    rw [h] at hc
    refine (Action.bind_ok hc _).trans ?_
    have hx := r.evaluate_apply d t (m.settle d t) (r.tracked m d s)
    cases ha : r.asked d with
    | none =>
      rw [ha] at hx
      exact Action.bind_ok hx _
    | some e =>
      simp only [ha] at hx
      change (r.evaluate d t >>= fun _ => pure []) (m.settle d t, r.tracked m d s) = _
      dsimp only [ready]
      generalize e.evaluate t d.header.expression r.file
        (r.say ("Evaluating snippet ".toList ++ d.name) (r.tracked m d s)) = q at hx ⊢
      obtain ⟨x | o, u⟩ := q
      · exact Action.bind_error hx _
      · exact Action.bind_ok hx _

theorem listing_apply (name : Text) (m : Rendering) (s : σ) :
    (listing name : RenderingAction σ ε _) (m, s) =
      match m.definitions.get? name with
      | none => (.error (.undefinedName name), m, s)
      | some d => (.ok [.code ((m.texts.get? name).getD []) d.header.lang.name], m, s) := by
  simp only [listing, Action.bind_apply, defined]
  cases m.definitions.get? name <;> rfl

def unevaluatedNotice (name : Text) : Text :=
  "Snippet ".toList ++ name ++ " was not evaluated, so there's nothing to embed".toList

theorem embed_apply (r : Renderer σ ε) (name : Text) (kind : EmbedKind) (m : Rendering) (s : σ) :
    r.embed name kind (m, s) =
      match m.definitions.get? name with
      | none => (.error (.undefinedName name), m, s)
      | some _ =>
        match r.evaluating with
        | none => (.ok [], m, s)
        | some e =>
          match m.results.get? name with
          | none => (.ok [], m, r.say (unevaluatedNotice name) s)
          | some o =>
            match e.present o kind s with
            | (.ok bs, u) => (.ok bs, m, u)
            | (.error x, u) => (.error (.raised x), m, u) := by
  unfold embed
  cases hd : m.definitions.get? name with
  | none =>
    have h : (defined name : RenderingAction σ ε _) (m, s)
      = (.error (.undefinedName name), m, s) := by simp [defined, hd]
    exact Action.bind_error h _
  | some d =>
    have h : (defined name : RenderingAction σ ε _) (m, s) = (.ok d, m, s) := by
      simp [defined, hd]
    rw [Action.bind_ok h]
    cases r.evaluating with
    | none => rfl
    | some e =>
      have hs : (Action.state : RenderingAction σ ε _) (m, s) = (.ok (m, s), m, s) := rfl
      dsimp only
      rw [Action.bind_ok hs]
      cases ho : m.results.get? name with
      | none => rfl
      | some o =>
        simp only [outside_apply]
        rcases e.present o kind s with ⟨x | bs, u⟩ <;> rfl

/-! ### One section after the other -/

theorem sections_nil (r : Renderer σ ε) (p : Rendering × σ) : r.sections [] p = (.ok [], p) := rfl

theorem sections_singleton (r : Renderer σ ε) (x : Section) : r.sections [x] = r.section_ x := by
  simp [sections, Action.each]

theorem sections_append (r : Renderer σ ε) (xs ys : List Section) :
    r.sections (xs ++ ys) = (do
      let bs ← r.sections xs
      let cs ← r.sections ys
      pure (bs ++ cs)) := by
  simp [sections, Action.each_append]

theorem sections_cons (r : Renderer σ ε) (x : Section) (xs : List Section) :
    r.sections (x :: xs) = (do
      let bs ← r.section_ x
      let cs ← r.sections xs
      pure (bs ++ cs)) := by
  rw [← sections_singleton, ← sections_append, List.singleton_append]

theorem sections_append_eq_ok {r : Renderer σ ε} {xs ys : List Section} {p q : Rendering × σ}
    {bs : List Block} (h : r.sections (xs ++ ys) p = (.ok bs, q)) :
    ∃ cs ds n, r.sections xs p = (.ok cs, n) ∧ r.sections ys n = (.ok ds, q) ∧ bs = cs ++ ds := by
  rw [sections_append] at h
  obtain ⟨cs, n, hx, h⟩ := Action.bind_eq_ok h
  obtain ⟨ds, n', hy, h⟩ := Action.bind_eq_ok h
  rw [Action.pure_apply] at h
  simp only [Prod.mk.injEq, Except.ok.injEq] at h
  exact ⟨cs, ds, n, hx, h.2 ▸ hy, h.1.symm⟩

theorem sections_cons_eq_ok {r : Renderer σ ε} {x : Section} {xs : List Section}
    {p q : Rendering × σ} {bs : List Block} (h : r.sections (x :: xs) p = (.ok bs, q)) :
    ∃ cs ds n, r.section_ x p = (.ok cs, n) ∧ r.sections xs n = (.ok ds, q) ∧ bs = cs ++ ds := by
  rw [← List.singleton_append] at h
  obtain ⟨cs, ds, n, hx, hxs, hb⟩ := sections_append_eq_ok h
  exact ⟨cs, ds, n, sections_singleton r x ▸ hx, hxs, hb⟩

theorem sections_append_ok {r : Renderer σ ε} {xs ys : List Section} {p q n : Rendering × σ}
    {cs ds : List Block} (hx : r.sections xs p = (.ok cs, n)) (hy : r.sections ys n = (.ok ds, q)) :
    r.sections (xs ++ ys) p = (.ok (cs ++ ds), q) := by
  rw [sections_append, Action.bind_ok hx, Action.bind_ok hy]
  rfl

end Renderer

end Weave
