import Weave.Output

/-!
# Writing documents

The templates that are used when none is given print the title and the content and ask only whether
there is a title. So they take any title and any content, and a document without foreign blocks can be
written in them unless its Markdown cannot be turned into HTML.
-/

set_option autoImplicit false

namespace Weave

namespace Template

variable (bound : Text → Option Text)

def isDocumentName : List Lexeme → Bool
  | [.word t] => t = "title".toList || t = "content".toList
  | _ => false

theorem isSome_datum? {ws : List Lexeme} (h : isDocumentName ws) : (datum? bound ws).isSome := by
  unfold isDocumentName at h
  split at h
  · next t =>
    simp only [Bool.or_eq_true, decide_eq_true_eq] at h
    rcases h with rfl | rfl <;> rfl
  · contradiction

/-- Whether parts, inside so many conditional ones, print such names and ask for such names only. -/
def isSimple : Nat → List Part → Bool
  | n, [] => n = 0
  | n, .data _ :: ps => isSimple n ps
  | n, .print ws :: ps => isDocumentName ws && isSimple n ps
  | n, .block [w] :: ps =>
    w.isWord "endif" && !w.isWord "if" && !w.isWord "elif" && !w.isWord "else" && 0 < n
      && isSimple (n - 1) ps
  | n, .block [w, name] :: ps => w.isWord "if" && isDocumentName [name] && isSimple (n + 1) ps
  | _, .block _ :: _ => false

section

variable {bound} {fs : List Frame} {ps : List Part} {w : Lexeme}

theorem renderFrom_data (t : Text) : renderFrom bound fs (.data t :: ps) =
    (renderFrom bound fs ps).map fun r => if keeps fs then t ++ r else r := by
  cases fs <;> rfl

theorem renderFrom_print (ws : List Lexeme) : renderFrom bound fs (.print ws :: ps) =
    (datum? bound ws).bind fun o => (renderFrom bound fs ps).bind fun r =>
      some (if keeps fs then o.written ++ r else r) := by
  cases fs <;> rfl

theorem renderFrom_if (hif : w.isWord "if" = true) (condition : List Lexeme) :
    renderFrom bound fs (.block (w :: condition) :: ps) =
      (datum? bound condition).bind fun o =>
        renderFrom bound (⟨keeps fs, o.isTrue, keeps fs && o.isTrue, false⟩ :: fs) ps := by
  cases fs <;> exact if_pos hif

theorem renderFrom_endif {f : Frame} (hif : w.isWord "if" = false) (helif : w.isWord "elif" = false)
    (helse : w.isWord "else" = false) (hendif : w.isWord "endif" = true) :
    renderFrom bound (f :: fs) (.block [w] :: ps) = renderFrom bound fs ps := by
  refine (if_neg (by simp [hif])).trans ?_
  refine (if_neg (by simp [helif])).trans ?_
  refine (if_neg (by simp [helse])).trans ?_
  exact if_pos (by simp [hendif])

end

theorem isSome_renderFrom {ps : List Part} {fs : List Frame} (h : isSimple fs.length ps) :
    (renderFrom bound fs ps).isSome := by
  induction ps generalizing fs with
  | nil =>
    cases fs with
    | nil => rfl
    | cons f fs => simp [isSimple] at h
  | cons p ps ih =>
    match p with
    | .data t =>
      rw [isSimple] at h
      rw [renderFrom_data, Option.isSome_map]
      exact ih h
    | .print ws =>
      rw [isSimple] at h
      obtain ⟨hws, hps⟩ := Bool.and_eq_true_iff.mp h
      obtain ⟨o, ho⟩ := Option.isSome_iff_exists.mp (isSome_datum? bound hws)
      obtain ⟨r, hr⟩ := Option.isSome_iff_exists.mp (ih hps)
      rw [renderFrom_print, ho, hr]
      rfl
    | .block [w, name] =>
      rw [isSimple] at h
      obtain ⟨hw, hps⟩ := Bool.and_eq_true_iff.mp h
      obtain ⟨hif, hname⟩ := Bool.and_eq_true_iff.mp hw
      obtain ⟨o, ho⟩ := Option.isSome_iff_exists.mp (isSome_datum? bound hname)
      rw [renderFrom_if hif, ho]
      exact ih hps
    | .block [w] =>
      cases fs with
      | nil => simp [isSimple] at h
      | cons f fs =>
        rw [isSimple] at h
        simp only [Bool.and_eq_true, Bool.not_eq_true'] at h
        obtain ⟨⟨⟨⟨⟨hendif, hif⟩, helif⟩, helse⟩, -⟩, hps⟩ := h
        rw [renderFrom_endif hif helif helse hendif]
        exact ih hps
    | .block [] => simp [isSimple] at h
    | .block (_ :: _ :: _ :: _) => simp [isSimple] at h

end Template

namespace Output

theorem isSimple_defaultTemplate (kind : OutputKind) :
    (Template.parts (delimiters kind) ((Template.normalize (defaultTemplate kind)).length + 1)
      (Template.normalize (defaultTemplate kind))).any (Template.isSimple 0) = true := by
  cases kind <;> decide +kernel

/-- Whatever the title and the content are, the template at hand takes them. -/
theorem isSome_render_defaultTemplate (kind : OutputKind) (title content : Text) :
    (Template.render (delimiters kind) (namedTexts kind title content) (defaultTemplate kind)).isSome := by
  have hsimple := isSimple_defaultTemplate kind
  unfold Template.render
  dsimp only
  cases hps : Template.parts (delimiters kind)
      ((Template.normalize (defaultTemplate kind)).length + 1)
      (Template.normalize (defaultTemplate kind)) with
  | none =>
    rw [hps] at hsimple
    contradiction
  | some ps =>
    rw [hps] at hsimple
    change (Template.renderFrom _ [] ps).isSome
    exact Template.isSome_renderFrom _ hsimple

end Output

namespace Writer

variable {ε φ : Type} (W : Writer ε)

/-! ### Counting faults otherwise -/

def map (f : ε → φ) : Writer φ where
  toHtml t := (W.toHtml t).mapError f
  fill := W.fill
  fault := f ∘ W.fault

theorem block_map (f : ε → φ) (kind : OutputKind) (b : Block) :
    (W.map f).block kind b = (W.block kind b).mapError f := by
  cases kind with
  | html =>
    cases b with
    | raw t k => cases k <;> rfl
    | _ => rfl
  | latex =>
    simp only [block]
    cases Latex.block b <;> rfl

theorem mapM_block_map (f : ε → φ) (kind : OutputKind) (bs : List Block) :
    bs.mapM ((W.map f).block kind) = (bs.mapM (W.block kind)).mapError f := by
  induction bs with
  | nil => rfl
  | cons b bs ih =>
    rw [List.mapM_cons, List.mapM_cons, block_map, ih]
    cases W.block kind b with
    | error e => rfl
    | ok t => cases bs.mapM (W.block kind) <;> rfl

theorem filled_map (f : ε → φ) (kind : OutputKind) (title content template : Text) :
    (W.map f).filled kind title content template = (W.filled kind title content template).mapError f := by
  simp only [filled, map]
  cases W.fill (Output.delimiters kind) (Output.namedTexts kind title content) template <;> rfl

theorem document_map (f : ε → φ) (load : Path → Option Text) (kind : OutputKind) (template : Option Path)
    (title : Text) (bs : List Block) :
    (W.map f).document load kind template title bs =
      (W.document load kind template title bs).mapError f := by
  unfold document blocks
  rw [mapM_block_map]
  cases bs.mapM (W.block kind) with
  | error e => rfl
  | ok ts =>
    cases template with
    | none => exact W.filled_map f ..
    | some p =>
      dsimp only
      cases load p with
      | none => rfl
      | some source => exact W.filled_map f ..

/-! ### Documents without foreign blocks -/

/-- The templates at hand are filled. -/
def Fills : Prop := ∀ kind title content,
  (W.fill (Output.delimiters kind) (Output.namedTexts kind title content)
    (Output.defaultTemplate kind)).isSome

/-- What comes of a block of Markdown that is not turned into HTML. -/
def blockFault? : OutputKind → Block → Option ε
  | .html, .prose t => match W.toHtml t with
    | .error e => some e
    | .ok _ => none
  | _, _ => none

def fault? (kind : OutputKind) (bs : List Block) : Option ε := bs.findSome? (W.blockFault? kind)

variable {W} {kind : OutputKind}

theorem block_of_fault {b : Block} {e : ε} (h : W.blockFault? kind b = some e) :
    W.block kind b = .error e := by
  unfold blockFault? at h
  split at h
  next t =>
    show W.toHtml t = .error e
    split at h
    next e' he =>
      rw [he, Option.some.inj h]
    next => cases h
  next => cases h

theorem block_of_no_fault {b : Block} (hb : ∀ t, b ≠ .foreign t) (h : W.blockFault? kind b = none) :
    ∃ t, W.block kind b = .ok t := by
  cases b with
  | foreign t => exact absurd rfl (hb t)
  | raw t k => cases kind <;> cases k <;> exact ⟨_, rfl⟩
  | prose t =>
    cases kind with
    | latex => exact ⟨_, rfl⟩
    | html =>
      cases hhtml : W.toHtml t with
      | ok html => exact ⟨html, hhtml⟩
      | error e => simp [blockFault?, hhtml] at h
  | code t lang => cases kind <;> exact ⟨_, rfl⟩
  | paragraph t => cases kind <;> exact ⟨_, rfl⟩
  | table headers rows => cases kind <;> exact ⟨_, rfl⟩

/-- Blocks are written up to the first fault. -/
theorem mapM_block_outcome (W : Writer ε) (kind : OutputKind) {bs : List Block}
    (hbs : ∀ b ∈ bs, ∀ t, b ≠ .foreign t) :
    match W.fault? kind bs with
    | some e => bs.mapM (W.block kind) = .error e
    | none => ∃ ts, bs.mapM (W.block kind) = .ok ts := by
  induction bs with
  | nil => exact ⟨[], rfl⟩
  | cons b bs ih =>
    rw [fault?, List.findSome?_cons, List.mapM_cons]
    cases hb : W.blockFault? kind b with
    | some e =>
      dsimp only
      rw [block_of_fault hb]
      rfl
    | none =>
      obtain ⟨t, ht⟩ := block_of_no_fault (hbs b List.mem_cons_self) hb
      have hrest := ih fun b' hb' => hbs b' (List.mem_cons_of_mem _ hb')
      rw [fault?] at hrest
      rw [ht]
      cases hfault : bs.findSome? (W.blockFault? kind) with
      | some e =>
        rw [hfault] at hrest
        dsimp only at hrest ⊢
        rw [hrest]
        rfl
      | none =>
        rw [hfault] at hrest
        obtain ⟨ts, hts⟩ := hrest
        exact ⟨t :: ts, by rw [hts]; rfl⟩

/-- Without a template of its own, a document without foreign blocks is written, or its first fault is
one of its Markdown. -/
theorem document_outcome (hW : W.Fills) (load : Path → Option Text) (kind : OutputKind) (title : Text)
    {bs : List Block} (hbs : ∀ b ∈ bs, ∀ t, b ≠ .foreign t) :
    match W.fault? kind bs with
    | some e => W.document load kind none title bs = .error e
    | none => ∃ t, W.document load kind none title bs = .ok t := by
  have hblocks := W.mapM_block_outcome kind hbs
  unfold document blocks
  cases hfault : W.fault? kind bs with
  | some e =>
    rw [hfault] at hblocks
    dsimp only at hblocks ⊢
    rw [hblocks]
    rfl
  | none =>
    rw [hfault] at hblocks
    obtain ⟨ts, hts⟩ := hblocks
    obtain ⟨t, ht⟩ := Option.isSome_iff_exists.mp (hW kind title
      (Text.join (Output.separator kind) (ts.filter fun t => !t.isEmpty)))
    refine ⟨t, ?_⟩
    rw [hts]
    show W.filled .. = _
    rw [filled, ht]

end Writer

end Weave
