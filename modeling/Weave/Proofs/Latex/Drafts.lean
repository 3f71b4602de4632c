import Weave.Latex.Prose

/-!
# Prose read piece by piece

While prose is read, lines of a paragraph and items of a list are held back, but never both at once: each
kind is written before one of the other is held back. So what is held back is one open piece, and reading
prose line by line is to close one piece after the other.
-/

set_option autoImplicit false

namespace Weave.Latex

/-! ### Open pieces -/

/-- The lines of a piece that goes on, latest first. -/
inductive Open where
  | nothing
  | paragraph (lines : List Text)
  | items (items : List Text)
  | listing (lines : List Text)
deriving DecidableEq, Repr

def Open.close : Open → List Piece
  | .nothing => []
  | .paragraph ls => [.paragraph ls.reverse]
  | .items xs => [.items xs.reverse]
  | .listing ls => [.listing ls.reverse]

/-- The pieces of the remaining lines, in the middle of a piece. -/
def piecesFrom : Open → List Text → List Piece
  | o, [] => o.close
  | .listing ls, t :: ts =>
    if Text.startsWith t fenceMark then .listing ls.reverse :: piecesFrom .nothing ts
    else piecesFrom (.listing (t :: ls)) ts
  | o, t :: ts =>
    match classify t, o with
    | .fence, o => o.close ++ piecesFrom (.listing []) ts
    | .heading level title, o => o.close ++ .heading level title :: piecesFrom .nothing ts
    | .item i, .items xs => piecesFrom (.items (i :: xs)) ts
    | .item i, o => o.close ++ piecesFrom (.items [i]) ts
    | .blank, o => o.close ++ piecesFrom .nothing ts
    | .paragraph p, .paragraph ps => piecesFrom (.paragraph (p :: ps)) ts
    | .paragraph p, o => o.close ++ piecesFrom (.paragraph [p]) ts

variable {d d' : Draft} {ps : List Piece} {o : Open} {t : Text} {ts ts' : List Text}

/-- The lines of a fence, and then those behind it. -/
theorem piecesFrom_listing (ls ts : List Text) :
    piecesFrom (.listing ls) ts =
      .listing (ls.reverse ++ (cutFence ts).1) :: piecesFrom .nothing (cutFence ts).2 := by
  induction ts generalizing ls with
  | nil => simp [piecesFrom, cutFence, Open.close]
  | cons t ts ih =>
    rw [piecesFrom, cutFence]
    split
    · simp
    · rw [ih]
      simp

/-! ### Never both -/

/-- Lines of a paragraph or items of a list are held back, but not both. -/
def Draft.OneSided (d : Draft) : Prop := d.paragraph = [] ∨ d.items = []

/-- An open piece outside of fences, with at least one line. -/
inductive Open.Formed : Open → Prop
  | nothing : Formed .nothing
  | paragraph (l : Text) (ls : List Text) : Formed (.paragraph (l :: ls))
  | items (x : Text) (xs : List Text) : Formed (.items (x :: xs))

/-- The draft that holds back an open piece. The lines of a fence are never held back. -/
def Open.draft (ps : List Piece) : Open → Draft
  | .paragraph ls => ⟨ps, ls.reverse, []⟩
  | .items xs => ⟨ps, [], xs.reverse⟩
  | .nothing | .listing _ => ⟨ps, [], []⟩

theorem Open.oneSided_draft (o : Open) : (o.draft ps).OneSided := by
  cases o with
  | items xs => exact .inl rfl
  | nothing | paragraph | listing => exact .inr rfl

theorem Draft.OneSided.exists_open (h : d.OneSided) :
    ∃ o : Open, o.Formed ∧ d = o.draft d.pieces := by
  obtain ⟨ps, paragraph, items⟩ := d
  rcases List.eq_nil_or_concat paragraph with rfl | ⟨ls, l, rfl⟩
  · rcases List.eq_nil_or_concat items with rfl | ⟨xs, x, rfl⟩
    · exact ⟨.nothing, .nothing, rfl⟩
    · exact ⟨.items (x :: xs.reverse), .items x _, by simp [Open.draft]⟩
  · obtain rfl : items = [] := by simpa [Draft.OneSided] using h
    exact ⟨.paragraph (l :: ls.reverse), .paragraph l _, by simp [Open.draft]⟩

/-! ### One line -/

namespace Open.Formed

theorem flush (h : o.Formed) : (o.draft ps).flush = Open.nothing.draft (ps ++ o.close) := by
  cases h <;> simp [Open.draft, Draft.flush, Open.close]

theorem flush_add (h : o.Formed) (p : Piece) :
    (o.draft ps).flush.add p = Open.nothing.draft (ps ++ (o.close ++ [p])) := by
  rw [h.flush, ← List.append_assoc]
  rfl

/-- A piece that does not take the line is closed, and the line is the first of the next. -/
theorem addItem {i : Text} (h : o.Formed) (ps : List Piece) (hc : classify t = .item i)
    (ts : List Text) :
    ∃ o' ps', o'.Formed ∧ (o.draft ps).addItem i = o'.draft (ps ++ ps') ∧
      piecesFrom o (t :: ts) = ps' ++ piecesFrom o' ts := by
  cases h with
  | nothing =>
    refine ⟨.items [i], [], .items i [], ?_, ?_⟩
    · simp [Draft.addItem, Open.draft]
    · simp [piecesFrom, hc, Open.close]
  | paragraph l ls =>
    refine ⟨.items [i], [.paragraph (l :: ls).reverse], .items i [], ?_, ?_⟩
    · simp [Draft.addItem, Open.draft, Draft.flush]
    · simp [piecesFrom, hc, Open.close]
  | items x xs =>
    refine ⟨.items (i :: x :: xs), [], .items i (x :: xs), ?_, ?_⟩
    · simp [Draft.addItem, Open.draft]
    · simp [piecesFrom, hc]

theorem addParagraph {p : Text} (h : o.Formed) (ps : List Piece) (hc : classify t = .paragraph p)
    (ts : List Text) :
    ∃ o' ps', o'.Formed ∧ (o.draft ps).addParagraph p = o'.draft (ps ++ ps') ∧
      piecesFrom o (t :: ts) = ps' ++ piecesFrom o' ts := by
  cases h with
  | nothing =>
    refine ⟨.paragraph [p], [], .paragraph p [], ?_, ?_⟩
    · simp [Draft.addParagraph, Open.draft]
    · simp [piecesFrom, hc, Open.close]
  | items x xs =>
    refine ⟨.paragraph [p], [.items (x :: xs).reverse], .paragraph p [], ?_, ?_⟩
    · simp [Draft.addParagraph, Open.draft, Draft.flush]
    · simp [piecesFrom, hc, Open.close]
  | paragraph l ls =>
    refine ⟨.paragraph (p :: l :: ls), [], .paragraph p (l :: ls), ?_, ?_⟩
    · simp [Draft.addParagraph, Open.draft]
    · simp [piecesFrom, hc]

/-- A line leaves the draft of an open piece, and the pieces that it closes are written. -/
theorem addLine (h : o.Formed) (ps : List Piece) (t : Text) (ts : List Text) :
    ∃ o' ps' ts', o'.Formed ∧ (o.draft ps).addLine t ts = (o'.draft (ps ++ ps'), ts') ∧
      piecesFrom o (t :: ts) = ps' ++ piecesFrom o' ts' := by
  unfold Draft.addLine
  cases hc : classify t with
  | fence =>
    refine ⟨.nothing, o.close ++ [.listing (cutFence ts).1], (cutFence ts).2, .nothing, ?_, ?_⟩
    · simp only [h.flush_add]
    · cases h <;> simp [piecesFrom, hc, piecesFrom_listing]
  | heading level title =>
    refine ⟨.nothing, o.close ++ [.heading level title], ts, .nothing, ?_, ?_⟩
    · simp only [h.flush_add]
    · cases h <;> simp [piecesFrom, hc]
  | blank =>
    refine ⟨.nothing, o.close, ts, .nothing, ?_, ?_⟩
    · simp only [h.flush]
    · cases h <;> simp [piecesFrom, hc]
  | item i =>
    obtain ⟨o', ps', ho, hd, hp⟩ := h.addItem ps hc ts
    exact ⟨o', ps', ts, ho, congrArg (·, ts) hd, hp⟩
  | paragraph p =>
    obtain ⟨o', ps', ho, hd, hp⟩ := h.addParagraph ps hc ts
    exact ⟨o', ps', ts, ho, congrArg (·, ts) hd, hp⟩

end Open.Formed

theorem Draft.OneSided.addLine (h : d.OneSided) (t : Text) (ts : List Text) :
    (d.addLine t ts).1.OneSided := by
  obtain ⟨o, ho, hd⟩ := h.exists_open
  obtain ⟨o', ps', ts', -, hline, -⟩ := ho.addLine d.pieces t ts
  rw [hd, hline]
  exact o'.oneSided_draft

/-! ### All lines -/

/-- The drafts that are passed on the way through some lines, and the lines that are left there. -/
inductive Draft.Passes : Draft → List Text → Draft → List Text → Prop
  | start (d : Draft) (ts : List Text) : Passes d ts d ts
  | line {d d' : Draft} {t : Text} {ts ts' : List Text}
      (h : Passes (d.addLine t ts).1 (d.addLine t ts).2 d' ts') : Passes d (t :: ts) d' ts'

/-- However far prose has been read, not both are held back. -/
theorem Draft.Passes.oneSided (h : Passes d ts d' ts') (hd : d.OneSided) : d'.OneSided := by
  induction h with
  | start d ts => exact hd
  | line h ih => exact ih (hd.addLine _ _)

/-- The induction is on the number of lines, since a fence takes several at once. -/
theorem Open.Formed.finish (h : o.Formed) (ps : List Piece) (ts : List Text) :
    (o.draft ps).finish ts = ps ++ piecesFrom o ts := by
  induction hn : ts.length using Nat.strongRecOn generalizing o ps ts with
  | ind n ih =>
    cases ts with
    | nil =>
      rw [Draft.finish, h.flush, piecesFrom]
      rfl
    | cons t ts =>
      obtain ⟨o', ps', ts', ho, hline, hpieces⟩ := h.addLine ps t ts
      have hlt : ts'.length < n := by
        have hle := (o.draft ps).length_addLine_le t ts
        rw [hline] at hle
        rw [← hn]
        exact Nat.lt_succ_of_le hle
      rw [Draft.finish, hline, hpieces, ih ts'.length hlt ho _ _ rfl, List.append_assoc]

theorem pieces_eq_piecesFrom (t : Text) : pieces t = piecesFrom .nothing (Text.lines t) :=
  Open.Formed.nothing.finish [] (Text.lines t)

end Weave.Latex
