import Mathlib.Algebra.Ring.Parity
import Weave.Proofs.Latex.Markup
import Weave.Proofs.Latex.Runs
import Weave.Proofs.Text.Lines

/-!
# Parts of prose

A blank line outside of fences ends what goes on in front of it. So prose whose fences are all closed
and prose behind a blank line are written one after the other, as each would be written alone, however
the line ends at the seam fall together.
-/

set_option autoImplicit false

namespace Weave.Latex

/-! ### Lines behind closed fences -/

def FencesClosed (ts : List Text) : Prop := Even (ts.countP isFence)

theorem FencesClosed.of_not_isFence {t : Text} {ts : List Text} (h : FencesClosed (t :: ts))
    (ht : ¬ isFence t = true) : FencesClosed ts := by
  rwa [FencesClosed, List.countP_cons_of_neg ht] at h

/-- A line that opens a fence is followed by one that closes it. -/
theorem FencesClosed.exists_closing {t : Text} {ts : List Text} (h : FencesClosed (t :: ts))
    (ht : isFence t = true) : ∃ inner closing rest, ts = inner ++ closing :: rest ∧
      (∀ l ∈ inner, isFence l = false) ∧ isFence closing = true ∧ FencesClosed rest := by
  rw [FencesClosed, List.countP_cons_of_pos ht, Nat.even_add_one] at h
  have hfence : ∃ l ∈ ts, isFence l = true := by
    rw [← List.countP_pos_iff]
    by_contra hzero
    exact h (by simp [Nat.eq_zero_of_not_pos hzero])
  obtain ⟨closing, hfind⟩ := Option.isSome_iff_exists.mp (List.find?_isSome.mpr hfence)
  obtain ⟨hclosing, inner, rest, rfl, hinner⟩ := List.find?_eq_some_iff_append.mp hfind
  have hinner : ∀ l ∈ inner, isFence l = false := by
    intro l hl
    simpa using hinner l hl
  refine ⟨inner, closing, rest, rfl, hinner, hclosing, ?_⟩
  have hcount : inner.countP isFence = 0 := by
    rw [List.countP_eq_zero]
    intro l hl
    simp [hinner l hl]
  rwa [List.countP_append, hcount, List.countP_cons_of_pos hclosing, Nat.zero_add, Nat.even_add_one,
    not_not] at h

theorem stretches_fence {t closing : Text} {inner : List Text} (ht : isFence t = true)
    (hinner : ∀ l ∈ inner, isFence l = false) (hclosing : isFence closing = true) (ts : List Text) :
    stretches (t :: (inner ++ closing :: ts)) = .fence t inner (some closing) :: stretches ts := by
  have hall : ∀ l ∈ inner, (!isFence l) = true := by
    intro l hl
    simp [hinner l hl]
  rw [stretches, if_pos ht, List.takeWhile_append_of_pos hall, List.dropWhile_append_of_pos hall]
  simp [hclosing]

theorem stretches_append {ts : List Text} (h : FencesClosed ts) (us : List Text) :
    stretches (ts ++ us) = stretches ts ++ stretches us := by
  induction hn : ts.length using Nat.strongRecOn generalizing ts with
  | ind n ih =>
    subst hn
    cases ts with
    | nil => simp [stretches]
    | cons t ts =>
      by_cases ht : isFence t = true
      · obtain ⟨inner, closing, rest, rfl, hinner, hclosing, hrest⟩ := h.exists_closing ht
        have hlen : rest.length < (t :: (inner ++ closing :: rest)).length := by
          simp only [List.length_cons, List.length_append]
          omega
        rw [List.cons_append, List.append_assoc, List.cons_append, stretches_fence ht hinner hclosing,
          stretches_fence ht hinner hclosing, ih rest.length hlen hrest rfl, List.cons_append]
      · have hlen : ts.length < (t :: ts).length := Nat.lt_succ_self _
        rw [List.cons_append, stretches, if_neg ht, ih ts.length hlen (h.of_not_isFence ht) rfl]
        rw [stretches, if_neg ht, List.cons_append]

/-- A blank line behind closed fences comes to nothing and parts what stands on its sides. -/
theorem runs_append_blank {ts : List Text} (h : FencesClosed ts) (us : List Text) :
    (runs (ts ++ [] :: us)).filterMap pieceOf? =
      (runs ts).filterMap pieceOf? ++ (runs us).filterMap pieceOf? := by
  have halone : ∀ g : Gathering, g.content? (.line []) = none := by
    intro g
    cases g <;> rfl
  have hjoins : ∀ s ∈ (stretches ts).getLast?, s.joins (.line []) = false := by
    intro s _
    rw [Bool.eq_false_iff]
    intro hj
    obtain ⟨g, -, hg⟩ := Gathering.joins_iff.mp hj
    rw [halone g] at hg
    cases hg
  have hblank : stretches ([] :: us) = .line [] :: stretches us := by
    rw [stretches, if_neg (by decide)]
  have hpiece : pieceOf? [.line []] = none := rfl
  rw [runs, stretches_append h, hblank, List.splitBy_append_cons _ hjoins, splitBy_cons_alone halone,
    List.filterMap_append, List.filterMap_cons, hpiece]
  rfl

theorem pieces_append {a : Text} (h : FencesClosed (Text.lines a)) (b : Text) :
    pieces (a ++ '\n' :: '\n' :: b) = pieces a ++ pieces b := by
  rw [pieces_eq, pieces_eq, pieces_eq, Text.lines_append_blank]
  rcases Text.lines_append_newline a with ha | ha
  · rw [ha, runs_append_blank h]
  · have hend : (runs (Text.lines a ++ [[]])).filterMap pieceOf? =
        (runs (Text.lines a)).filterMap pieceOf? := by
      rw [runs_append_blank h]
      simp [runs, stretches]
    have hclosed : FencesClosed (Text.lines a ++ [[]]) := by
      rw [FencesClosed, List.countP_append]
      exact h
    rw [ha, runs_append_blank hclosed, hend]

/-! ### Pieces that come to something -/

theorem escape_ne_nil {t : Text} (h : t ≠ []) : escape t ≠ [] := by
  obtain ⟨c, r, rfl⟩ := List.exists_cons_of_ne_nil h
  intro hescape
  have hback := unmark?_escape false (c :: r) []
  rw [hescape, List.append_nil] at hback
  simp [unmark?] at hback

theorem inline_ne_nil {t : Text} (h : t ≠ []) : inline t ≠ [] := by
  obtain ⟨c, r, rfl⟩ := List.exists_cons_of_ne_nil h
  cases hspan : span? (c :: r) with
  | none =>
    rw [inline_plain hspan]
    have hchar : escapeChar c ≠ [] := by
      simpa [escape] using escape_ne_nil (t := [c]) (by simp)
    simp [hchar]
  | some found =>
    obtain ⟨s, rest⟩ := found
    rw [inline_span hspan]
    cases span?_eq_some_iff.mp hspan <;> simp [Span.write, apply]

theorem classify_eq_paragraph {t p : Text} (h : classify t = .paragraph p) : p ≠ [] := by
  unfold classify at h
  repeat' split at h
  all_goals cases h
  next hblank =>
    intro htrim
    exact hblank (Text.trim_eq_nil_iff.mp htrim)

theorem Piece.write_ne_nil {run : List Stretch} {p : Piece} (h : pieceOf? run = some p) :
    p.write ≠ [] := by
  cases p with
  | heading level title => simp [Piece.write, apply]
  | items xs => simp [Piece.write, environment, apply]
  | listing ls => simp [Piece.write, environment, apply]
  | paragraph ls =>
    unfold pieceOf? at h
    split at h
    · cases h
    · cases h
    · split at h <;> cases h
      next t _ _ p hp =>
        have hfirst : Stretch.paragraph? (.line t) = some p := by simp [Stretch.paragraph?, hp]
        rw [List.filterMap_cons, hfirst]
        exact inline_ne_nil (Text.join_ne_nil (classify_eq_paragraph hp))

theorem prose_eq_nil_iff (t : Text) : prose t = [] ↔ pieces t = [] := by
  constructor
  · intro hprose
    cases hpieces : pieces t with
    | nil => rfl
    | cons p ps =>
      have hmem : p ∈ (runs (Text.lines t)).filterMap pieceOf? := by
        rw [← pieces_eq, hpieces]
        exact List.mem_cons_self
      obtain ⟨run, -, hp⟩ := List.mem_filterMap.mp hmem
      rw [prose, hpieces] at hprose
      exact absurd hprose (Text.join_ne_nil (Piece.write_ne_nil hp))
  · intro h
    rw [prose, h]
    rfl

/-- Prose is written part by part: behind closed fences, what follows a blank line is written as it would
be alone, and an empty part takes no blank line with it. -/
theorem prose_append (a b : Text) (h : Even ((Text.lines a).countP isFence)) :
    prose (a ++ '\n' :: '\n' :: b) =
      if prose a = [] then prose b
      else if prose b = [] then prose a
      else prose a ++ '\n' :: '\n' :: prose b := by
  have hpieces := pieces_append h b
  simp only [prose_eq_nil_iff]
  split
  · next ha => rw [prose, hpieces, ha, List.nil_append, prose]
  split
  · next hb => rw [prose, hpieces, hb, List.append_nil, prose]
  · next ha hb =>
    have hwritten : (pieces a).map Piece.write ≠ [] := by simpa using ha
    have hwritten' : (pieces b).map Piece.write ≠ [] := by simpa using hb
    rw [prose, hpieces, List.map_append, Text.join_append hwritten hwritten', prose, prose]
    rfl

/-- The newline behind the carriage return belongs to it, and still the lists stay apart. -/
theorem prose_append_items :
    Even ((Text.lines ['-', ' ', 'x', '\r']).countP isFence) ∧
      prose ['-', ' ', 'x', '\r', '\n', '\n', '-', ' ', 'y'] =
        (Piece.items [['x']]).write ++ '\n' :: '\n' :: (Piece.items [['y']]).write := by
  have hclosed : Even ((Text.lines ['-', ' ', 'x', '\r']).countP isFence) := by decide
  have hx : prose ['-', ' ', 'x', '\r'] = (Piece.items [['x']]).write := by
    have hpieces : pieces ['-', ' ', 'x', '\r'] = [.items [['x']]] := by decide +kernel
    rw [prose, hpieces]
    simp [Text.join]
  have hy : prose ['-', ' ', 'y'] = (Piece.items [['y']]).write := by
    have hpieces : pieces ['-', ' ', 'y'] = [.items [['y']]] := by decide +kernel
    rw [prose, hpieces]
    simp [Text.join]
  have hne (i : Text) : (Piece.items [i]).write ≠ [] := by simp [Piece.write, environment, apply]
  refine ⟨hclosed, ?_⟩
  have h := prose_append ['-', ' ', 'x', '\r'] ['-', ' ', 'y'] hclosed
  rwa [hx, hy, if_neg (hne _), if_neg (hne _)] at h

end Weave.Latex
