import Weave.Proofs.Document.Scan

/-!
# Places in a text

A cursor that has been put into a text stays in it. The tokens it passes start before the place it
comes to, and the token at a place starts there.
-/

set_option autoImplicit false

namespace Weave

theorem Token.front_eq (n : Nat) (u : Text) :
    front n u = ⟨(front n u).kind, (front n u).text, n, n + (front n u).text.length⟩ := by
  unfold front
  split
  · rfl
  · split <;> rfl

namespace Cursor

/-- The cursor is at a position of the text. -/
structure On (t : Text) (c : Cursor) : Prop where
  length : c.length = t.length
  split : ∃ x, t = x ++ c.rest ∧ c.offset = x.length

variable {t : Text} {c d : Cursor} {ts : List (Token × Cursor)}

theorem on_ofText {n : Nat} (h : n ≤ t.length) : (ofText t n).On t :=
  ⟨rfl, t.take n, (List.take_append_drop n t).symm, (List.length_take_of_le h).symm⟩

theorem on_start (t : Text) : (start t).On t := ⟨rfl, [], rfl, rfl⟩

theorem offset_lt_advance (hc : c.rest ≠ []) : c.offset < c.advance.offset := by
  have hpos := List.length_pos_iff.mpr (peek_text_ne_nil hc)
  rw [advance_eq_skip hc]
  show c.offset < c.offset + c.peek.text.length
  omega

theorem Walk.offset_le (w : c.Walk ts d) : c.offset ≤ d.offset := by
  induction w with
  | stay => exact Nat.le_refl _
  | step hc _ ih => exact Nat.le_of_lt (Nat.lt_of_lt_of_le (offset_lt_advance hc) ih)

namespace On

theorem eq_ofText (h : c.On t) : c = ofText t c.offset := by
  obtain ⟨x, rfl, ho⟩ := h.split
  rw [ofText, ho, List.drop_left, ← ho, ← h.length]

theorem rest_eq_nil_iff (h : c.On t) : c.rest = [] ↔ c.offset = t.length := by
  obtain ⟨x, hx, ho⟩ := h.split
  have hlen := congrArg List.length hx
  rw [List.length_append] at hlen
  rw [← List.length_eq_zero_iff]
  omega

theorem skip (h : c.On t) {d r : Text} (hd : c.rest = d ++ r) : (c.skip d.length).On t := by
  obtain ⟨x, hx, ho⟩ := h.split
  refine ⟨h.length, x ++ d, ?_, ?_⟩
  · rw [rest_skip_of_append hd, hx, hd, List.append_assoc]
  · rw [List.length_append, ← ho]
    rfl

theorem advance_eq_skip (h : c.On t) : c.advance = c.skip c.peek.text.length := by
  by_cases hc : c.rest = []
  · have hend : c.length = c.offset := h.length.trans (h.rest_eq_nil_iff.mp hc).symm
    simp [Cursor.advance, peek, Cursor.skip, hc, hend]
  · exact Cursor.advance_eq_skip hc

theorem advance (h : c.On t) : c.advance.On t := by
  rw [h.advance_eq_skip]
  exact h.skip c.rest_eq_peek_text_append

theorem of_mem_tokens (h : c.On t) {r : Token × Cursor} (hr : r ∈ c.tokens) : r.2.On t := by
  induction c using Cursor.tokens.induct with
  | case1 c hc => simp [tokens_of_rest_nil hc] at hr
  | case2 c hc ih =>
    rw [tokens_of_rest_ne_nil hc] at hr
    rcases List.mem_cons.mp hr with rfl | hr
    · exact h
    · exact ih h.advance hr

theorem walk (h : c.On t) (w : c.Walk ts d) : d.On t := by
  induction w with
  | stay => exact h
  | step _ _ ih => exact ih h.advance

theorem peek_start (h : c.On t) : c.peek.start = c.offset := by
  by_cases hc : c.rest = []
  · rw [h.rest_eq_nil_iff.mp hc, ← h.length]
    simp [peek, hc]
  · rw [peek_eq_front hc, Token.front_eq]

theorem start_lt_of_walk (h : c.On t) (w : c.Walk ts d) : ∀ r ∈ ts, r.1.start < d.offset := by
  induction w with
  | stay => simp
  | step hc w ih =>
    intro r hr
    rcases List.mem_cons.mp hr with rfl | hr
    · rw [h.peek_start]
      exact Nat.lt_of_lt_of_le (offset_lt_advance hc) w.offset_le
    · exact ih h.advance r hr

end On

end Cursor

end Weave
