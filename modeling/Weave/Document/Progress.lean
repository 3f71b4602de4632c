import Weave.Document.Reading

/-!
# Progress of readers

A reader that succeeds never leaves more of the text than there was before, and one that has taken a
token leaves less.
-/

set_option autoImplicit false

namespace Weave

theorem Cursor.advance_rest_length_le (c : Cursor) : c.advance.rest.length ≤ c.rest.length := by
  simp [Cursor.advance]

theorem Cursor.rest_length_le_of_mem_tokens {c : Cursor} {r : Token × Cursor} (h : r ∈ c.tokens) :
    r.2.rest.length ≤ c.rest.length := by
  induction c using Cursor.tokens.induct with
  | case1 c hc => rw [Cursor.tokens, dif_pos hc] at h; simp at h
  | case2 c hc ih =>
    rw [Cursor.tokens, dif_neg hc] at h
    rcases List.mem_cons.mp h with rfl | h
    · exact Nat.le_refl _
    · exact Nat.le_trans (ih h) c.advance_rest_length_le

theorem Cursor.rest_ne_nil_of_peek_kind {c : Cursor} (h : c.peek.kind ≠ .finish) : c.rest ≠ [] := by
  intro hc
  exact h (by simp [Cursor.peek, hc])

namespace Document

variable {α β : Type}

/-- On success no more of the text is left than before. -/
def Keeps (p : Reading α) : Prop :=
  ∀ c a d, p c = (.ok a, d) → d.rest.length ≤ c.rest.length

/-- On success less of the text is left than before. -/
def Shortens (p : Reading α) : Prop :=
  ∀ c a d, p c = (.ok a, d) → d.rest.length < c.rest.length

theorem Shortens.keeps {p : Reading α} (h : Shortens p) : Keeps p :=
  fun c a d e => Nat.le_of_lt (h c a d e)

theorem keeps_pure (a : α) : Keeps (pure a : Reading α) := by
  intro c b d h
  rw [Action.pure_apply] at h
  simp only [Prod.mk.injEq] at h
  obtain ⟨_, rfl⟩ := h
  exact Nat.le_refl _

theorem keeps_fail (f : Fault) : Keeps (Action.fail f : Reading α) := by
  intro c b d h
  simp [Action.fail] at h

theorem Keeps.bind {p : Reading α} {f : α → Reading β} (hp : Keeps p) (hf : ∀ a, Keeps (f a)) :
    Keeps (p >>= f) := by
  intro c b d h
  obtain ⟨a, m, h₁, h₂⟩ := Action.bind_eq_ok h
  exact Nat.le_trans (hf a m b d h₂) (hp c a m h₁)

theorem Shortens.bind {p : Reading α} {f : α → Reading β} (hp : Shortens p)
    (hf : ∀ a, Keeps (f a)) : Shortens (p >>= f) := by
  intro c b d h
  obtain ⟨a, m, h₁, h₂⟩ := Action.bind_eq_ok h
  exact Nat.lt_of_le_of_lt (hf a m b d h₂) (hp c a m h₁)

theorem expect_eq_ok {kind : TokenKind} {c d : Cursor} {t : Token}
    (h : expect kind c = (.ok t, d)) : c.peek.kind = kind ∧ t = c.peek ∧ d = c.advance := by
  unfold expect at h
  split at h
  · next hk => simp_all
  · simp at h

theorem shortens_expect {kind : TokenKind} (hk : kind ≠ .finish) : Shortens (expect kind) := by
  intro c t d h
  obtain ⟨hp, -, rfl⟩ := expect_eq_ok h
  exact Cursor.advance_rest_length_lt (Cursor.rest_ne_nil_of_peek_kind (hp ▸ hk))

theorem keeps_expect (kind : TokenKind) : Keeps (expect kind) := by
  intro c t d h
  obtain ⟨-, -, rfl⟩ := expect_eq_ok h
  exact c.advance_rest_length_le

theorem keeps_expectAll (kinds : List TokenKind) : Keeps (expectAll kinds) := by
  induction kinds with
  | nil => exact keeps_pure []
  | cons k ks ih => exact (keeps_expect k).bind fun _ => ih.bind fun _ => keeps_pure _

theorem shortens_expectAll {k : TokenKind} {ks : List TokenKind} (hk : k ≠ .finish) :
    Shortens (expectAll (k :: ks)) :=
  (shortens_expect hk).bind fun _ => (keeps_expectAll ks).bind fun _ => keeps_pure _

theorem shortens_openCommand : Shortens openCommand := shortens_expectAll (by decide)

theorem keeps_word : Keeps word := (keeps_expect .word).bind fun _ => keeps_pure _

theorem search_rest_length_le {breaks : List (List TokenKind)} {n : Nat}
    (rest read : List (Token × Cursor)) (behind : Cursor)
    (hrest : ∀ r ∈ rest, r.2.rest.length ≤ n) (hread : ∀ r ∈ read, r.2.rest.length ≤ n)
    (hbehind : behind.rest.length ≤ n) :
    (search breaks rest read behind).2.rest.length ≤ n := by
  induction rest generalizing read behind with
  | nil => exact hbehind
  | cons r rest ih =>
    have hall : ∀ s ∈ r :: read, s.2.rest.length ≤ n := by
      intro s hs
      rcases List.mem_cons.mp hs with rfl | hs
      · exact hrest _ List.mem_cons_self
      · exact hread s hs
    unfold search
    split
    · next b _ =>
      cases hm : ((r :: read).take b.length).getLast? with
      | none => simpa [hm] using hbehind
      | some s => simpa [hm] using hall s (List.mem_of_mem_take (List.mem_of_getLast? hm))
    · exact ih _ _ (fun s hs => hrest s (List.mem_cons_of_mem _ hs)) hall
        (Nat.le_trans r.2.advance_rest_length_le (hrest r List.mem_cons_self))

theorem keeps_readUntilAny (breaks : List (List TokenKind)) : Keeps (readUntilAny breaks) := by
  intro c ts d h
  unfold readUntilAny at h
  split at h
  · simp at h
  · simp only [Prod.mk.injEq] at h
    rw [← h.2]
    exact search_rest_length_le _ _ _ (fun r hr => Cursor.rest_length_le_of_mem_tokens hr)
      (by simp) (Nat.le_refl _)

theorem keeps_closeCommand : Keeps closeCommand := by
  intro c ts d h
  unfold closeCommand at h
  split at h
  · exact keeps_expectAll _ c ts d h
  · simp at h

end Document

end Weave
