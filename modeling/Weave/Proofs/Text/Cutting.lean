import Weave.Text

/-!
# Places in texts

The first place of a text at which something stands, and the text cut there.
-/

set_option autoImplicit false

namespace Weave

section

variable {α : Type} {p : List α → Prop}

/-- With `y` behind it, `p` holds nowhere within `x`. -/
def ClearOf (p : List α → Prop) (x y : List α) : Prop :=
  ∀ q, q <:+ x → q ≠ [] → ¬ p (q ++ y)

theorem clearOf_nil (y : List α) : ClearOf p [] y :=
  fun _ hq hne => absurd (List.suffix_nil.mp hq) hne

theorem clearOf_cons {a : α} {x y : List α} :
    ClearOf p (a :: x) y ↔ ¬ p (a :: (x ++ y)) ∧ ClearOf p x y := by
  constructor
  · intro h
    refine ⟨h (a :: x) List.suffix_rfl (by simp), fun q hq => ?_⟩
    exact h q (hq.trans (List.suffix_cons a x))
  · rintro ⟨ha, hx⟩ q hq hne
    rcases List.suffix_cons_iff.mp hq with rfl | hq
    · exact ha
    · exact hx q hq hne

theorem clearOf_append {x x' y : List α} :
    ClearOf p (x ++ x') y ↔ ClearOf p x (x' ++ y) ∧ ClearOf p x' y := by
  induction x with
  | nil => simp [clearOf_nil]
  | cons a x ih => simp [clearOf_cons, ih, and_assoc]

theorem ClearOf.mono {p' : List α → Prop} {x y : List α} (h : ClearOf p x y)
    (hp : ∀ u, p' u → p u) : ClearOf p' x y :=
  fun q hq hne hu => h q hq hne (hp _ hu)

/-- Whatever stands behind `x`, `p` holds nowhere within it. -/
def NeverIn (p : List α → Prop) (x : List α) : Prop := ∀ y, ClearOf p x y

theorem NeverIn.nil : NeverIn p [] := fun y => clearOf_nil y

theorem NeverIn.append {x x' : List α} (h : NeverIn p x) (h' : NeverIn p x') : NeverIn p (x ++ x') :=
  fun y => clearOf_append.mpr ⟨h (x' ++ y), h' y⟩

theorem NeverIn.flatMap {β : Type} {f : β → List α} {xs : List β} (h : ∀ b ∈ xs, NeverIn p (f b)) :
    NeverIn p (xs.flatMap f) := by
  induction xs with
  | nil => exact .nil
  | cons b xs ih =>
    obtain ⟨hb, hxs⟩ := List.forall_mem_cons.mp h
    rw [List.flatMap_cons]
    exact hb.append (ih hxs)

/-- A list of parts is clear if each part is, whatever of what may follow a part follows it. -/
theorem clearOf_intercalate_map {β : Type} {sep : List α} {f : β → List α} {R : List α → Prop}
    {Q : β → Prop} (hsep : NeverIn p sep) (hR : ∀ b y, R (sep ++ (f b ++ y)))
    (h : ∀ b y, R y → (ClearOf p (f b) y ↔ Q b)) (xs : List β) {y : List α} (hy : R y) :
    ClearOf p (List.intercalate sep (xs.map f)) y ↔ ∀ b ∈ xs, Q b := by
  induction xs with
  | nil => simpa using clearOf_nil y
  | cons b xs ih =>
    cases xs with
    | nil => simpa using h b y hy
    | cons b' xs =>
      obtain ⟨z, hz⟩ : ∃ z, List.intercalate sep ((b' :: xs).map f) = f b' ++ z := by
        cases xs with
        | nil => exact ⟨[], by simp⟩
        | cons b'' xs => exact ⟨_, by simp [List.intercalate_cons_cons]; rfl⟩
      have hnext : R (sep ++ (List.intercalate sep ((b' :: xs).map f) ++ y)) := by
        rw [hz, List.append_assoc]
        exact hR b' (z ++ y)
      rw [List.map_cons, List.map_cons, List.intercalate_cons_cons, List.append_assoc, clearOf_append,
        clearOf_append, ← List.map_cons, ih, List.append_assoc, h b _ hnext, List.forall_mem_cons]
      simp [hsep _]

theorem NeverIn.intercalate {sep : List α} {xs : List (List α)} (hsep : NeverIn p sep)
    (h : ∀ x ∈ xs, NeverIn p x) : NeverIn p (List.intercalate sep xs) := by
  induction xs with
  | nil => exact .nil
  | cons x xs ih =>
    obtain ⟨hx, hxs⟩ := List.forall_mem_cons.mp h
    cases xs with
    | nil => simpa using hx
    | cons x' xs =>
      rw [List.intercalate_cons_cons, List.append_assoc]
      exact hx.append (hsep.append (ih hxs))

/-- Every list is clear up to its end or up to a first place. -/
theorem exists_first (p : List α → Prop) (u : List α) :
    ∃ x y, u = x ++ y ∧ ClearOf p x y ∧ (y = [] ∨ p y) := by
  induction u with
  | nil => exact ⟨[], [], rfl, clearOf_nil _, .inl rfl⟩
  | cons a u ih =>
    by_cases h : p (a :: u)
    · exact ⟨[], a :: u, rfl, clearOf_nil _, .inr h⟩
    · obtain ⟨x, y, rfl, hx, hy⟩ := ih
      exact ⟨a :: x, y, rfl, clearOf_cons.mpr ⟨h, hx⟩, hy⟩

theorem prefix_of_prefix_append_cons {a : α} {d q v : List α} (ha : a ∉ d)
    (h : d <+: q ++ a :: v) : d <+: q := by
  induction q generalizing d with
  | nil =>
    cases d with
    | nil => exact List.nil_prefix
    | cons b d =>
      rw [List.nil_append, List.cons_prefix_cons] at h
      simp [h.1] at ha
  | cons b q ih =>
    cases d with
    | nil => exact List.nil_prefix
    | cons b' d =>
      rw [List.cons_append, List.cons_prefix_cons] at h
      exact List.cons_prefix_cons.mpr ⟨h.1, ih (fun hm => ha (List.mem_cons_of_mem _ hm)) h.2⟩

/-- What lacks a character does not reach over it. -/
theorem clearOf_of_not_isInfix {a : α} {d x : List α} (ha : a ∉ d) (h : ¬ d <:+: x) (y : List α) :
    ClearOf (d <+: ·) x (a :: y) := by
  intro q hq _ hd
  have hdq : d <+: q := prefix_of_prefix_append_cons ha hd
  exact h (hdq.isInfix.trans hq.isInfix)

end

namespace Text

theorem after?_append (start t : Text) : after? start (start ++ t) = some t := by
  induction start with
  | nil => cases t <;> rfl
  | cons c start ih => simp [after?, ih]

theorem eq_append_of_after? {start t rest : Text} (h : after? start t = some rest) :
    t = start ++ rest := by
  induction start generalizing t with
  | nil => simpa [after?] using h
  | cons s start ih =>
    cases t with
    | nil => simp [after?] at h
    | cons c t =>
      simp only [after?] at h
      split at h
      · next hc => rw [hc, ih h, List.cons_append]
      · simp at h

theorem after?_eq_none {start t : Text} (h : ¬ start <+: t) : after? start t = none := by
  rw [Option.eq_none_iff_forall_ne_some]
  intro rest hrest
  exact h ⟨rest, (eq_append_of_after? hrest).symm⟩

theorem cut?_append_self {mark : Text} (hm : mark ≠ []) (y : Text) :
    cut? mark (mark ++ y) = some ([], y) := by
  obtain ⟨c, mark, rfl⟩ := List.exists_cons_of_ne_nil hm
  have hafter := after?_append (c :: mark) y
  rw [List.cons_append] at hafter ⊢
  simp only [cut?, hafter]

/-- A text is cut behind the part in which the mark does not start. -/
theorem cut?_append_of_clear {mark x y : Text} (h : ClearOf (mark <+: ·) x y) :
    cut? mark (x ++ y) = (cut? mark y).map fun (before, rest) => (x ++ before, rest) := by
  induction x with
  | nil => simp
  | cons c x ih =>
    obtain ⟨hc, hx⟩ := clearOf_cons.mp h
    rw [List.cons_append, cut?, after?_eq_none hc, ih hx, Option.map_map]
    rfl

/-- A text is cut at the first occurrence of a character. -/
theorem cut?_singleton_eq_some_iff {mark : Char} {t before rest : Text} :
    cut? [mark] t = some (before, rest) ↔ t = before ++ mark :: rest ∧ mark ∉ before := by
  induction t generalizing before with
  | nil => simp [cut?]
  | cons c t ih =>
    by_cases hc : mark = c
    · cases before with
      | nil => simp [cut?, after?, hc]
      | cons b before => simp +contextual [cut?, after?, hc]
    · have hcut : cut? [mark] (c :: t) = (cut? [mark] t).map fun (before, rest) => (c :: before, rest) := by
        simp [cut?, after?, hc]
      rw [hcut, Option.map_eq_some_iff]
      constructor
      · rintro ⟨⟨b, r⟩, h, heq⟩
        cases heq
        obtain ⟨rfl, hb⟩ := ih.mp h
        exact ⟨rfl, List.not_mem_cons_of_ne_of_not_mem hc hb⟩
      · rintro ⟨heq, hb⟩
        cases before with
        | nil => exact absurd (List.cons.inj heq).1.symm hc
        | cons b before =>
          obtain ⟨rfl, rfl⟩ := List.cons.inj heq
          exact ⟨(before, rest), ih.mpr ⟨rfl, List.not_mem_of_not_mem_cons hb⟩, rfl⟩

theorem length_le_of_cut? {mark t before rest : Text} (h : cut? mark t = some (before, rest)) :
    rest.length + mark.length ≤ t.length := by
  induction t generalizing before with
  | nil =>
    rw [cut?] at h
    split at h <;> simp_all
  | cons c t ih =>
    rw [cut?] at h
    cases hafter : after? mark (c :: t) with
    | some r =>
      simp only [hafter, Option.some.injEq, Prod.mk.injEq] at h
      rw [eq_append_of_after? hafter, List.length_append, ← h.2]
      omega
    | none =>
      simp only [hafter, Option.map_eq_some_iff, Prod.mk.injEq] at h
      obtain ⟨⟨b, r⟩, hcut, -, hr⟩ := h
      dsimp only at hr
      subst hr
      have hlen : r.length + mark.length ≤ t.length := ih hcut
      rw [List.length_cons]
      omega

/-- A mark within the front of a text is found within it. -/
theorem exists_cut?_of_isInfix {mark t : Text} (hm : mark ≠ []) (h : mark <:+: t) (u : Text) :
    ∃ before rest, cut? mark (t ++ u) = some (before, rest) ∧ before.length < t.length := by
  induction t with
  | nil => exact absurd (List.infix_nil.mp h) hm
  | cons c t ih =>
    rw [List.cons_append, cut?]
    cases hafter : after? mark (c :: (t ++ u)) with
    | some rest => exact ⟨[], rest, rfl, by simp⟩
    | none =>
      rcases List.infix_cons_iff.mp h with ⟨rest, hrest⟩ | ht
      · have := after?_append mark (rest ++ u)
        rw [← List.append_assoc, hrest, List.cons_append, hafter] at this
        cases this
      · obtain ⟨before, rest, hcut, hlen⟩ := ih ht
        exact ⟨c :: before, rest, by rw [hcut]; rfl, by simpa using hlen⟩

theorem takeWhile_ne_append {mark : Char} {x : Text} (h : mark ∉ x) (y : Text) :
    (x ++ mark :: y).takeWhile (· ≠ mark) = x := by
  induction x with
  | nil => simp
  | cons c x ih =>
    obtain ⟨hc, hx⟩ : mark ≠ c ∧ mark ∉ x := by simpa using h
    simpa [hc.symm] using ih hx

theorem dropWhile_ne_append {mark : Char} {x : Text} (h : mark ∉ x) (y : Text) :
    (x ++ mark :: y).dropWhile (· ≠ mark) = mark :: y := by
  induction x with
  | nil => simp
  | cons c x ih =>
    obtain ⟨hc, hx⟩ : mark ≠ c ∧ mark ∉ x := by simpa using h
    simpa [hc.symm] using ih hx

end Text

end Weave
