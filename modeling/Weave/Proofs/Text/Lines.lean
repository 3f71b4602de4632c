import Mathlib.Data.List.DropRight
import Weave.Text

/-!
# Lines and blanks

A text is cut into lines from its front: behind the characters that end a line, of which a carriage
return and the line feed behind it count as one. Whatever ends a line is a blank, and blanks at the
ends of a text or of its lines do not change what is left of them.
-/

set_option autoImplicit false

namespace Weave.Text

/-! ### Blanks at the ends -/

theorem dropEndWhile_cons (p : Char → Bool) (c : Char) (t : Text) :
    dropEndWhile p (c :: t) = if p c ∧ dropEndWhile p t = [] then [] else c :: dropEndWhile p t := by
  simp only [dropEndWhile, List.reverse_cons, List.dropWhile_append, List.isEmpty_iff,
    List.reverse_eq_nil_iff]
  by_cases ht : t.reverse.dropWhile p = []
  · by_cases hc : p c
    · simp [ht, hc]
    · simp [ht, hc]
  · simp [ht]

theorem isBlankText_cons {c : Char} {t : Text} :
    isBlankText (c :: t) = true ↔ isBlank c = true ∧ isBlankText t = true := by
  simp [isBlankText]

theorem isBlankText_crlf (r : Text) : isBlankText ('\r' :: '\n' :: r) = isBlankText r := rfl

theorem trimEnd_nil : trimEnd [] = [] := rfl

theorem trimEnd_eq_nil_iff {t : Text} : trimEnd t = [] ↔ isBlankText t = true := by
  have h : t.rdropWhile isBlank = [] ↔ ∀ c ∈ t, isBlank c = true := List.rdropWhile_eq_nil_iff
  rw [isBlankText, List.all_eq_true]
  exact h

theorem trimEnd_cons (c : Char) (t : Text) :
    trimEnd (c :: t) = if isBlank c ∧ trimEnd t = [] then [] else c :: trimEnd t :=
  dropEndWhile_cons isBlank c t

theorem trimEnd_cons_of_not_isBlankText {c : Char} {t : Text} (h : ¬ isBlankText (c :: t) = true) :
    trimEnd (c :: t) = c :: trimEnd t := by
  rw [trimEnd_cons, if_neg]
  rintro ⟨hc, ht⟩
  exact h (isBlankText_cons.mpr ⟨hc, trimEnd_eq_nil_iff.mp ht⟩)

theorem trimEnd_cons_congr {t u : Text} (c : Char) (h : trimEnd t = trimEnd u) :
    trimEnd (c :: t) = trimEnd (c :: u) := by
  rw [trimEnd_cons, trimEnd_cons, h]

theorem trim_cons_of_isBlank {c : Char} (hc : isBlank c = true) (t : Text) : trim (c :: t) = trim t := by
  simp [trim, trimWhile, hc]

theorem trim_cons_of_not_isBlank {c : Char} (hc : ¬ isBlank c = true) (t : Text) :
    trim (c :: t) = c :: trimEnd t := by
  have htrim : trim (c :: t) = trimEnd (c :: t) := by simp [trim, trimWhile, trimEnd, hc]
  rw [htrim, trimEnd_cons, if_neg fun h => hc h.1]

/-- Blanks are taken off the front and the end in any order. -/
theorem trim_eq_of_trimEnd {t u : Text} (h : trimEnd t = trimEnd u) : trim t = trim u := by
  have hswap : ∀ t, trim t = trimStart (trimEnd t) := by
    intro t
    induction t with
    | nil => rfl
    | cons c t ih =>
      by_cases hc : isBlank c = true
      · rw [trim_cons_of_isBlank hc, ih, trimEnd_cons]
        by_cases ht : trimEnd t = []
        · rw [if_pos ⟨hc, ht⟩, ht]
        · rw [if_neg fun h => ht h.2]
          simp [trimStart, hc]
      · rw [trim_cons_of_not_isBlank hc, trimEnd_cons, if_neg fun h => hc h.1]
        simp [trimStart, hc]
  rw [hswap, hswap, h]

theorem trim_eq_nil_iff {t : Text} : trim t = [] ↔ isBlankText t = true := by
  induction t with
  | nil => simp [trim, trimWhile, dropEndWhile, isBlankText]
  | cons c t ih =>
    by_cases hc : isBlank c = true
    · rw [trim_cons_of_isBlank hc, ih]
      simp [isBlankText, hc]
    · rw [trim_cons_of_not_isBlank hc]
      simp [isBlankText, hc]

theorem trim_append_of_isBlankText {u : Text} (hu : isBlankText u = true) (t : Text) :
    trim (t ++ u) = trim t := by
  apply trim_eq_of_trimEnd
  induction t with
  | nil => exact trimEnd_eq_nil_iff.mpr hu
  | cons c t ih => exact trimEnd_cons_congr c ih

/-! ### Cutting -/

/-- A text goes on behind a carriage return with its line feed, or behind any other character. -/
theorem line_induction {P : Text → Prop} (nil : P []) (crlf : ∀ r, P r → P ('\r' :: '\n' :: r))
    (cons : ∀ c r, ¬ (c = '\r' ∧ r.head? = some '\n') → P r → P (c :: r)) : ∀ t, P t
  | [] => nil
  | [c] => cons c [] (by simp) nil
  | c :: d :: r =>
    if h : c = '\r' ∧ d = '\n' then h.1 ▸ h.2 ▸ crlf r (line_induction nil crlf cons r)
    else cons c (d :: r) (by simpa using h) (line_induction nil crlf cons (d :: r))

section

variable {ends : Char → Bool} {c : Char} {r : Text}

theorem cutLines_crlf (ends : Char → Bool) (r : Text) :
    cutLines ends ('\r' :: '\n' :: r) = ⟨[], ['\r', '\n']⟩ :: cutLines ends r := by
  rw [cutLines]

theorem cutLines_cons (hcr : ¬ (c = '\r' ∧ r.head? = some '\n')) :
    cutLines ends (c :: r) =
      if ends c then ⟨[], [c]⟩ :: cutLines ends r
      else match cutLines ends r with
        | [] => [⟨[c], []⟩]
        | l :: ls => ⟨c :: l.body, l.ending⟩ :: ls := by
  rw [cutLines.eq_def]
  split
  · contradiction
  · next heq =>
    cases heq
    simp at hcr
  · next heq =>
    cases heq
    rfl

theorem cutLines_end (hcr : ¬ (c = '\r' ∧ r.head? = some '\n')) (hc : ends c = true) :
    cutLines ends (c :: r) = ⟨[], [c]⟩ :: cutLines ends r := by
  rw [cutLines_cons hcr, if_pos hc]

theorem cutLines_ne_nil (ends : Char → Bool) {t : Text} (h : t ≠ []) : cutLines ends t ≠ [] := by
  induction t using line_induction with
  | nil => exact absurd rfl h
  | crlf r => simp [cutLines_crlf]
  | cons c r hcr =>
    rw [cutLines_cons hcr]
    split
    · exact List.cons_ne_nil _ _
    · split <;> exact List.cons_ne_nil _ _

/-- A text is cut behind a newline, whatever stands in front of that. -/
theorem cutLines_append_newline (hn : ends '\n' = true) (t u : Text) :
    cutLines ends (t ++ '\n' :: u) = cutLines ends (t ++ ['\n']) ++ cutLines ends u := by
  induction t using line_induction with
  | nil =>
    have hcr (r : Text) : ¬ ('\n' = '\r' ∧ r.head? = some '\n') := by
      rintro ⟨h, -⟩
      exact absurd h (by decide)
    rw [List.nil_append, List.nil_append, cutLines_end (hcr u) hn, cutLines_end (hcr []) hn]
    simp [cutLines]
  | crlf r ih =>
    simp only [List.cons_append, cutLines_crlf, ih]
  | cons c r hcr ih =>
    rw [List.cons_append, List.cons_append]
    by_cases hreturn : c = '\r' ∧ r = []
    · -- the newline belongs to the carriage return in front of it
      obtain ⟨rfl, rfl⟩ := hreturn
      simp only [List.nil_append, cutLines_crlf]
      simp [cutLines]
    · have hcr' (v : Text) : ¬ (c = '\r' ∧ (r ++ '\n' :: v).head? = some '\n') := by
        cases r with
        | nil => simpa using hreturn
        | cons d r => simpa using hcr
      rw [cutLines_cons (hcr' u), cutLines_cons (hcr' []), ih]
      split
      · rfl
      · have hne : r ++ ['\n'] ≠ [] := by simp
        obtain ⟨l, ls, hls⟩ := List.exists_cons_of_ne_nil (cutLines_ne_nil ends hne)
        rw [hls]
        rfl

end

/-- Both a line feed and a carriage return end a line, and only blanks do. -/
structure EndsLines (ends : Char → Bool) : Prop where
  newline : ends '\n' = true
  return_ : ends '\r' = true
  blank : ∀ c, ends c = true → isBlank c = true

theorem endsLines_isLineEnd : EndsLines isLineEnd where
  newline := rfl
  return_ := rfl
  blank := by
    intro c hc
    simp only [isLineEnd, isBlank, Bool.or_eq_true, Bool.and_eq_true, decide_eq_true_eq,
      beq_iff_eq] at hc ⊢
    omega

theorem EndsLines.cutLines_cons {ends : Char → Bool} {c : Char} (he : EndsLines ends)
    (hc : ¬ ends c = true) (r : Text) :
    cutLines ends (c :: r) = match cutLines ends r with
      | [] => [⟨[c], []⟩]
      | l :: ls => ⟨c :: l.body, l.ending⟩ :: ls := by
  have hcr : ¬ (c = '\r' ∧ r.head? = some '\n') := by
    rintro ⟨rfl, -⟩
    exact hc he.return_
  rw [Text.cutLines_cons hcr, if_neg hc]

theorem isLineEnd_of_isProgramLineEnd {c : Char} (hc : isProgramLineEnd c = true) :
    isLineEnd c = true := by
  simp only [isProgramLineEnd, Bool.or_eq_true, beq_iff_eq] at hc
  rcases hc with rfl | rfl <;> rfl

theorem endsLines_isProgramLineEnd : EndsLines isProgramLineEnd where
  newline := rfl
  return_ := rfl
  blank c hc := endsLines_isLineEnd.blank c (isLineEnd_of_isProgramLineEnd hc)

theorem lines_of_isLineEnd {c : Char} {r : Text} (hcr : ¬ (c = '\r' ∧ r.head? = some '\n'))
    (hc : isLineEnd c = true) : lines (c :: r) = [] :: lines r := by
  rw [lines, cutLines_end hcr hc]
  rfl

theorem lines_of_not_isLineEnd {c : Char} (hc : ¬ isLineEnd c = true) (r : Text) :
    lines (c :: r) = match lines r with
      | [] => [[c]]
      | l :: ls => (c :: l) :: ls := by
  rw [lines, lines, endsLines_isLineEnd.cutLines_cons hc]
  cases cutLines isLineEnd r <;> rfl

/-- A newline ends the last line of a text. Behind a line end it makes one more line, but for the
carriage return that it belongs to. -/
theorem lines_append_newline (t : Text) :
    lines (t ++ ['\n']) = lines t ∨ lines (t ++ ['\n']) = lines t ++ [[]] := by
  induction t using line_induction with
  | nil => exact .inr rfl
  | crlf r ih =>
    have hcrlf (u : Text) : lines ('\r' :: '\n' :: u) = [] :: lines u := by
      rw [lines, cutLines_crlf]
      rfl
    rw [List.cons_append, List.cons_append, hcrlf, hcrlf]
    rcases ih with ih | ih
    · exact .inl (congrArg _ ih)
    · exact .inr (congrArg _ ih)
  | cons c r hcr ih =>
    rw [List.cons_append]
    by_cases hreturn : c = '\r' ∧ r = []
    · obtain ⟨rfl, rfl⟩ := hreturn
      exact .inl rfl
    by_cases hc : isLineEnd c = true
    · have hcr' : ¬ (c = '\r' ∧ (r ++ ['\n']).head? = some '\n') := by
        cases r with
        | nil => simpa using hreturn
        | cons d r => simpa using hcr
      rw [lines_of_isLineEnd hcr hc, lines_of_isLineEnd hcr' hc]
      rcases ih with ih | ih
      · exact .inl (congrArg _ ih)
      · exact .inr (congrArg _ ih)
    · rw [lines_of_not_isLineEnd hc, lines_of_not_isLineEnd hc]
      rcases ih with ih | ih
      · rw [ih]
        exact .inl rfl
      · rw [ih]
        cases lines r with
        | nil => exact .inl rfl
        | cons l ls => exact .inr rfl

theorem lines_append_blank (t u : Text) :
    lines (t ++ '\n' :: '\n' :: u) = lines (t ++ ['\n']) ++ [] :: lines u := by
  have hcr : ¬ ('\n' = '\r' ∧ u.head? = some '\n') := by
    rintro ⟨h, -⟩
    exact absurd h (by decide)
  have hblank : lines ('\n' :: u) = [] :: lines u := lines_of_isLineEnd hcr rfl
  rw [← hblank, lines, cutLines_append_newline rfl, List.map_append]
  rfl

/-- What a line holds; behind the last line there is nothing. -/
def lineAt (ends : Char → Bool) (t : Text) (n : Nat) : Text :=
  (((cutLines ends t)[n]?).map Line.body).getD []

section

variable {ends : Char → Bool} {c : Char} {r t : Text}

theorem lineAt_nil (ends : Char → Bool) (n : Nat) : lineAt ends [] n = [] := by
  simp [lineAt, cutLines]

theorem lineAt_crlf_zero (ends : Char → Bool) (r : Text) : lineAt ends ('\r' :: '\n' :: r) 0 = [] := by
  rw [lineAt, cutLines_crlf]
  rfl

theorem lineAt_crlf_succ (ends : Char → Bool) (r : Text) (n : Nat) :
    lineAt ends ('\r' :: '\n' :: r) (n + 1) = lineAt ends r n := by
  rw [lineAt, cutLines_crlf]
  rfl

theorem lineAt_end_zero (hc : ends c = true) (r : Text) : lineAt ends (c :: r) 0 = [] := by
  by_cases hcr : c = '\r' ∧ r.head? = some '\n'
  · obtain ⟨rfl, hr⟩ := hcr
    obtain ⟨r, rfl⟩ := List.head?_eq_some_iff.mp hr
    exact lineAt_crlf_zero ends r
  · rw [lineAt, cutLines_end hcr hc]
    rfl

theorem lineAt_end_succ (hcr : ¬ (c = '\r' ∧ r.head? = some '\n')) (hc : ends c = true) (n : Nat) :
    lineAt ends (c :: r) (n + 1) = lineAt ends r n := by
  rw [lineAt, cutLines_end hcr hc]
  rfl

theorem EndsLines.lineAt_zero (he : EndsLines ends) (hc : ¬ ends c = true) (r : Text) :
    lineAt ends (c :: r) 0 = c :: lineAt ends r 0 := by
  rw [lineAt, lineAt, he.cutLines_cons hc]
  cases cutLines ends r <;> rfl

theorem EndsLines.lineAt_succ (he : EndsLines ends) (hc : ¬ ends c = true) (r : Text) (n : Nat) :
    lineAt ends (c :: r) (n + 1) = lineAt ends r (n + 1) := by
  rw [lineAt, lineAt, he.cutLines_cons hc]
  cases cutLines ends r <;> simp

/-- A blank at the front that ends no line is gone with the others when a line is trimmed. -/
theorem EndsLines.trim_lineAt_cons (he : EndsLines ends) (hc : ¬ ends c = true)
    (hb : isBlank c = true) (r : Text) (n : Nat) :
    trim (lineAt ends (c :: r) n) = trim (lineAt ends r n) := by
  cases n with
  | zero => rw [he.lineAt_zero hc, trim_cons_of_isBlank hb]
  | succ n => rw [he.lineAt_succ hc]

theorem EndsLines.trim_lineAt_append (he : EndsLines ends) {b : Text} (hends : ∀ c ∈ b, ¬ ends c = true)
    (hb : ∀ c ∈ b, isBlank c = true) (t : Text) (n : Nat) :
    trim (lineAt ends (b ++ t) n) = trim (lineAt ends t n) := by
  induction b with
  | nil => rfl
  | cons c b ih =>
    obtain ⟨hc, hends⟩ := List.forall_mem_cons.mp hends
    obtain ⟨hcb, hb⟩ := List.forall_mem_cons.mp hb
    rw [List.cons_append, he.trim_lineAt_cons hc hcb, ih hends hb]

/-- Lines behind blanks among which one ends a line begin with an empty one. -/
theorem EndsLines.trim_lineAt_zero_append (he : EndsLines ends) {b : Text}
    (hends : ∃ c ∈ b, ends c = true) (hb : ∀ c ∈ b, isBlank c = true) (t : Text) :
    trim (lineAt ends (b ++ t) 0) = [] := by
  induction b with
  | nil =>
    obtain ⟨c, hc, -⟩ := hends
    cases hc
  | cons c b ih =>
    obtain ⟨hcb, hb⟩ := List.forall_mem_cons.mp hb
    by_cases hc : ends c = true
    · rw [List.cons_append, lineAt_end_zero hc]
      rfl
    · rw [List.cons_append, he.trim_lineAt_cons hc hcb]
      refine ih ?_ hb
      obtain ⟨d, hd, hend⟩ := hends
      rcases List.mem_cons.mp hd with rfl | hd
      · exact absurd hend hc
      · exact ⟨d, hd, hend⟩

theorem EndsLines.trimEnd_lineAt_of_isBlankText (he : EndsLines ends) (ht : isBlankText t = true)
    (n : Nat) : trimEnd (lineAt ends t n) = [] := by
  induction t using line_induction generalizing n with
  | nil => rw [lineAt_nil, trimEnd_nil]
  | crlf r ih =>
    rw [isBlankText_crlf] at ht
    cases n with
    | zero => rw [lineAt_crlf_zero, trimEnd_nil]
    | succ n => rw [lineAt_crlf_succ, ih ht]
  | cons c r hcr ih =>
    obtain ⟨hb, hr⟩ := isBlankText_cons.mp ht
    by_cases hc : ends c = true
    · cases n with
      | zero => rw [lineAt_end_zero hc, trimEnd_nil]
      | succ n => rw [lineAt_end_succ hcr hc, ih hr]
    · cases n with
      | zero => rw [he.lineAt_zero hc, trimEnd_cons, if_pos ⟨hb, ih hr 0⟩]
      | succ n => rw [he.lineAt_succ hc, ih hr]

theorem EndsLines.isBlankText_lineAt_cons (he : EndsLines ends) (hc : ¬ ends c = true) (r : Text)
    (n : Nat) : isBlankText (lineAt ends (c :: r) n) = true ↔
      (n = 0 → isBlank c = true) ∧ isBlankText (lineAt ends r n) = true := by
  cases n with
  | zero => simp [he.lineAt_zero hc, isBlankText_cons]
  | succ n => simp [he.lineAt_succ hc]

theorem EndsLines.exists_lineAt (he : EndsLines ends) (ht : ¬ isBlankText t = true) :
    ∃ n, ¬ isBlankText (lineAt ends t n) = true := by
  induction t using line_induction with
  | nil => exact absurd rfl ht
  | crlf r ih =>
    rw [isBlankText_crlf] at ht
    obtain ⟨n, hn⟩ := ih ht
    exact ⟨n + 1, by rwa [lineAt_crlf_succ]⟩
  | cons c r hcr ih =>
    by_cases hr : isBlankText r = true
    · have hb : ¬ isBlank c = true := fun hb => ht (isBlankText_cons.mpr ⟨hb, hr⟩)
      have hc : ¬ ends c = true := fun hc => hb (he.blank c hc)
      refine ⟨0, fun hblank => hb ?_⟩
      exact ((he.isBlankText_lineAt_cons hc r 0).mp hblank).1 rfl
    · obtain ⟨n, hn⟩ := ih hr
      by_cases hc : ends c = true
      · exact ⟨n + 1, by rwa [lineAt_end_succ hcr hc]⟩
      · exact ⟨n, fun hblank => hn ((he.isBlankText_lineAt_cons hc r n).mp hblank).2⟩

/-- Blanks at the end of a text do not change its lines but for the blanks at their ends. -/
theorem EndsLines.trimEnd_lineAt_trimEnd (he : EndsLines ends) (t : Text) (n : Nat) :
    trimEnd (lineAt ends (trimEnd t) n) = trimEnd (lineAt ends t n) := by
  have hblank {t : Text} (ht : isBlankText t = true) (n : Nat) :
      trimEnd (lineAt ends (trimEnd t) n) = trimEnd (lineAt ends t n) := by
    rw [trimEnd_eq_nil_iff.mpr ht, lineAt_nil, he.trimEnd_lineAt_of_isBlankText ht, trimEnd_nil]
  induction t using line_induction generalizing n with
  | nil => rfl
  | crlf r ih =>
    by_cases hr : isBlankText r = true
    · exact hblank (by rwa [isBlankText_crlf]) n
    · have htrim : trimEnd ('\r' :: '\n' :: r) = '\r' :: '\n' :: trimEnd r := by
        have hne := mt trimEnd_eq_nil_iff.mp hr
        simp [trimEnd_cons, hne]
      rw [htrim]
      cases n with
      | zero => rw [lineAt_crlf_zero, lineAt_crlf_zero]
      | succ n => rw [lineAt_crlf_succ, lineAt_crlf_succ, ih]
  | cons c r hcr ih =>
    by_cases hr : isBlankText (c :: r) = true
    · exact hblank hr n
    · rw [trimEnd_cons_of_not_isBlankText hr]
      by_cases hc : ends c = true
      · have hcr' : ¬ (c = '\r' ∧ (trimEnd r).head? = some '\n') := by
          rintro ⟨hreturn, hhead⟩
          obtain ⟨u, hu⟩ := List.head?_eq_some_iff.mp hhead
          obtain ⟨v, hv⟩ : trimEnd r <+: r := List.rdropWhile_prefix isBlank r
          refine hcr ⟨hreturn, ?_⟩
          rw [← hv, hu]
          rfl
        cases n with
        | zero => rw [lineAt_end_zero hc, lineAt_end_zero hc]
        | succ n => rw [lineAt_end_succ hcr' hc, lineAt_end_succ hcr hc, ih]
      · cases n with
        | zero =>
          rw [he.lineAt_zero hc, he.lineAt_zero hc]
          exact trimEnd_cons_congr c (ih 0)
        | succ n => rw [he.lineAt_succ hc, he.lineAt_succ hc, ih]

end

end Weave.Text
