import Weave.Proofs.Latex.Verbatim

/-!
# Classes of lines

Outside of fences a line is a heading, a list item, blank or text. Which it is follows from its first
character that is not blank and from what stands behind that: every line is in exactly one class.
-/

set_option autoImplicit false

namespace Weave.Latex

/-- One blank or more, and then a text that does not begin with one. -/
def Spaced (u v : Text) : Prop :=
  (∃ blanks, blanks ≠ [] ∧ (∀ c ∈ blanks, Text.isBlank c = true) ∧ u = blanks ++ v) ∧
    ∀ c ∈ v.head?, Text.isBlank c = false

def IsHeading (t : Text) (level : Nat) (title : Text) : Prop :=
  1 ≤ level ∧ level ≤ 3 ∧ ∃ u, t = List.replicate level '#' ++ u ∧ Spaced u title

def IsItem (t i : Text) : Prop :=
  ∃ indent bullet u, (∀ c ∈ indent, Text.isBlank c = true) ∧ bullet ∈ ['-', '*', '+'] ∧
    t = indent ++ bullet :: u ∧ Spaced u i

/-- The line is in a class, and holds what the class keeps of it. -/
def Reads (t : Text) : Line → Prop
  | .fence => "```".toList <+: t
  | .heading level title => IsHeading t level title
  | .item i => IsItem t i
  | .blank => ∀ c ∈ t, Text.isBlank c = true
  | .paragraph p =>
    (¬ "```".toList <+: t ∧ (∀ level title, ¬ IsHeading t level title) ∧ (∀ i, ¬ IsItem t i) ∧
      ∃ c ∈ t, Text.isBlank c = false) ∧ p = Text.trim t

variable {t u v i title : Text} {level : Nat} {l l' : Line}

/-! ### Blanks at the front -/

theorem head?_trimStart (t : Text) : ∀ c ∈ (Text.trimStart t).head?, Text.isBlank c = false := by
  intro c hc
  have hnot := List.head?_dropWhile_not Text.isBlank t
  rw [Text.trimStart, Option.mem_def] at hc
  rw [hc] at hnot
  simpa using hnot

theorem trimStart_append {blanks : Text} (hb : ∀ c ∈ blanks, Text.isBlank c = true)
    (hv : ∀ c ∈ v.head?, Text.isBlank c = false) : Text.trimStart (blanks ++ v) = v := by
  rw [Text.trimStart, List.dropWhile_append_of_pos hb]
  cases v with
  | nil => rfl
  | cons c v => simp [hv c rfl]

theorem spaced_iff : Spaced u v ↔ ∃ c r, u = c :: r ∧ Text.isBlank c = true ∧ v = Text.trimStart r := by
  constructor
  · rintro ⟨⟨blanks, hne, hb, rfl⟩, hv⟩
    obtain ⟨c, blanks, rfl⟩ := List.exists_cons_of_ne_nil hne
    refine ⟨c, blanks ++ v, rfl, hb c List.mem_cons_self, ?_⟩
    exact (trimStart_append (fun d hd => hb d (List.mem_cons_of_mem c hd)) hv).symm
  · rintro ⟨c, r, rfl, hc, rfl⟩
    refine ⟨⟨c :: r.takeWhile Text.isBlank, by simp, ?_, ?_⟩, head?_trimStart r⟩
    · intro d hd
      rcases List.mem_cons.mp hd with rfl | hd
      · exact hc
      · exact List.all_eq_true.mp List.all_takeWhile d hd
    · rw [Text.trimStart, List.cons_append, List.takeWhile_append_dropWhile]

/-! ### Headings and items -/

theorem exists_replicate (t : Text) :
    ∃ n u, t = List.replicate n '#' ++ u ∧ u.head? ≠ some '#' := by
  refine ⟨(t.takeWhile (· == '#')).length, t.dropWhile (· == '#'), ?_, ?_⟩
  · have hall : t.takeWhile (· == '#') = List.replicate (t.takeWhile (· == '#')).length '#' := by
      apply List.eq_replicate_of_mem
      intro c hc
      simpa using List.all_eq_true.mp List.all_takeWhile c hc
    rw [← hall, List.takeWhile_append_dropWhile]
  · intro h
    have hnot := List.head?_dropWhile_not (· == '#') t
    rw [h] at hnot
    simp at hnot

theorem heading?_replicate (n : Nat) : heading? (List.replicate n '#') = none := by
  simp [heading?]

theorem heading?_replicate_append {c : Char} (hc : c ≠ '#') (n : Nat) (r : Text) :
    heading? (List.replicate n '#' ++ c :: r) =
      if 1 ≤ n && n ≤ 3 && Text.isBlank c then some (n, Text.trimStart r) else none := by
  have hlevel : ((List.replicate n '#' ++ c :: r).takeWhile (· == '#')).length = n := by
    rw [List.takeWhile_append_of_pos (by simp)]
    simp [hc]
  rw [heading?]
  simp only [hlevel]
  rw [List.drop_left' (by simp)]

theorem heading?_eq_some_iff : heading? t = some (level, title) ↔ IsHeading t level title := by
  constructor
  · intro h
    obtain ⟨n, u, rfl, hu⟩ := exists_replicate t
    cases u with
    | nil =>
      rw [List.append_nil, heading?_replicate] at h
      cases h
    | cons c r =>
      have hc : c ≠ '#' := by simpa using hu
      rw [heading?_replicate_append hc] at h
      split at h
      · next hclass =>
        obtain ⟨rfl, rfl⟩ : n = level ∧ Text.trimStart r = title := by simpa using h
        simp only [Bool.and_eq_true, decide_eq_true_eq] at hclass
        obtain ⟨⟨hpos, hle⟩, hblank⟩ := hclass
        exact ⟨hpos, hle, c :: r, rfl, spaced_iff.mpr ⟨c, r, rfl, hblank, rfl⟩⟩
      · cases h
  · rintro ⟨hpos, hle, u, rfl, hu⟩
    obtain ⟨c, r, rfl, hblank, rfl⟩ := spaced_iff.mp hu
    have hc : c ≠ '#' := by
      rintro rfl
      exact absurd hblank (by decide)
    rw [heading?_replicate_append hc]
    simp [hpos, hle, hblank]

theorem item?_eq_some_iff : item? t = some i ↔ IsItem t i := by
  constructor
  · intro h
    unfold item? at h
    split at h
    · next b c r htrim =>
      split at h
      · next hclass =>
        obtain rfl : Text.trimStart r = i := by simpa using h
        refine ⟨t.takeWhile Text.isBlank, b, c :: r, ?_, ?_, ?_, ?_⟩
        · exact fun d hd => List.all_eq_true.mp List.all_takeWhile d hd
        · simpa [or_assoc] using (Bool.and_eq_true_iff.mp hclass).1
        · rw [← htrim, Text.trimStart, List.takeWhile_append_dropWhile]
        · exact spaced_iff.mpr ⟨c, r, rfl, (Bool.and_eq_true_iff.mp hclass).2, rfl⟩
      · cases h
    · cases h
  · rintro ⟨indent, b, u, hindent, hb, rfl, hu⟩
    obtain ⟨c, r, rfl, hblank, rfl⟩ := spaced_iff.mp hu
    have htrim : Text.trimStart (indent ++ b :: c :: r) = b :: c :: r := by
      apply trimStart_append hindent
      rintro d ⟨⟩
      simp only [List.mem_cons, List.not_mem_nil, or_false] at hb
      rcases hb with rfl | rfl | rfl <;> decide
    have hbullet : (b = '-' || b = '*' || b = '+') = true := by simpa [or_assoc] using hb
    rw [item?, htrim]
    simp only [hbullet, hblank, Bool.and_self, if_true]

/-! ### One class -/

def lead? (t : Text) : Option Char := (Text.trimStart t).head?

theorem lead?_cons {c : Char} (hc : Text.isBlank c = false) (r : Text) : lead? (c :: r) = some c := by
  simp [lead?, Text.trimStart, hc]

theorem lead?_of_fence (h : "```".toList <+: t) : lead? t = some '\x60' := by
  obtain ⟨r, rfl⟩ := h
  exact lead?_cons (by decide) _

theorem IsHeading.lead? (h : IsHeading t level title) : Latex.lead? t = some '#' := by
  obtain ⟨hpos, -, u, rfl, -⟩ := h
  obtain ⟨n, rfl⟩ := Nat.exists_eq_add_of_le' hpos
  rw [List.replicate_succ, List.cons_append]
  exact lead?_cons (by decide) _

theorem IsItem.lead? (h : IsItem t i) : ∃ b ∈ ['-', '*', '+'], Latex.lead? t = some b := by
  obtain ⟨indent, b, u, hindent, hb, rfl, -⟩ := h
  refine ⟨b, hb, ?_⟩
  have hblank : Text.isBlank b = false := by
    simp only [List.mem_cons, List.not_mem_nil, or_false] at hb
    rcases hb with rfl | rfl | rfl <;> decide
  rw [Latex.lead?, trimStart_append hindent (by simpa using hblank)]
  rfl

theorem lead?_eq_none (h : ∀ c ∈ t, Text.isBlank c = true) : lead? t = none := by
  have htrim : Text.trimStart (t ++ []) = [] := trimStart_append h (by simp)
  rw [lead?, ← List.append_nil t, htrim]
  rfl

theorem startsWith_fence_eq_false (h : lead? t ≠ some '\x60') :
    Text.startsWith t fenceMark = false := by
  rw [Bool.eq_false_iff]
  intro hfence
  exact h (lead?_of_fence (List.isPrefixOf_iff_prefix.mp hfence))

theorem heading?_eq_none (h : lead? t ≠ some '#') : heading? t = none := by
  rw [Option.eq_none_iff_forall_ne_some]
  rintro ⟨level, title⟩ hheading
  exact h (heading?_eq_some_iff.mp hheading).lead?

theorem item?_eq_none (h : ∀ b ∈ ['-', '*', '+'], lead? t ≠ some b) : item? t = none := by
  rw [Option.eq_none_iff_forall_ne_some]
  intro i hitem
  obtain ⟨b, hb, hlead⟩ := (item?_eq_some_iff.mp hitem).lead?
  exact h b hb hlead

theorem reads_classify (t : Text) : Reads t (classify t) := by
  unfold classify
  split
  · next h => exact List.isPrefixOf_iff_prefix.mp h
  · next hfence =>
    cases hheading : heading? t with
    | some p => exact heading?_eq_some_iff.mp hheading
    | none =>
      cases hitem : item? t with
      | some i => exact item?_eq_some_iff.mp hitem
      | none =>
        dsimp only
        split
        · next hb => exact List.all_eq_true.mp hb
        · next hb =>
          refine ⟨⟨?_, ?_, ?_, ?_⟩, rfl⟩
          · exact fun h => hfence (List.isPrefixOf_iff_prefix.mpr h)
          · intro level title h
            rw [heading?_eq_some_iff.mpr h] at hheading
            cases hheading
          · intro i h
            rw [item?_eq_some_iff.mpr h] at hitem
            cases hitem
          · simpa using List.all_eq_false.mp (Bool.eq_false_iff.mpr hb)

/-- A line is in one class, and that is the one it is read as. -/
theorem classify_eq_iff : classify t = l ↔ Reads t l := by
  constructor
  · rintro rfl
    exact reads_classify t
  · intro h
    cases l with
    | fence =>
      have hfence : Text.startsWith t fenceMark = true := List.isPrefixOf_iff_prefix.mpr h
      rw [classify, if_pos hfence]
    | heading level title =>
      have hlead := IsHeading.lead? h
      simp [classify, startsWith_fence_eq_false, hlead, heading?_eq_some_iff.mpr h]
    | item i =>
      obtain ⟨b, hb, hlead⟩ := IsItem.lead? h
      have hother : ∀ c, c ∉ ['-', '*', '+'] → lead? t ≠ some c := by
        rintro c hc hsame
        obtain rfl : b = c := Option.some.inj (hlead.symm.trans hsame)
        exact hc hb
      simp [classify, startsWith_fence_eq_false (hother _ (by decide)),
        heading?_eq_none (hother _ (by decide)), item?_eq_some_iff.mpr h]
    | blank =>
      have hlead := lead?_eq_none h
      have hblank : Text.isBlankText t = true := List.all_eq_true.mpr h
      simp [classify, startsWith_fence_eq_false, heading?_eq_none, item?_eq_none, hlead, hblank]
    | paragraph p =>
      obtain ⟨⟨hfence, hheading, hitem, c, hc, hblank⟩, rfl⟩ := h
      have hreads := reads_classify t
      generalize classify t = l at hreads
      cases l with
      | fence => exact absurd hreads hfence
      | heading level title => exact absurd hreads (hheading level title)
      | item i => exact absurd hreads (hitem i)
      | blank =>
        rw [hreads c hc] at hblank
        cases hblank
      | paragraph p => rw [hreads.2]

end Weave.Latex
