import Mathlib.Data.List.Chain
import Weave.Text

/-!
# Lines and newlines

Lines are cut at every character that ends a line of prose, and joined with newlines. For a text
without carriage returns that is as good as writing a newline for each such character first, and
cutting behind newlines then. Joined lines give back what they were cut from, up to a newline at the
end.
-/

set_option autoImplicit false

namespace Weave.Text

variable {l : Text} {ls ls' : List Text}

/-- The lines of a text, each with the newline that ends it. -/
def newlineLines : Text → List Text
  | [] => []
  | c :: r =>
    if c = '\n' then ['\n'] :: newlineLines r
    else match newlineLines r with
      | [] => [[c]]
      | l :: ls => (c :: l) :: ls

theorem flatten_newlineLines (t : Text) : (newlineLines t).flatten = t := by
  induction t with
  | nil => rfl
  | cons c r ih =>
    unfold newlineLines
    split
    · simp_all
    · split <;> simp_all

def chop (l : Text) : Text := l.takeWhile (· ≠ '\n')

@[simp] theorem chop_nil : chop [] = [] := rfl

@[simp] theorem chop_newline : chop ['\n'] = [] := rfl

theorem chop_cons {c : Char} (hc : c ≠ '\n') (l : Text) : chop (c :: l) = c :: chop l := by
  simp [chop, hc]

theorem startsWith_cons {c d : Char} {s t : Text} :
    startsWith (c :: t) (d :: s) = (d == c && startsWith t s) := rfl

theorem startsWith_chop {start : Text} (h : '\n' ∉ start) (l : Text) :
    startsWith (chop l) start = startsWith l start := by
  induction start generalizing l with
  | nil => simp [startsWith]
  | cons d s ih =>
    obtain ⟨hd, hs⟩ : '\n' ≠ d ∧ '\n' ∉ s := by simpa using h
    cases l with
    | nil => rfl
    | cons c l =>
      by_cases hc : c = '\n'
      · subst hc
        simp [chop, startsWith, List.isPrefixOf, hd.symm]
      · rw [chop_cons hc, startsWith_cons, startsWith_cons, ih hs]

theorem isSome_after? (start t : Text) : (after? start t).isSome = startsWith t start := by
  induction start generalizing t with
  | nil => cases t <;> rfl
  | cons d s ih =>
    cases t with
    | nil => rfl
    | cons c t =>
      by_cases h : d = c
      · simp [after?, startsWith_cons, h, ih]
      · simp [after?, startsWith_cons, h]

def unified (t : Text) : Text := t.map fun c => if isLineEnd c then '\n' else c

def OnlyNewlines (t : Text) : Prop := ∀ c ∈ t, isLineEnd c → c = '\n'

theorem OnlyNewlines.unified_eq {t : Text} (h : OnlyNewlines t) : unified t = t := by
  refine (List.map_congr_left fun c hc => ?_).trans (List.map_id t)
  by_cases he : isLineEnd c
  · simp [h c hc he]
  · simp [he]

theorem lines_cons {c : Char} (hc : c ≠ '\r') (r : Text) :
    lines (c :: r) = if isLineEnd c then [] :: lines r
      else match lines r with
        | [] => [[c]]
        | l :: ls => (c :: l) :: ls := by
  unfold lines
  rw [cutLines.eq_def]
  split
  · contradiction
  · next h => exact absurd (List.cons.inj h).1 hc
  · next h =>
    obtain ⟨rfl, rfl⟩ := List.cons.inj h
    split
    · simp
    · cases cutLines isLineEnd r <;> simp

theorem lines_eq_map_chop {t : Text} (h : '\r' ∉ t) :
    lines t = (newlineLines (unified t)).map chop := by
  induction t with
  | nil => rfl
  | cons c r ih =>
    obtain ⟨hc, hr⟩ : '\r' ≠ c ∧ '\r' ∉ r := by simpa using h
    rw [lines_cons hc.symm, ih hr]
    by_cases he : isLineEnd c
    · simp [unified, he, newlineLines]
    · have hn : c ≠ '\n' := by rintro rfl; exact he rfl
      simp only [unified, List.map_cons, he, Bool.false_eq_true, if_false, newlineLines, hn]
      cases newlineLines (r.map fun c => if isLineEnd c then '\n' else c) <;>
        simp [chop_cons hn]

/-! ### Joined lines -/

/-- Lines with their newlines, of which only the last may have none. -/
structure AreLines (ls : List Text) : Prop where
  ending : ∀ l ∈ ls, l = chop l ∨ l = chop l ++ ['\n']
  ended : ls.IsChain fun l _ => l = chop l ++ ['\n']

theorem AreLines.left (h : AreLines (ls ++ ls')) : AreLines ls :=
  ⟨fun l hl => h.ending l (List.mem_append_left _ hl), (List.isChain_append.mp h.ended).1⟩

theorem AreLines.right (h : AreLines (ls ++ ls')) : AreLines ls' :=
  ⟨fun l hl => h.ending l (List.mem_append_right _ hl), (List.isChain_append.mp h.ended).2.1⟩

theorem AreLines.tail {l : Text} (h : AreLines (l :: ls)) : AreLines ls := by
  rw [← List.singleton_append] at h
  exact h.right

theorem AreLines.isBlankText_chop (h : AreLines ls) {l : Text} (hl : l ∈ ls) :
    isBlankText (chop l) = isBlankText l := by
  rcases h.ending l hl with e | e
  · rw [← e]
  · conv_rhs => rw [e]
    simp [isBlankText, show isBlank '\n' = true from rfl]

theorem areLines_newlineLines (t : Text) : AreLines (newlineLines t) := by
  induction t with
  | nil => exact ⟨by simp [newlineLines], by simp [newlineLines]⟩
  | cons c r ih =>
    unfold newlineLines
    split
    · refine ⟨?_, ?_⟩
      · simpa using ih.ending
      · cases h : newlineLines r with
        | nil => simp
        | cons l ls => exact List.isChain_cons_cons.mpr ⟨rfl, h ▸ ih.ended⟩
    · next hc =>
      cases h : newlineLines r with
      | nil => exact ⟨by simp [chop, hc], by simp⟩
      | cons l ls =>
        rw [h] at ih
        refine ⟨?_, ?_⟩
        · intro m hm
          rcases List.mem_cons.mp hm with rfl | hm
          · rw [chop_cons hc]
            exact (ih.ending l List.mem_cons_self).imp (congrArg (c :: ·)) (congrArg (c :: ·))
          · exact ih.ending m (List.mem_cons_of_mem _ hm)
        · cases ls with
          | nil => simp
          | cons m ls =>
            obtain ⟨hl, hls⟩ := List.isChain_cons_cons.mp ih.ended
            refine List.isChain_cons_cons.mpr ⟨?_, hls⟩
            rw [chop_cons hc]
            exact congrArg (c :: ·) hl

theorem AreLines.flatten_eq (h : AreLines ls) :
    ls.flatten = join ['\n'] (ls.map chop) ∨ ls.flatten = join ['\n'] (ls.map chop) ++ ['\n'] := by
  induction ls with
  | nil => exact .inl rfl
  | cons l ls ih =>
    cases ls with
    | nil => simpa [join] using h.ending l List.mem_cons_self
    | cons m ls =>
      have hl : l = chop l ++ ['\n'] := (List.isChain_cons_cons.mp h.ended).1
      have hjoin : join ['\n'] ((l :: m :: ls).map chop) =
          l ++ join ['\n'] ((m :: ls).map chop) := by
        conv_rhs => rw [hl]
        simp [join, List.intercalate_cons_cons]
      rw [List.flatten_cons, hjoin, List.append_assoc]
      exact (ih h.tail).imp (congrArg (l ++ ·)) (congrArg (l ++ ·))

theorem trimNewlines_append_newline (t : Text) : trimNewlines (t ++ ['\n']) = trimNewlines t := by
  unfold trimNewlines trimWhile
  rw [List.dropWhile_append]
  split
  · next h => simp [List.isEmpty_iff.mp h, dropEndWhile]
  · simp [dropEndWhile]

theorem AreLines.trimNewlines_join (h : AreLines ls) :
    trimNewlines (join ['\n'] (ls.map chop)) = trimNewlines ls.flatten := by
  rcases h.flatten_eq with e | e
  · rw [e]
  · rw [e, trimNewlines_append_newline]

theorem trimNewlines_subset (t : Text) : trimNewlines t ⊆ t := by
  intro c hc
  have hend : c ∈ t.dropWhile (· == '\n') := by
    simpa using (List.dropWhile_sublist _).subset (List.mem_reverse.mp hc)
  exact (List.dropWhile_sublist _).subset hend

theorem mem_dropWhile {p : Char → Bool} {c : Char} {t : Text} (h : c ∈ t) (hc : p c = false) :
    c ∈ t.dropWhile p := by
  rw [← List.takeWhile_append_dropWhile (p := p) (l := t)] at h
  rcases List.mem_append.mp h with h | h
  · have htake : p c = true := List.all_eq_true.mp List.all_takeWhile c h
    rw [hc] at htake
    cases htake
  · exact h

theorem mem_trimNewlines {c : Char} {t : Text} (h : c ∈ t) (hc : c ≠ '\n') : c ∈ trimNewlines t := by
  have hnot : (c == '\n') = false := by simpa using hc
  have hend : c ∈ (t.dropWhile (· == '\n')).reverse := List.mem_reverse.mpr (mem_dropWhile h hnot)
  exact List.mem_reverse.mpr (mem_dropWhile hend hnot)

/-- Lines that begin with one that is not blank are not blank when they are joined. -/
theorem isBlankText_trimNewlines_join (h : isBlankText l = false) (ls : List Text) :
    isBlankText (trimNewlines (join ['\n'] (l :: ls))) = false := by
  obtain ⟨c, hc, hblank⟩ := List.all_eq_false.mp h
  have hjoin : c ∈ join ['\n'] (l :: ls) := by
    cases ls with
    | nil => simpa [join] using hc
    | cons m ms =>
      rw [join, List.intercalate_cons_cons]
      simp [hc]
  have hnewline : c ≠ '\n' := by
    rintro rfl
    exact hblank (by decide)
  exact List.all_eq_false.mpr ⟨c, mem_trimNewlines hjoin hnewline, hblank⟩

end Weave.Text
