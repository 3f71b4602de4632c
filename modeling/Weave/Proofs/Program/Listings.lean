import Weave.Proofs.Evaluation.Calls
import Weave.Proofs.Program.Snippets
import Weave.Proofs.Text.Cutting
import Weave.Proofs.Text.Lines

/-!
# The lines that tracebacks quote

For tracebacks the text of a snippet is kept as it was given, cut at everything that ends a line of
prose. The program is the text as it is read, an expression without the blanks around it, and its
lines end at line feeds and carriage returns only. A traceback looks up the line that failed by its
number; what it finds is this line exactly if both texts have the same lines.
-/

set_option autoImplicit false

namespace Weave

namespace Text

/-! ### Two ways to cut -/

/-- Every line end ends a line of a program too, up to the blanks at the end of the text. -/
def Unbroken (t : Text) : Prop :=
  ∀ c ∈ trimEnd t, isLineEnd c = true → isProgramLineEnd c = true

instance : DecidablePred Unbroken := fun t => inferInstanceAs (Decidable (∀ c ∈ trimEnd t, _))

variable {t r : Text} {c : Char}

theorem unbroken_of_isBlankText (h : isBlankText t = true) : Unbroken t := by
  intro c hc
  rw [trimEnd_eq_nil_iff.mpr h] at hc
  cases hc

theorem unbroken_cons :
    Unbroken (c :: r) ↔
      (isLineEnd c = true → ¬ isProgramLineEnd c = true → isBlankText r = true) ∧ Unbroken r := by
  by_cases hblank : isBlankText (c :: r) = true
  · have hr := (isBlankText_cons.mp hblank).2
    exact iff_of_true (unbroken_of_isBlankText hblank) ⟨fun _ _ => hr, unbroken_of_isBlankText hr⟩
  · rw [Unbroken, trimEnd_cons_of_not_isBlankText hblank, List.forall_mem_cons]
    refine and_congr_left fun _ => ?_
    constructor
    · intro h hc hprogram
      exact absurd (h hc) hprogram
    · intro h hc
      by_contra hprogram
      exact hblank (isBlankText_cons.mpr ⟨endsLines_isLineEnd.blank c hc, h hc hprogram⟩)

theorem unbroken_append {b : Text} (hb : ∀ c ∈ b, ¬ isLineEnd c = true) :
    Unbroken (b ++ t) ↔ Unbroken t := by
  induction b with
  | nil => rfl
  | cons c b ih =>
    obtain ⟨hc, hb⟩ := List.forall_mem_cons.mp hb
    rw [List.cons_append, unbroken_cons, ih hb]
    exact and_iff_right fun h => absurd h hc

theorem Unbroken.trimEnd_lineAt (h : Unbroken t) (n : Nat) :
    trimEnd (lineAt isLineEnd t n) = trimEnd (lineAt isProgramLineEnd t n) := by
  induction t using line_induction generalizing n with
  | nil => rw [lineAt_nil, lineAt_nil]
  | crlf r ih =>
    have hr : Unbroken r := (unbroken_cons.mp (unbroken_cons.mp h).2).2
    cases n with
    | zero => rw [lineAt_crlf_zero, lineAt_crlf_zero]
    | succ n => rw [lineAt_crlf_succ, lineAt_crlf_succ, ih hr]
  | cons c r hcr ih =>
    obtain ⟨hblank, hr⟩ := unbroken_cons.mp h
    by_cases hprogram : isProgramLineEnd c = true
    · have hc := isLineEnd_of_isProgramLineEnd hprogram
      cases n with
      | zero => rw [lineAt_end_zero hc, lineAt_end_zero hprogram]
      | succ n => rw [lineAt_end_succ hcr hc, lineAt_end_succ hcr hprogram, ih hr]
    by_cases hc : isLineEnd c = true
    · have hall := isBlankText_cons.mpr ⟨endsLines_isLineEnd.blank c hc, hblank hc hprogram⟩
      rw [endsLines_isLineEnd.trimEnd_lineAt_of_isBlankText hall,
        endsLines_isProgramLineEnd.trimEnd_lineAt_of_isBlankText hall]
    · cases n with
      | zero =>
        rw [endsLines_isLineEnd.lineAt_zero hc, endsLines_isProgramLineEnd.lineAt_zero hprogram]
        exact trimEnd_cons_congr c (ih hr 0)
      | succ n =>
        rw [endsLines_isLineEnd.lineAt_succ hc, endsLines_isProgramLineEnd.lineAt_succ hprogram, ih hr]

/-- What stands in a line of prose stands no further down in a program. -/
theorem exists_programLine {n : Nat} (h : ¬ isBlankText (lineAt isLineEnd t n) = true) :
    ∃ m ≤ n, ¬ isBlankText (lineAt isProgramLineEnd t m) = true := by
  induction t using line_induction generalizing n with
  | nil =>
    rw [lineAt_nil] at h
    exact absurd rfl h
  | crlf r ih =>
    cases n with
    | zero =>
      rw [lineAt_crlf_zero] at h
      exact absurd rfl h
    | succ n =>
      rw [lineAt_crlf_succ] at h
      obtain ⟨m, hm, hline⟩ := ih h
      exact ⟨m + 1, Nat.succ_le_succ hm, by rwa [lineAt_crlf_succ]⟩
  | cons c r hcr ih =>
    have hadd : ∀ {m}, ¬ isProgramLineEnd c = true →
        ¬ isBlankText (lineAt isProgramLineEnd r m) = true →
        ¬ isBlankText (lineAt isProgramLineEnd (c :: r) m) = true := by
      intro m hprogram hline hblank
      exact hline ((endsLines_isProgramLineEnd.isBlankText_lineAt_cons hprogram r m).mp hblank).2
    by_cases hc : isLineEnd c = true
    · cases n with
      | zero =>
        rw [lineAt_end_zero hc] at h
        exact absurd rfl h
      | succ n =>
        rw [lineAt_end_succ hcr hc] at h
        obtain ⟨m, hm, hline⟩ := ih h
        by_cases hprogram : isProgramLineEnd c = true
        · exact ⟨m + 1, Nat.succ_le_succ hm, by rwa [lineAt_end_succ hcr hprogram]⟩
        · exact ⟨m, Nat.le_succ_of_le hm, hadd hprogram hline⟩
    · have hprogram : ¬ isProgramLineEnd c = true := fun h => hc (isLineEnd_of_isProgramLineEnd h)
      rw [endsLines_isLineEnd.isBlankText_lineAt_cons hc] at h
      by_cases hr : isBlankText (lineAt isLineEnd r n) = true
      · refine ⟨n, Nat.le_refl n, fun hblank => h ⟨?_, hr⟩⟩
        exact ((endsLines_isProgramLineEnd.isBlankText_lineAt_cons hprogram r n).mp hblank).1
      · obtain ⟨m, hm, hline⟩ := ih hr
        exact ⟨m, hm, hadd hprogram hline⟩

/-- If every line of prose stands one line further down in a program, whose first line is blank, there
is no first line that is not. -/
theorem isBlankText_of_shifted (hfirst : trim (lineAt isProgramLineEnd t 0) = [])
    (hnext : ∀ n, trim (lineAt isLineEnd t n) = trim (lineAt isProgramLineEnd t (n + 1))) :
    isBlankText t = true := by
  have hnone : ∀ n, isBlankText (lineAt isProgramLineEnd t n) = true := by
    intro n
    induction n using Nat.strongRecOn with
    | ind n ih =>
      cases n with
      | zero => exact trim_eq_nil_iff.mp hfirst
      | succ n =>
        rw [← trim_eq_nil_iff, ← hnext, trim_eq_nil_iff]
        by_contra hline
        obtain ⟨m, hm, hline⟩ := exists_programLine hline
        exact hline (ih m (Nat.lt_succ_of_le hm))
  by_contra ht
  obtain ⟨n, hn⟩ := endsLines_isProgramLineEnd.exists_lineAt ht
  exact hn (hnone n)

theorem unbroken_of_trim_lineAt
    (h : ∀ n, trim (lineAt isLineEnd t n) = trim (lineAt isProgramLineEnd t n)) : Unbroken t := by
  induction t using line_induction with
  | nil => exact unbroken_of_isBlankText rfl
  | crlf r ih =>
    have hr : Unbroken r := by
      refine ih fun n => ?_
      have hn := h (n + 1)
      rwa [lineAt_crlf_succ, lineAt_crlf_succ] at hn
    have hnewline : Unbroken ('\n' :: r) := unbroken_cons.mpr ⟨fun _ hn => absurd rfl hn, hr⟩
    exact unbroken_cons.mpr ⟨fun _ hn => absurd rfl hn, hnewline⟩
  | cons c r hcr ih =>
    rw [unbroken_cons]
    by_cases hprogram : isProgramLineEnd c = true
    · have hc := isLineEnd_of_isProgramLineEnd hprogram
      refine ⟨fun _ hn => absurd hprogram hn, ih fun n => ?_⟩
      have hn := h (n + 1)
      rwa [lineAt_end_succ hcr hc, lineAt_end_succ hcr hprogram] at hn
    by_cases hc : isLineEnd c = true
    · have hb := endsLines_isLineEnd.blank c hc
      have hr : isBlankText r = true := by
        apply isBlankText_of_shifted
        · have hzero := h 0
          rw [lineAt_end_zero hc, endsLines_isProgramLineEnd.trim_lineAt_cons hprogram hb] at hzero
          exact hzero.symm
        · intro n
          have hn := h (n + 1)
          rwa [lineAt_end_succ hcr hc, endsLines_isProgramLineEnd.trim_lineAt_cons hprogram hb] at hn
      exact ⟨fun _ _ => hr, unbroken_of_isBlankText hr⟩
    · refine ⟨fun hn => absurd hn hc, ih fun n => ?_⟩
      have hn := h n
      by_cases hb : isBlank c = true
      · rwa [endsLines_isLineEnd.trim_lineAt_cons hc hb,
          endsLines_isProgramLineEnd.trim_lineAt_cons hprogram hb] at hn
      cases n with
      | zero =>
        rw [endsLines_isLineEnd.lineAt_zero hc, endsLines_isProgramLineEnd.lineAt_zero hprogram,
          trim_cons_of_not_isBlank hb, trim_cons_of_not_isBlank hb] at hn
        exact trim_eq_of_trimEnd (List.cons.inj hn).2
      | succ n =>
        rwa [endsLines_isLineEnd.lineAt_succ hc, endsLines_isProgramLineEnd.lineAt_succ hprogram] at hn

/-- Both ways to cut a text give the same lines, up to the blanks around them, if and only if it has no
other line ends than a program has. -/
theorem trim_lineAt_iff_unbroken :
    (∀ n, trim (lineAt isLineEnd t n) = trim (lineAt isProgramLineEnd t n)) ↔ Unbroken t := by
  constructor
  · exact unbroken_of_trim_lineAt
  · intro h n
    exact trim_eq_of_trimEnd (h.trimEnd_lineAt n)

/-- If the program is read without the blanks around it, none of those in front of it may end a line. -/
theorem trim_lineAt_trim_iff (ht : ¬ isBlankText t = true) :
    (∀ n, trim (lineAt isLineEnd t n) = trim (lineAt isProgramLineEnd (trim t) n)) ↔
      Unbroken t ∧ ∀ c ∈ t.takeWhile isBlank, ¬ isLineEnd c = true := by
  obtain ⟨b, u, rfl, hb, htake, hdrop⟩ : ∃ b u, t = b ++ u ∧ (∀ c ∈ b, isBlank c = true) ∧
      t.takeWhile isBlank = b ∧ t.dropWhile isBlank = u :=
    ⟨_, _, List.takeWhile_append_dropWhile.symm, fun c => List.mem_takeWhile_imp, rfl, rfl⟩
  have hprogram (n : Nat) : trim (lineAt isProgramLineEnd (trim (b ++ u)) n) =
      trim (lineAt isProgramLineEnd u n) := by
    have htrim : trim (b ++ u) = trimEnd u := by rw [trim, trimWhile, hdrop, trimEnd]
    rw [htrim]
    exact trim_eq_of_trimEnd (endsLines_isProgramLineEnd.trimEnd_lineAt_trimEnd u n)
  simp only [htake, hprogram]
  by_cases hends : ∃ c ∈ b, isLineEnd c = true
  · apply iff_of_false
    · intro h
      have hzero := h 0
      have hfirst : ∃ c r, u = c :: r ∧ ¬ isBlank c = true := by
        cases hu : u with
        | nil =>
          rw [hu, List.append_nil] at ht
          exact absurd (List.all_eq_true.mpr hb) ht
        | cons c r =>
          refine ⟨c, r, rfl, ?_⟩
          have hhead := List.head?_dropWhile_not isBlank (b ++ u)
          rw [hdrop, hu] at hhead
          simpa using hhead
      obtain ⟨c, r, rfl, hc⟩ := hfirst
      have hend : ¬ isProgramLineEnd c = true := fun h => hc (endsLines_isProgramLineEnd.blank c h)
      rw [endsLines_isLineEnd.trim_lineAt_zero_append hends hb,
        endsLines_isProgramLineEnd.lineAt_zero hend, trim_cons_of_not_isBlank hc] at hzero
      cases hzero
    · rintro ⟨-, hnone⟩
      obtain ⟨c, hc, hend⟩ := hends
      exact hnone c hc hend
  · have hnone : ∀ c ∈ b, ¬ isLineEnd c = true := fun c hc hend => hends ⟨c, hc, hend⟩
    simp only [endsLines_isLineEnd.trim_lineAt_append hnone hb, unbroken_append hnone,
      trim_lineAt_iff_unbroken]
    exact (and_iff_left hnone).symm

end Text

namespace Program

open Threads (Call)

/-! ### Quoted lines -/

/-- The lines that are shown of a listing are those of a program, up to the blanks around them. -/
def Listing.Shows (l : Listing) (program : Text) : Prop :=
  ∀ n, Text.trim (l.shown[n]?.getD []) = Text.trim (Text.lineAt Text.isProgramLineEnd program n)

theorem isBlankText_ending {ends : Char → Bool} (he : Text.EndsLines ends) {t : Text} {l : Text.Line}
    (hl : l ∈ Text.cutLines ends t) : Text.isBlankText l.ending = true := by
  induction t using Text.line_induction generalizing l with
  | nil => cases hl
  | crlf r ih =>
    rw [Text.cutLines_crlf] at hl
    rcases List.mem_cons.mp hl with rfl | hl
    · rfl
    · exact ih hl
  | cons c r hcr ih =>
    by_cases hc : ends c = true
    · rw [Text.cutLines_end hcr hc] at hl
      rcases List.mem_cons.mp hl with rfl | hl
      · exact Text.isBlankText_cons.mpr ⟨he.blank c hc, rfl⟩
      · exact ih hl
    · rw [he.cutLines_cons hc] at hl
      cases hlines : Text.cutLines ends r with
      | nil =>
        rw [hlines] at hl
        obtain rfl := List.mem_singleton.mp hl
        rfl
      | cons l' ls =>
        rw [hlines] at hl ih
        rcases List.mem_cons.mp hl with rfl | hl
        · exact ih (l := l') List.mem_cons_self
        · exact ih (List.mem_cons_of_mem l' hl)

theorem trim_shown (text read : Text) (n : Nat) :
    Text.trim ((Listing.ofText text read).shown[n]?.getD []) =
      Text.trim (Text.lineAt Text.isLineEnd text n) := by
  simp only [Listing.ofText, Text.linesWithEnds, Text.lineAt, List.getElem?_map]
  cases hline : (Text.cutLines Text.isLineEnd text)[n]? with
  | none => rfl
  | some l =>
    have hl := List.mem_of_getElem? hline
    exact Text.trim_append_of_isBlankText (isBlankText_ending Text.endsLines_isLineEnd hl) l.body

theorem newline_not_mem_lineAt {ends : Char → Bool} (he : Text.EndsLines ends) (t : Text) (n : Nat) :
    '\n' ∉ Text.lineAt ends t n := by
  induction t using Text.line_induction generalizing n with
  | nil =>
    rw [Text.lineAt_nil]
    exact List.not_mem_nil
  | crlf r ih =>
    cases n with
    | zero =>
      rw [Text.lineAt_crlf_zero]
      exact List.not_mem_nil
    | succ n =>
      rw [Text.lineAt_crlf_succ]
      exact ih n
  | cons c r hcr ih =>
    by_cases hc : ends c = true
    · cases n with
      | zero =>
        rw [Text.lineAt_end_zero hc]
        exact List.not_mem_nil
      | succ n =>
        rw [Text.lineAt_end_succ hcr hc]
        exact ih n
    · cases n with
      | zero =>
        rw [he.lineAt_zero hc]
        intro hmem
        rcases List.mem_cons.mp hmem with rfl | hmem
        · exact hc he.newline
        · exact ih 0 hmem
      | succ n =>
        rw [he.lineAt_succ hc]
        exact ih (n + 1)

theorem newline_not_mem_trim {t : Text} (h : '\n' ∉ t) : '\n' ∉ Text.trim t := by
  intro hmem
  rw [Text.trim, Text.trimWhile, Text.dropEndWhile, List.mem_reverse] at hmem
  have hdrop := (List.dropWhile_sublist Text.isBlank).subset hmem
  rw [List.mem_reverse] at hdrop
  exact h ((List.dropWhile_sublist Text.isBlank).subset hdrop)

namespace Traceback

def place (f : Frame) : Text :=
  "  File \"".toList ++ f.source ++ "\", line ".toList ++ Text.ofNat f.span.start.line
    ++ ", in ".toList ++ f.routine ++ ['\n']

def quotation (line marks : Text) : Text := if line = [] then [] else indented line ++ marks

/-- What is shown of a routine quotes the line of the program in which it had not ended. -/
def Quotes (program : Text) (f : Frame) (t : Text) : Prop :=
  ∃ marks, t = place f ++
    quotation (Text.trim (Text.lineAt Text.isProgramLineEnd program (f.span.start.line - 1))) marks

variable {text read : Text}

theorem frame_eq {listings : Dictionary Listing} {f : Frame}
    (h : listings.get? f.source = some (.ofText text read)) :
    ∃ marks, frame listings f = place f ++
      quotation (Text.trim (Text.lineAt Text.isLineEnd text (f.span.start.line - 1))) marks := by
  obtain ⟨line, hline⟩ : ∃ line, line =
      ((Listing.ofText text read).shown[f.span.start.line - 1]?).getD [] := ⟨_, rfl⟩
  refine ⟨((marks? line (((Listing.ofText text read).read[f.span.start.line - 1]?).getD line)
    f.span).map indented).getD [], ?_⟩
  rw [← trim_shown text read, ← hline]
  unfold frame place quotation
  simp only [h, Option.getD_some]
  rw [← hline]
  by_cases hblank : Text.isBlankText line = true
  · rw [if_pos hblank, if_pos (Text.trim_eq_nil_iff.mpr hblank)]
  · rw [if_neg hblank, if_neg (mt Text.trim_eq_nil_iff.mp hblank)]

theorem quotation_inj {line line' marks marks' : Text} (hline : '\n' ∉ line) (hline' : '\n' ∉ line')
    (h : quotation line marks = quotation line' marks') : line = line' := by
  unfold quotation at h
  split at h
  · next hempty =>
    split at h
    · next hempty' => rw [hempty, hempty']
    · simp [indented, Text.spaces] at h
  split at h
  · simp [indented, Text.spaces] at h
  · simp only [indented, List.append_assoc, List.singleton_append, List.append_cancel_left_eq] at h
    rw [← Text.takeWhile_ne_append hline marks, h, Text.takeWhile_ne_append hline']

/-- Tracebacks quote the lines of a program if and only if these are the lines of the listing. -/
theorem quotes_iff_shows (program : Text) :
    (∀ listings f, listings.get? f.source = some (.ofText text read) →
        Quotes program f (frame listings f)) ↔ (Listing.ofText text read).Shows program := by
  constructor
  · intro h n
    have hget : (Dictionary.set {} [] (Listing.ofText text read)).get? [] = some (.ofText text read) := by
      simp
    obtain ⟨marks, hmarks⟩ := h _ ⟨[], [], ⟨⟨n + 1, 0⟩, ⟨n + 1, 0⟩⟩⟩ hget
    obtain ⟨marks', hmarks'⟩ := frame_eq (f := ⟨[], [], ⟨⟨n + 1, 0⟩, ⟨n + 1, 0⟩⟩⟩) hget
    have hquotation := List.append_cancel_left (hmarks'.symm.trans hmarks)
    rw [trim_shown]
    apply quotation_inj _ _ hquotation
    · exact newline_not_mem_trim (newline_not_mem_lineAt Text.endsLines_isLineEnd text n)
    · exact newline_not_mem_trim (newline_not_mem_lineAt Text.endsLines_isProgramLineEnd program n)
  · intro h listings f hget
    obtain ⟨marks, hmarks⟩ := frame_eq hget
    have hline := h (f.span.start.line - 1)
    rw [trim_shown] at hline
    rw [hline] at hmarks
    exact ⟨marks, hmarks⟩

end Traceback

/-! ### Calls -/

abbrev nextSource (file : Option Path) (i : Interpreter) : Text := engine.nextSource file i

abbrev snippet (c : Call) (source : Text) : Run (Option Value) := engine.snippet c source

abbrev begun (c : Call) (m : Machine) : Machine := engine.begun c m

def readText (c : Call) : Text := if c.asExpression then Text.trim c.text else c.text

theorem snippet_eq (c : Call) (source : Text) :
    snippet c source =
      if c.asExpression then some <$> expression source (readText c)
      else (fun _ => none) <$> statements source (readText c) := by
  unfold snippet Engine.snippet readText
  cases c.asExpression <;> rfl

/-- The text of a call has the lines of its program: no other line ends than a program has, and none in
front of an expression. -/
def KeepsLines (c : Call) : Prop :=
  Text.isBlankText c.text = true ∨
    Text.Unbroken c.text ∧
      (c.asExpression = true → ∀ e ∈ c.text.takeWhile Text.isBlank, ¬ Text.isLineEnd e = true)

instance : DecidablePred KeepsLines := fun c =>
  inferInstanceAs (Decidable (Text.isBlankText c.text = true ∨ Text.Unbroken c.text ∧
    (c.asExpression = true → ∀ e ∈ c.text.takeWhile Text.isBlank, ¬ Text.isLineEnd e = true)))

theorem shows_readText_iff (c : Call) :
    (Listing.ofText c.text (readText c)).Shows (readText c) ↔ KeepsLines c := by
  simp only [Listing.Shows, trim_shown, readText, KeepsLines]
  cases hc : c.asExpression with
  | false =>
    simp only [Bool.false_eq_true, if_false, Text.trim_lineAt_iff_unbroken, false_implies, and_true]
    constructor
    · exact .inr
    · rintro (hblank | h)
      · exact Text.unbroken_of_isBlankText hblank
      · exact h
  | true =>
    simp only [if_true, true_implies]
    by_cases hblank : Text.isBlankText c.text = true
    · refine iff_of_true (fun n => ?_) (.inl hblank)
      have htrim : Text.trim c.text = [] := Text.trim_eq_nil_iff.mpr hblank
      rw [htrim, Text.lineAt_nil]
      exact Text.trim_eq_of_trimEnd
        (Text.endsLines_isLineEnd.trimEnd_lineAt_of_isBlankText hblank n)
    · rw [Text.trim_lineAt_trim_iff hblank]
      exact (or_iff_right hblank).symm

/-- What is run is the text that is read. The listing of a call has the lines of this text, and its
tracebacks quote them, if and only if its own text has these lines. -/
theorem begun_listing_iff (c : Call) (m : Machine) :
    (∀ source, snippet c source =
      if c.asExpression then some <$> expression source (readText c)
      else (fun _ => none) <$> statements source (readText c)) ∧
    ∃ l, (begun c m).2.listings.get? (nextSource c.file m.2) = some l ∧
      (l.Shows (readText c) ↔ KeepsLines c) ∧
      ((∀ listings f, listings.get? f.source = some l →
        Traceback.Quotes (readText c) f (Traceback.frame listings f)) ↔ KeepsLines c) := by
  refine ⟨snippet_eq c, .ofText c.text (readText c), ?_, shows_readText_iff c, ?_⟩
  · have hlistings : (begun c m).2.listings =
        m.2.listings.set (nextSource c.file m.2) (.ofText c.text (readText c)) := rfl
    rw [hlistings]
    simp
  · exact (Traceback.quotes_iff_shows (readText c)).trans (shows_readText_iff c)

/-- Of an expression behind a newline no listing shows the line, and some traceback does not quote it. -/
theorem not_quotes_newline :
    ∃ l, (begun ⟨['\n', 'x'], true, none⟩ ({}, {})).2.listings.get? (nextSource none {}) = some l ∧
      ¬ l.Shows (readText ⟨['\n', 'x'], true, none⟩) ∧
      ∃ listings f, listings.get? f.source = some l ∧
        ¬ Traceback.Quotes (readText ⟨['\n', 'x'], true, none⟩) f (Traceback.frame listings f) := by
  obtain ⟨-, l, hl, hshows, hquotes⟩ := begun_listing_iff ⟨['\n', 'x'], true, none⟩ ({}, {})
  have hlost : ¬ KeepsLines ⟨['\n', 'x'], true, none⟩ := by decide
  have hsome := mt hquotes.mp hlost
  push Not at hsome
  exact ⟨l, hl, mt hshows.mp hlost, hsome⟩

/-- A form feed in a literal does the same to the lines of statements. -/
example : ¬ KeepsLines ⟨['"', '\x0c', '"', '\n', 'x'], false, none⟩ := by decide

end Program

end Weave
