import Weave.Document.Script
import Weave.Proofs.Document.Lines

/-!
# Scripts read run by run

While a script is read, lines of prose and lines of code are held back, but never both at once: each kind
is written before a line of the other is held back. So the lines held back are one run, and reading a
script line by line is to write its runs one after the other.
-/

set_option autoImplicit false

namespace Weave.Document.Script

/-! ### Runs -/

/-- The lines that belong together and have not been written yet, latest first. -/
inductive Run where
  | idle
  | prose (lines : List Text)
  | code (lines : List Text)
deriving DecidableEq, Repr

def codeOf (lines : List Text) : Text := Text.trimNewlines (Text.join ['\n'] lines.reverse)

/-- The sections of a run of lines behind so many chunks, and the number of chunks then. -/
def Run.sections (chunks : Nat) : Run → List Section × Nat
  | .idle => ([], chunks)
  | .prose lines => ([.text (Text.join ['\n'] lines.reverse ++ ['\n'])], chunks)
  | .code lines =>
    let name := chunkName (chunks + 1)
    ([.define ⟨name, {}, [.text (codeOf lines)]⟩, .show name], chunks + 1)

/-- What a line of code writes, and the run behind it. -/
def Run.addCode (line : Text) (chunks : Nat) : Run → List Section × Nat × Run
  | .code lines => ([], chunks, .code (line :: lines))
  | .idle => ([], chunks, if Text.isBlankText line then .idle else .code [line])
  | .prose lines =>
    if Text.isBlankText line then ([], chunks, .prose ([] :: lines))
    else
      let (ss, n) := (Run.prose lines).sections chunks
      (ss, n, .code [line])

def Run.addProse (prose : Text) (chunks : Nat) : Run → List Section × Nat × Run
  | .prose lines => ([], chunks, .prose (prose :: lines))
  | run =>
    let (ss, n) := run.sections chunks
    (ss, n, .prose [prose])

/-- The sections of the remaining lines, in the middle of a run and behind so many chunks. -/
def sectionsFrom (chunks : Nat) (run : Run) : List Text → Except Fault (List Section)
  | [] => .ok (run.sections chunks).1
  | line :: lines =>
    match prose? line with
    | none =>
      let (ss, n, run) := run.addCode line chunks
      (sectionsFrom n run lines).map (ss ++ ·)
    | some prose =>
      match directive? (Text.trim prose) with
      | none =>
        let (ss, n, run) := run.addProse prose chunks
        (sectionsFrom n run lines).map (ss ++ ·)
      | some kind =>
        let (ss, n) := run.sections chunks
        if n = 0 then .error (.orphan (Text.trim prose))
        else (sectionsFrom n .idle lines).map (ss ++ .embed (chunkName n) kind :: ·)

variable {d d' : Draft} {l p : Text} {ls : List Text} {ss : List Section} {n : Nat} {run : Run}

theorem sectionsFrom_code (h : prose? l = none) :
    sectionsFrom n run (l :: ls) =
      (sectionsFrom (run.addCode l n).2.1 (run.addCode l n).2.2 ls).map
        ((run.addCode l n).1 ++ ·) := by
  rw [sectionsFrom, h]

theorem sectionsFrom_prose (h : prose? l = some p) (hd : directive? (Text.trim p) = none) :
    sectionsFrom n run (l :: ls) =
      (sectionsFrom (run.addProse p n).2.1 (run.addProse p n).2.2 ls).map
        ((run.addProse p n).1 ++ ·) := by
  simp only [sectionsFrom, h, hd]

theorem sectionsFrom_directive {kind : EmbedKind} (h : prose? l = some p)
    (hd : directive? (Text.trim p) = some kind) :
    sectionsFrom n run (l :: ls) =
      if (run.sections n).2 = 0 then .error (.orphan (Text.trim p))
      else (sectionsFrom (run.sections n).2 .idle ls).map
        ((run.sections n).1 ++ [.embed (chunkName (run.sections n).2) kind] ++ ·) := by
  simp only [sectionsFrom, h, hd, List.append_assoc, List.singleton_append]

/-! ### Never both -/

/-- Lines of one kind at most are held back, and code from a line on that is not blank. -/
structure Draft.OneSided (d : Draft) : Prop where
  apart : d.prose = [] ∨ d.code = []
  begins : ∀ l ∈ d.code.head?, Text.isBlankText l = false

/-- A run holds at least one line, and code begins with a line that is not blank. -/
inductive Run.Formed : Run → Prop
  | idle : Formed .idle
  | prose (l : Text) (ls : List Text) : Formed (.prose (l :: ls))
  | code {l : Text} (hl : Text.isBlankText l = false) (ls : List Text) : Formed (.code (l :: ls).reverse)

def Run.draft (ss : List Section) (n : Nat) : Run → Draft
  | .idle => ⟨ss, [], [], n⟩
  | .prose lines => ⟨ss, lines.reverse, [], n⟩
  | .code lines => ⟨ss, [], lines.reverse, n⟩

theorem Run.Formed.oneSided (h : run.Formed) : (run.draft ss n).OneSided := by
  cases h with
  | idle => exact ⟨.inl rfl, by simp [Run.draft]⟩
  | prose l ls => exact ⟨.inr rfl, by simp [Run.draft]⟩
  | code hl ls => exact ⟨.inl rfl, by simpa [Run.draft] using hl⟩

theorem Draft.OneSided.exists_run (h : d.OneSided) :
    ∃ run : Run, run.Formed ∧ d = run.draft d.sections d.chunks := by
  obtain ⟨ss, prose, code, n⟩ := d
  obtain ⟨hapart, hbegins⟩ := h
  cases code with
  | cons l ls =>
    obtain rfl : prose = [] := by simpa using hapart
    exact ⟨.code (l :: ls).reverse, .code (hbegins l rfl) ls, by simp [Run.draft]⟩
  | nil =>
    cases hprose : prose.reverse with
    | nil => exact ⟨.idle, .idle, by simpa [Run.draft] using hprose⟩
    | cons l ls =>
      obtain rfl : prose = (l :: ls).reverse := by rw [← hprose, List.reverse_reverse]
      exact ⟨.prose (l :: ls), .prose l ls, rfl⟩

/-! ### One line -/

theorem Draft.addLine_of_code (h : prose? l = none) : d.addLine l = .ok (d.addCode l) := by
  rw [addLine, h]

theorem Draft.addLine_of_prose (h : prose? l = some p) : d.addLine l = d.addProse p := by
  rw [addLine, h]

theorem Draft.flushCode_of_nil (h : d.code = []) : d.flushCode = d := by
  obtain ⟨ss, prose, code, n⟩ := d
  obtain rfl : code = [] := h
  rfl

namespace Run.Formed

theorem flushCode {lines : List Text} (h : (Run.code lines).Formed) :
    ((Run.code lines).draft ss n).flushCode =
      Run.idle.draft (ss ++ ((Run.code lines).sections n).1) (n + 1) := by
  cases h with
  | code hl ls =>
    simp [Draft.flushCode, Run.draft, Run.sections, codeOf, Text.isBlankText_trimNewlines_join hl]

theorem chunks_flushCode (h : run.Formed) :
    (run.draft ss n).flushCode.chunks = (run.sections n).2 := by
  cases run with
  | idle => rfl
  | prose lines => rfl
  | code lines =>
    rw [h.flushCode]
    rfl

theorem flush (h : run.Formed) :
    (run.draft ss n).flushCode.flushProse =
      Run.idle.draft (ss ++ (run.sections n).1) (run.sections n).2 := by
  cases run with
  | idle => simp [Draft.flushCode_of_nil, Run.draft, Draft.flushProse, Run.sections]
  | prose lines =>
    cases h with
    | prose l ls => simp [Draft.flushCode_of_nil, Run.draft, Draft.flushProse, Run.sections]
  | code lines =>
    rw [h.flushCode]
    rfl

/-- A line of code that is not blank ends the prose in front of it. -/
theorem addCode (h : run.Formed) (ss : List Section) (n : Nat) (l : Text) :
    (run.addCode l n).2.2.Formed ∧
      (run.draft ss n).addCode l =
        (run.addCode l n).2.2.draft (ss ++ (run.addCode l n).1) (run.addCode l n).2.1 := by
  cases h with
  | idle =>
    cases hb : Text.isBlankText l with
    | false =>
      have hrun := Run.Formed.code hb []
      exact ⟨by simpa [Run.addCode, hb] using hrun, by simp [Draft.addCode, Run.addCode, Run.draft, hb]⟩
    | true =>
      exact ⟨by simpa [Run.addCode, hb] using Run.Formed.idle,
        by simp [Draft.addCode, Run.addCode, Run.draft, hb]⟩
  | prose m ms =>
    cases hb : Text.isBlankText l with
    | false =>
      have hrun := Run.Formed.code hb []
      refine ⟨by simpa [Run.addCode, hb] using hrun, ?_⟩
      simp [Draft.addCode, Run.addCode, Run.draft, hb, Draft.flushProse, Run.sections]
    | true =>
      have hrun := Run.Formed.prose [] (m :: ms)
      exact ⟨by simpa [Run.addCode, hb] using hrun, by simp [Draft.addCode, Run.addCode, Run.draft, hb]⟩
  | @code m hm ms =>
    have hrun := Run.Formed.code hm (ms ++ [l])
    exact ⟨by simpa [Run.addCode] using hrun, by simp [Draft.addCode, Run.addCode, Run.draft]⟩

/-- A line of prose ends the code in front of it. -/
theorem addProse (h : run.Formed) (ss : List Section) (n : Nat)
    (hd : directive? (Text.trim p) = none) :
    (run.addProse p n).2.2.Formed ∧
      (run.draft ss n).addProse p =
        .ok ((run.addProse p n).2.2.draft (ss ++ (run.addProse p n).1) (run.addProse p n).2.1) := by
  cases run with
  | idle =>
    refine ⟨.prose p [], ?_⟩
    simp [Draft.addProse, hd, Draft.flushCode_of_nil, Run.draft, Run.addProse, Run.sections]
  | prose lines =>
    refine ⟨.prose p lines, ?_⟩
    simp [Draft.addProse, hd, Draft.flushCode_of_nil, Run.draft, Run.addProse]
  | code lines =>
    refine ⟨.prose p [], ?_⟩
    simp only [Draft.addProse, hd, h.flushCode]
    simp [Run.addProse, Run.sections, Run.draft]

/-- A directive ends either. -/
theorem addDirective {kind : EmbedKind} (h : run.Formed)
    (hd : directive? (Text.trim p) = some kind) :
    (run.draft ss n).addProse p =
      if (run.sections n).2 = 0 then .error (.orphan (Text.trim p))
      else .ok (Run.idle.draft
        (ss ++ ((run.sections n).1 ++ [.embed (chunkName (run.sections n).2) kind]))
        (run.sections n).2) := by
  simp only [Draft.addProse, hd, h.chunks_flushCode, h.flush]
  simp only [Run.draft, List.append_assoc]

end Run.Formed

theorem Draft.OneSided.addLine (h : d.OneSided) (hd : d.addLine l = .ok d') : d'.OneSided := by
  obtain ⟨run, hrun, hdraft⟩ := h.exists_run
  rw [hdraft] at hd
  cases hprose : prose? l with
  | none =>
    obtain ⟨hnext, heq⟩ := hrun.addCode d.sections d.chunks l
    rw [addLine_of_code hprose, heq] at hd
    cases hd
    exact hnext.oneSided
  | some p =>
    rw [addLine_of_prose hprose] at hd
    cases hdir : directive? (Text.trim p) with
    | none =>
      obtain ⟨hnext, heq⟩ := hrun.addProse d.sections d.chunks hdir
      rw [heq] at hd
      cases hd
      exact hnext.oneSided
    | some kind =>
      rw [hrun.addDirective hdir] at hd
      split at hd
      · cases hd
      · cases hd
        exact Run.Formed.idle.oneSided

/-! ### All lines -/

/-- However far a script has been read, lines of one kind at most are held back. -/
theorem Draft.OneSided.addLines (h : d.OneSided) (hd : ls.foldlM Draft.addLine d = .ok d') :
    d'.OneSided := by
  induction ls generalizing d with
  | nil =>
    cases hd
    exact h
  | cons l ls ih =>
    rw [List.foldlM_cons] at hd
    cases hline : d.addLine l with
    | error f =>
      rw [hline] at hd
      cases hd
    | ok e =>
      rw [hline] at hd
      exact ih (h.addLine hline) hd

theorem map_nil_append (r : Except Fault (List Section)) : r.map ([] ++ ·) = r := by
  cases r <;> rfl

theorem map_append_map (ss ss' : List Section) (r : Except Fault (List Section)) :
    (r.map (ss' ++ ·)).map (ss ++ ·) = r.map (ss ++ ss' ++ ·) := by
  cases r <;> simp [Except.map]

/-- Behind each line the draft holds back the run that the line leaves. -/
theorem Run.Formed.addLines (h : run.Formed) :
    (ls.foldlM Draft.addLine (run.draft ss n)).map (fun d => d.flushCode.flushProse.sections) =
      (sectionsFrom n run ls).map (ss ++ ·) := by
  induction ls generalizing run ss n with
  | nil =>
    show Except.ok (run.draft ss n).flushCode.flushProse.sections = _
    rw [h.flush]
    rfl
  | cons l ls ih =>
    rw [List.foldlM_cons]
    cases hprose : prose? l with
    | none =>
      obtain ⟨hnext, heq⟩ := h.addCode ss n l
      rw [Draft.addLine_of_code hprose, sectionsFrom_code hprose, map_append_map, ← ih hnext, heq]
      rfl
    | some p =>
      rw [Draft.addLine_of_prose hprose]
      cases hdir : directive? (Text.trim p) with
      | none =>
        obtain ⟨hnext, heq⟩ := h.addProse ss n hdir
        rw [sectionsFrom_prose hprose hdir, map_append_map, ← ih hnext, heq]
        rfl
      | some kind =>
        rw [sectionsFrom_directive hprose hdir, h.addDirective hdir]
        split
        · rfl
        · rw [map_append_map, ← ih .idle]
          rfl

theorem sections_eq (t : Text) : sections t = sectionsFrom 0 .idle (Text.lines t) := by
  have hlines : sections t = (sectionsFrom 0 .idle (Text.lines t)).map ([] ++ ·) :=
    Run.Formed.idle.addLines
  rw [hlines, map_nil_append]

end Weave.Document.Script
