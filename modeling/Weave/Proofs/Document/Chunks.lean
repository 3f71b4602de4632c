import Weave.Proofs.Document.Drafts

/-!
# Chunks of a script

The code of a script stands between its lines of prose. Each stretch of it that is not blank throughout
becomes a chunk, from its first line that is not blank on and without the newlines at its ends. Of the
characters in between, those that end a line become newlines and no other is changed: a chunk is as it
was written exactly where a newline is the only one of them.
-/

set_option autoImplicit false

namespace Weave

def Section.snippet? : Section → Option Snippet
  | .define s => some s
  | _ => none

namespace Document.Script

open Text (chop AreLines newlineLines unified)

variable {l : Text} {ls pending : List Text} {run : Run} {n : Nat}

def isProse (l : Text) : Bool := Text.startsWith l "#~".toList

def isDirective (l : Text) : Bool :=
  match prose? (chop l) with
  | none => false
  | some p => (directive? (Text.trim p)).isSome

def isOrphaned : List Text → Bool
  | [] => false
  | l :: ls => isDirective l || ((isProse l || Text.isBlankText l) && isOrphaned ls)

/-- The code of lines between lines of prose. -/
def codeBetween? (ls : List Text) : Option Text :=
  match ls.dropWhile Text.isBlankText with
  | [] => none
  | l :: ls => some (l :: ls).flatten

def stretchesOf (ls : List Text) : List Text := (ls.splitOnP isProse).filterMap codeBetween?

def stretches (t : Text) : List Text := stretchesOf (newlineLines t)

/-- The snippet of a stretch of code with so many chunks in front of it. -/
def chunk (n : Nat) (code : Text) : Snippet :=
  ⟨chunkName (n + 1), {}, [.text (Text.trimNewlines code)]⟩

def chunksFrom (n : Nat) (codes : List Text) : List Snippet := codes.mapIdx fun k => chunk (n + k)

theorem chunksFrom_append (codes codes' : List Text) :
    chunksFrom n (codes ++ codes') = chunksFrom n codes ++ chunksFrom (n + codes.length) codes' := by
  simp [chunksFrom, List.mapIdx_append, Nat.add_assoc, Nat.add_comm codes.length]

/-! ### Runs and the lines in them -/

theorem isSome_prose?_chop (l : Text) : (prose? (chop l)).isSome = isProse l := by
  rw [prose?, Option.isSome_map, Text.isSome_after?, Text.startsWith_chop (by decide), isProse,
    proseMarker]

theorem codeBetween?_eq_some (h : Text.isBlankText l = false) (ls : List Text) :
    codeBetween? (l :: ls) = some (l :: ls).flatten := by
  simp [codeBetween?, h]

theorem codeBetween?_cons_blank (h : Text.isBlankText l = true) (ls : List Text) :
    codeBetween? (l :: ls) = codeBetween? ls := by
  simp [codeBetween?, h]

theorem stretchesOf_cons_blank (hp : isProse l = false) (hb : Text.isBlankText l = true)
    (ls : List Text) : stretchesOf (l :: ls) = stretchesOf ls := by
  rw [stretchesOf, stretchesOf, List.splitOnP_cons_eq_if_modifyHead, if_neg (by simp [hp])]
  cases h : ls.splitOnP isProse with
  | nil => exact absurd h (List.splitOnP_ne_nil _ _)
  | cons p ps => simp [List.filterMap_cons, codeBetween?_cons_blank hb]

theorem stretchesOf_append_cons (hpending : ∀ m ∈ pending, isProse m = false)
    (hl : isProse l = true) (ls : List Text) :
    stretchesOf (pending ++ l :: ls) = (codeBetween? pending).toList ++ stretchesOf ls := by
  rw [stretchesOf, List.splitOnP_append_cons_of_forall_mem hpending _ hl, List.filterMap_cons]
  cases codeBetween? pending <;> simp [stretchesOf]

theorem stretchesOf_of_forall_mem (hpending : ∀ m ∈ pending, isProse m = false) :
    stretchesOf pending = (codeBetween? pending).toList := by
  rw [stretchesOf, List.splitOnP_eq_singleton hpending]
  cases h : codeBetween? pending <;> simp [h]

/-- The run that has taken up these lines of code and not written them yet. -/
inductive Pends : Run → List Text → Prop
  | idle : Pends .idle []
  | prose (lines : List Text) : Pends (.prose lines) []
  | code {l : Text} {ls : List Text} (hb : Text.isBlankText l = false)
      (hp : ∀ m ∈ l :: ls, isProse m = false) : Pends (.code ((l :: ls).map chop).reverse) (l :: ls)

theorem Pends.single (hb : Text.isBlankText l = false) (hp : isProse l = false) :
    Pends (.code [chop l]) [l] :=
  .code hb fun _ hm => List.mem_singleton.mp hm ▸ hp

theorem Pends.isProse_eq_false (h : Pends run pending) : ∀ m ∈ pending, isProse m = false := by
  cases h with
  | idle => simp
  | prose => simp
  | code hb hp => exact hp

/-- A run that is written becomes the chunk of its stretch of code. -/
theorem Pends.sections (h : Pends run pending) (hlines : AreLines pending) (n : Nat) :
    (run.sections n).1.filterMap Section.snippet? = chunksFrom n (codeBetween? pending).toList ∧
      (run.sections n).2 = n + (codeBetween? pending).toList.length := by
  cases h with
  | idle => exact ⟨rfl, rfl⟩
  | prose lines => exact ⟨rfl, rfl⟩
  | @code l ls hb hp =>
    rw [codeBetween?_eq_some hb]
    have hcode : codeOf ((l :: ls).map chop).reverse = Text.trimNewlines (l :: ls).flatten := by
      rw [codeOf, List.reverse_reverse, hlines.trimNewlines_join]
    refine ⟨?_, rfl⟩
    simp only [Run.sections, hcode]
    rfl

/-- Only a run of code makes a chunk. -/
theorem Pends.add_length_eq_zero_iff (h : Pends run pending) :
    n + (codeBetween? pending).toList.length = 0 ↔ n = 0 ∧ pending = [] := by
  cases h with
  | idle => simp [codeBetween?]
  | prose lines => simp [codeBetween?]
  | code hb hp => simp [codeBetween?_eq_some hb]

theorem Pends.addProse (h : Pends run pending) (hlines : AreLines pending) (p : Text) (n : Nat) :
    (run.addProse p n).1.filterMap Section.snippet? = chunksFrom n (codeBetween? pending).toList ∧
      (run.addProse p n).2.1 = n + (codeBetween? pending).toList.length ∧
      Pends (run.addProse p n).2.2 [] := by
  have hs := h.sections hlines n
  cases h with
  | idle => exact ⟨rfl, rfl, .prose _⟩
  | prose lines => exact ⟨rfl, rfl, .prose _⟩
  | code hb hp => exact ⟨hs.1, hs.2, .prose _⟩

/-- A line of code is taken up unless it is blank and no code stands in front of it. -/
theorem Pends.addCode (h : Pends run pending) (hl : isProse l = false)
    (hb : Text.isBlankText (chop l) = Text.isBlankText l) (n : Nat) :
    (run.addCode (chop l) n).1.filterMap Section.snippet? = [] ∧
      (run.addCode (chop l) n).2.1 = n ∧
      if pending = [] ∧ Text.isBlankText l then Pends (run.addCode (chop l) n).2.2 []
      else Pends (run.addCode (chop l) n).2.2 (pending ++ [l]) := by
  cases h with
  | idle =>
    refine ⟨rfl, rfl, ?_⟩
    cases hblank : Text.isBlankText l with
    | true => simpa [Run.addCode, hb, hblank] using Pends.idle
    | false => simpa [Run.addCode, hb, hblank] using Pends.single hblank hl
  | prose lines =>
    cases hblank : Text.isBlankText l with
    | true => simpa [Run.addCode, hb, hblank] using Pends.prose _
    | false =>
      simpa [Run.addCode, Run.sections, Section.snippet?, hb, hblank]
        using Pends.single hblank hl
  | @code m ms hm hp =>
    refine ⟨rfl, rfl, ?_⟩
    have hall : ∀ k ∈ m :: (ms ++ [l]), isProse k = false := by
      intro k hk
      rcases List.mem_append.mp (List.cons_append ▸ hk) with hk | hk
      · exact hp k hk
      · exact List.mem_singleton.mp hk ▸ hl
    simpa [Run.addCode] using Pends.code hm hall

/-! ### Chunks of all lines -/

theorem snippets_append (ss : List Section) (r : Except Fault (List Section)) :
    (r.map (ss ++ ·)).toOption.map (List.filterMap Section.snippet?) =
      (r.toOption.map (List.filterMap Section.snippet?)).map
        (ss.filterMap Section.snippet? ++ ·) := by
  cases r <;> simp [Except.map, Except.toOption]

/-- The induction is on the remaining lines; the lines of code that the run has taken up stand in front
of them. -/
theorem sectionsFrom_eq (hrun : Pends run pending) (hlines : AreLines (pending ++ ls)) :
    (sectionsFrom n run (ls.map chop)).toOption.map (List.filterMap Section.snippet?) =
      if n = 0 ∧ pending = [] ∧ isOrphaned ls then none
      else some (chunksFrom n (stretchesOf (pending ++ ls))) := by
  induction ls generalizing n run pending with
  | nil =>
    rw [List.append_nil] at hlines
    simp [sectionsFrom, isOrphaned, Except.toOption, (hrun.sections hlines n).1,
      stretchesOf_of_forall_mem hrun.isProse_eq_false]
  | cons l ls ih =>
    have hls : AreLines ls := hlines.right.tail
    have hblank : Text.isBlankText (chop l) = Text.isBlankText l :=
      hlines.isBlankText_chop (by simp)
    rw [List.map_cons]
    cases hprose : prose? (chop l) with
    | none =>
      have hp : isProse l = false := by rw [← isSome_prose?_chop, hprose]; rfl
      have hd : isDirective l = false := by rw [isDirective, hprose]
      obtain ⟨hss, hn, hrun'⟩ := hrun.addCode hp hblank n
      rw [sectionsFrom_code hprose, snippets_append, hss, hn]
      split at hrun'
      · next h =>
        obtain ⟨rfl, hb⟩ := h
        rw [ih hrun' hls, List.nil_append, List.nil_append, stretchesOf_cons_blank hp hb]
        simp [isOrphaned, hd, hb]
      · next h =>
        rw [ih hrun' (by simpa using hlines)]
        have hnot : ¬ (n = 0 ∧ pending = [] ∧ isOrphaned (l :: ls)) := by
          rintro ⟨-, hpending, ho⟩
          simp [isOrphaned, hd, hp] at ho
          exact h ⟨hpending, ho.1⟩
        rw [if_neg hnot]
        simp
    | some p =>
      have hp : isProse l = true := by rw [← isSome_prose?_chop, hprose]; rfl
      have hzero := hrun.add_length_eq_zero_iff (n := n)
      rw [stretchesOf_append_cons hrun.isProse_eq_false hp, chunksFrom_append]
      cases hdir : directive? (Text.trim p) with
      | none =>
        have hd : isDirective l = false := by simp [isDirective, hprose, hdir]
        obtain ⟨hss, hn, hrun'⟩ := hrun.addProse hlines.left p n
        rw [sectionsFrom_prose hprose hdir, snippets_append, hss, hn, ih hrun' hls]
        simp only [hzero, true_and, isOrphaned, hd, hp, Bool.false_or, Bool.true_or, Bool.true_and,
          List.nil_append, and_assoc]
        split <;> rfl
      | some kind =>
        have hd : isDirective l = true := by simp [isDirective, hprose, hdir]
        obtain ⟨hss, hn⟩ := hrun.sections hlines.left n
        rw [sectionsFrom_directive hprose hdir, hn]
        simp only [hzero, isOrphaned, hd, Bool.true_or, and_true]
        split
        · rfl
        · next h =>
          rw [snippets_append, ih .idle hls, if_neg fun h' => h (hzero.mp h'.1)]
          simp [hss, Section.snippet?]

theorem snippets_sections {t : Text} (hcr : '\r' ∉ t) :
    (sections t).toOption.map (List.filterMap Section.snippet?) =
      if isOrphaned (newlineLines (unified t)) then none
      else some (chunksFrom 0 (stretches (unified t))) := by
  have h := sectionsFrom_eq (n := 0) Pends.idle (Text.areLines_newlineLines (unified t))
  simpa [sections_eq, Text.lines_eq_map_chop hcr, stretches] using h

/-! ### Stretches in their text -/

/-- A stretch of code begins with a line that is not blank, behind nothing but blank lines since the
last line of prose, and ends at the next line of prose or with the text. -/
structure StretchAt (front blank block back : List Text) : Prop where
  front : ∀ l ∈ front.getLast?, isProse l = true
  blank : ∀ l ∈ blank, Text.isBlankText l = true ∧ isProse l = false
  begins : ∃ l ∈ block.head?, Text.isBlankText l = false
  block : ∀ l ∈ block, isProse l = false
  back : ∀ l ∈ back.head?, isProse l = true

theorem exists_of_mem_splitOnP {α : Type} {p : α → Bool} {xs ys : List α} (h : ys ∈ xs.splitOnP p) :
    ∃ front back, xs = front ++ ys ++ back ∧ (∀ x ∈ front.getLast?, p x = true) ∧
      (∀ x ∈ ys, p x = false) ∧ ∀ x ∈ back.head?, p x = true := by
  induction hn : xs.length using Nat.strong_induction_on generalizing xs with
  | _ n ih =>
    have hcut := List.takeWhile_append_dropWhile (p := fun x => !p x) (l := xs)
    have hfirst : ∀ x ∈ xs.takeWhile (fun x => !p x), p x = false := by
      intro x hx
      simpa using List.all_eq_true.mp List.all_takeWhile x hx
    cases hrest : xs.dropWhile (fun x => !p x) with
    | nil =>
      rw [hrest, List.append_nil] at hcut
      rw [← hcut, List.splitOnP_eq_singleton hfirst, List.mem_singleton, hcut] at h
      exact ⟨[], [], by simp [h], by simp, by rwa [h, ← hcut], by simp⟩
    | cons x rest =>
      have hx : p x = true := by
        have hhead := List.head_dropWhile_not (fun x => !p x) (l := xs) (by simp [hrest])
        simpa [hrest] using hhead
      rw [hrest] at hcut
      rw [← hcut, List.splitOnP_append_cons_of_forall_mem hfirst _ hx] at h
      rcases List.mem_cons.mp h with rfl | h
      · exact ⟨[], x :: rest, by simpa using hcut.symm, by simp, hfirst, by simpa using hx⟩
      · have hlt : rest.length < n := by
          rw [← hn, ← hcut]
          simp only [List.length_append, List.length_cons]
          omega
        obtain ⟨front, back, hrest', hfront, hys, hback⟩ := ih rest.length hlt h rfl
        refine ⟨xs.takeWhile (fun x => !p x) ++ x :: front, back, ?_, ?_, hys, hback⟩
        · conv_lhs => rw [← hcut, hrest']
          simp
        · intro y hy
          cases front with
          | nil => simp_all
          | cons z front => exact hfront y (by simpa using hy)

theorem mem_splitOnP_append {α : Type} {p : α → Bool} {front ys back : List α}
    (hfront : ∀ x ∈ front.getLast?, p x = true) (hys : ∀ x ∈ ys, p x = false)
    (hback : ∀ x ∈ back.head?, p x = true) : ys ∈ (front ++ ys ++ back).splitOnP p := by
  have hfirst : ys ∈ (ys ++ back).splitOnP p := by
    cases back with
    | nil => simp [List.splitOnP_eq_singleton hys]
    | cons x back =>
      rw [List.splitOnP_append_cons_of_forall_mem hys _ (hback x rfl)]
      exact List.mem_cons_self
  rw [List.append_assoc]
  rcases List.eq_nil_or_concat front with rfl | ⟨init, x, rfl⟩
  · exact hfirst
  · rw [List.concat_eq_append, List.append_assoc, List.singleton_append,
      List.splitOnP_append_cons _ _ (hfront x (by simp))]
    exact List.mem_append_right _ hfirst

theorem codeBetween?_eq_some_iff {code : Text} :
    codeBetween? ls = some code ↔ ∃ blank block, ls = blank ++ block ∧ code = block.flatten ∧
      (∀ l ∈ blank, Text.isBlankText l = true) ∧ ∃ l ∈ block.head?, Text.isBlankText l = false := by
  constructor
  · intro h
    refine ⟨ls.takeWhile Text.isBlankText, ls.dropWhile Text.isBlankText,
      List.takeWhile_append_dropWhile.symm, ?_,
      fun l hl => List.all_eq_true.mp List.all_takeWhile l hl, ?_⟩
    · unfold codeBetween? at h
      split at h <;> simp_all
    · cases hrest : ls.dropWhile Text.isBlankText with
      | nil => simp [codeBetween?, hrest] at h
      | cons l rest =>
        have hhead := List.head_dropWhile_not Text.isBlankText (l := ls) (by simp [hrest])
        exact ⟨l, rfl, by simpa [hrest] using hhead⟩
  · rintro ⟨blank, block, rfl, rfl, hblank, l, hl, hb⟩
    obtain ⟨rest, rfl⟩ : ∃ rest, block = l :: rest := List.head?_eq_some_iff.mp hl
    simp [codeBetween?, List.dropWhile_append_of_pos hblank, hb]

theorem mem_stretches_iff {t code : Text} :
    code ∈ stretches t ↔ ∃ front blank block back, StretchAt front blank block back ∧
      newlineLines t = front ++ blank ++ block ++ back ∧ code = block.flatten := by
  rw [stretches, stretchesOf, List.mem_filterMap]
  constructor
  · rintro ⟨ls, hls, hcode⟩
    obtain ⟨front, back, ht, hfront, hall, hback⟩ := exists_of_mem_splitOnP hls
    obtain ⟨blank, block, rfl, rfl, hblank, hbegins⟩ := codeBetween?_eq_some_iff.mp hcode
    refine ⟨front, blank, block, back, ⟨hfront, ?_, hbegins, ?_, hback⟩, by simp [ht], rfl⟩
    · exact fun l hl => ⟨hblank l hl, hall l (List.mem_append_left _ hl)⟩
    · exact fun l hl => hall l (List.mem_append_right _ hl)
  · rintro ⟨front, blank, block, back, h, ht, rfl⟩
    refine ⟨blank ++ block, ?_, codeBetween?_eq_some_iff.mpr
      ⟨blank, block, rfl, rfl, fun l hl => (h.blank l hl).1, h.begins⟩⟩
    have hall : ∀ l ∈ blank ++ block, isProse l = false := by
      intro l hl
      rcases List.mem_append.mp hl with hl | hl
      · exact (h.blank l hl).2
      · exact h.block l hl
    rw [ht, List.append_assoc front]
    exact mem_splitOnP_append h.front hall h.back

/-- A stretch of code is a part of its text. -/
theorem infix_of_mem_stretches {t code : Text} (h : code ∈ stretches t) : code <:+: t := by
  obtain ⟨front, blank, block, back, -, ht, rfl⟩ := mem_stretches_iff.mp h
  refine ⟨(front ++ blank).flatten, back.flatten, ?_⟩
  rw [← List.flatten_append, ← List.flatten_append, ← ht, Text.flatten_newlineLines]

/-! ### Which chunks are as they were written -/

theorem map_rules_chunksFrom (n : Nat) (codes : List Text) :
    (chunksFrom n codes).map Snippet.rules = codes.map fun code => [.text (Text.trimNewlines code)] := by
  induction codes generalizing n with
  | nil => rfl
  | cons code codes ih =>
    have hcons : chunksFrom n (code :: codes) = chunk n code :: chunksFrom (n + 1) codes := by
      simpa [chunksFrom] using chunksFrom_append (n := n) [code] codes
    rw [hcons, List.map_cons, List.map_cons, ih]
    rfl

theorem onlyNewlines_of_mem_stretches_unified {t code : Text} (h : code ∈ stretches (unified t)) :
    Text.OnlyNewlines code := by
  intro c hc he
  obtain ⟨d, -, rfl⟩ := List.mem_map.mp ((infix_of_mem_stretches h).subset hc)
  by_cases hd : Text.isLineEnd d
  · simp [hd]
  · simp [hd] at he

/-- What becomes of a script without carriage returns: it is refused exactly if a directive comes before
any code, and its chunks are those of the text with a newline for every character that ends a line. They
are those of the text itself if only newlines end its lines, and cannot be if another such character
stands in its code. -/
theorem chunks_of_script {t : Text} (hcr : '\r' ∉ t) :
    (sections t).toOption.map (List.filterMap Section.snippet?) =
        (if isOrphaned (newlineLines (unified t)) then none
          else some (chunksFrom 0 (stretches (unified t)))) ∧
      (Text.OnlyNewlines t → (sections t).toOption.map (List.filterMap Section.snippet?) =
        if isOrphaned (newlineLines t) then none else some (chunksFrom 0 (stretches t))) ∧
      ((sections t).toOption.map (List.filterMap Section.snippet?) =
          some (chunksFrom 0 (stretches t)) →
        ∀ code ∈ stretches t, Text.OnlyNewlines (Text.trimNewlines code)) := by
  have houtcome := snippets_sections hcr
  refine ⟨houtcome, ?_, ?_⟩
  · intro honly
    rw [houtcome, honly.unified_eq]
  · intro h code hcode
    rw [houtcome] at h
    split at h
    · contradiction
    · have hrules := congrArg (List.map Snippet.rules) (Option.some.inj h)
      rw [map_rules_chunksFrom, map_rules_chunksFrom] at hrules
      obtain ⟨code', hcode', heq⟩ := List.mem_map.mp (hrules ▸ List.mem_map_of_mem hcode)
      have htrim : Text.trimNewlines code' = Text.trimNewlines code := by simpa using heq
      rw [← htrim]
      intro c hc
      exact onlyNewlines_of_mem_stretches_unified hcode' c (Text.trimNewlines_subset _ hc)

/-- A form feed in a string of a script becomes a newline. -/
theorem chunks_of_formFeed :
    '\r' ∉ "x = 'a\x0cb'\n".toList ∧ stretches "x = 'a\x0cb'\n".toList = ["x = 'a\x0cb'\n".toList] ∧
      (sections "x = 'a\x0cb'\n".toList).toOption.map (List.filterMap Section.snippet?) =
        some [⟨"chunk_1".toList, {}, [.text "x = 'a\nb'".toList]⟩] := by
  have hcr : '\r' ∉ "x = 'a\x0cb'\n".toList := by decide
  refine ⟨hcr, by decide +kernel, (chunks_of_script hcr).1.trans ?_⟩
  decide +kernel

end Document.Script

end Weave
