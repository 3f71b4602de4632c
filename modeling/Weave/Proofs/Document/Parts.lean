import Weave.Proofs.Document.Chunks

/-!
# Parts of a script

The lines of a script fall into parts: directives, runs of prose with the blank lines in them, runs of
code up to the next line of prose, and blank lines that belong to neither. Each run takes as many
lines as it can. The sections of a script are those of its parts, one after the other; it is refused
exactly if a directive comes before any code.
-/

set_option autoImplicit false

namespace Weave

def Section.text? : Section → Option Text
  | .text t => some t
  | _ => none

namespace Document.Script

variable {l : Text} {ls rest pending : List Text} {run : Run} {n : Nat}

/-- What a line of prose holds behind the marker and one space. -/
def content? (l : Text) : Option Text :=
  if Text.startsWith l "#~ ".toList then some (l.drop 3)
  else if Text.startsWith l "#~".toList then some (l.drop 2)
  else none

def shown? (l : Text) : Option EmbedKind :=
  (content? l).bind fun p =>
    if Text.trim p = "include-output".toList then some .output
    else if Text.trim p = "include-it".toList then some .itValue
    else none

/-- What a line leaves in a text. A line that is not prose is blank there. -/
def proseOf (l : Text) : Text := (content? l).getD []

def staysProse (l : Text) : Bool := if isProse l then (shown? l).isNone else Text.isBlankText l

def proseText (ls : List Text) : Text := Text.join ['\n'] (ls.map proseOf) ++ ['\n']

inductive Part where
  | gap (line : Text)
  | directive (line : Text) (kind : EmbedKind)
  | prose (lines : List Text)
  | code (lines : List Text)

namespace Part

def lines : Part → List Text
  | .gap l => [l]
  | .directive l _ => [l]
  | .prose ls => ls
  | .code ls => ls

def prose? : Part → Option (List Text)
  | .prose ls => some ls
  | _ => none

def code? : Part → Option Text
  | .code ls => some (Text.join ['\n'] ls)
  | _ => none

def chunks : Part → Nat
  | .code _ => 1
  | _ => 0

def sections (n : Nat) : Part → List Section
  | .gap _ => []
  | .directive _ kind => [.embed ("chunk_".toList ++ Text.ofNat n) kind]
  | .prose ls => [.text (proseText ls)]
  | .code ls =>
    let name := "chunk_".toList ++ Text.ofNat (n + 1)
    [.define ⟨name, {}, [.text (Text.trimNewlines (Text.join ['\n'] ls))]⟩, .show name]

theorem sections_code (n : Nat) (ls : List Text) :
    sections n (.code ls) =
      [.define (chunk n (Text.join ['\n'] ls)), .show (chunkName (n + 1))] := rfl

/-- A part is made of lines of its kind. -/
inductive Formed : Part → Prop
  | gap {l : Text} (hp : isProse l = false) (hb : Text.isBlankText l = true) : Formed (.gap l)
  | directive {l : Text} {kind : EmbedKind} (hp : isProse l = true) (hs : shown? l = some kind) :
      Formed (.directive l kind)
  | prose {l : Text} {ls : List Text} (hp : isProse l = true) (hs : shown? l = none)
      (hls : ∀ m ∈ ls, staysProse m = true) : Formed (.prose (l :: ls))
  | code {l : Text} {ls : List Text} (hb : Text.isBlankText l = false)
      (hp : ∀ m ∈ l :: ls, isProse m = false) : Formed (.code (l :: ls))

/-- A part could not have taken the line behind it. -/
def EndsBefore : Part → Text → Prop
  | .gap _, _ => True
  | .directive .., _ => True
  | .prose _, l => staysProse l = false
  | .code _, l => isProse l = true

end Part

def partsOf : List Text → List Part
  | [] => []
  | l :: ls =>
    match shown? l with
    | some kind => .directive l kind :: partsOf ls
    | none =>
      if isProse l then .prose (l :: ls.takeWhile staysProse) :: partsOf (ls.dropWhile staysProse)
      else if Text.isBlankText l then .gap l :: partsOf ls
      else .code (l :: ls.takeWhile fun m => !isProse m) :: partsOf (ls.dropWhile fun m => !isProse m)
termination_by ls => ls.length
decreasing_by
  all_goals simp only [List.length_cons]
  · omega
  · exact Nat.lt_succ_of_le (List.dropWhile_sublist _).length_le
  · omega
  · exact Nat.lt_succ_of_le (List.dropWhile_sublist _).length_le

def sectionsOf : Nat → List Part → List Section
  | _, [] => []
  | n, p :: ps => p.sections n ++ sectionsOf (n + p.chunks) ps

/-- The first directive, if it comes before any code. -/
def orphan? : List Text → Option Text
  | [] => none
  | l :: ls =>
    if (shown? l).isSome then some (Text.trim (proseOf l))
    else if isProse l || Text.isBlankText l then orphan? ls
    else none

def outcome (n : Nat) (ls : List Text) : Except Fault (List Section) :=
  match if n = 0 then orphan? ls else none with
  | some directive => .error (.orphan directive)
  | none => .ok (sectionsOf n (partsOf ls))

/-! ### Lines -/

theorem prose?_eq_content? (l : Text) : prose? l = content? l := by
  unfold content?
  split
  · next h =>
    obtain ⟨r, rfl⟩ := List.isPrefixOf_iff_prefix.mp h
    rfl
  · next hspace =>
    split
    · next h =>
      obtain ⟨r, rfl⟩ := List.isPrefixOf_iff_prefix.mp h
      cases r with
      | nil => rfl
      | cons c r =>
        have hc : c ≠ ' ' := by
          rintro rfl
          exact hspace rfl
        have hafter : Text.after? proseMarker ("#~".toList ++ c :: r) = some (c :: r) := rfl
        rw [prose?, hafter]
        simp [hc]
    · next h =>
      have hnone : Text.after? proseMarker l = none := by
        rw [← Option.not_isSome_iff_eq_none, Text.isSome_after?]
        exact h
      rw [prose?, hnone]
      rfl

theorem isSome_prose? (l : Text) : (prose? l).isSome = isProse l := by
  rw [prose?, Option.isSome_map, Text.isSome_after?, isProse, proseMarker]

theorem isProse_of_shown? {kind : EmbedKind} (h : shown? l = some kind) : isProse l = true := by
  obtain ⟨p, hp, -⟩ := Option.bind_eq_some_iff.mp h
  rw [← isSome_prose?, prose?_eq_content?, hp]
  rfl

theorem content?_eq_none_of_isProse (h : isProse l = false) : content? l = none := by
  have hsome := isSome_prose? l
  rw [h, prose?_eq_content?] at hsome
  exact Option.isNone_iff_eq_none.mp (Option.isSome_eq_false_iff.mp hsome)

theorem shown?_of_not_isProse (h : isProse l = false) : shown? l = none := by
  rw [shown?, content?_eq_none_of_isProse h]
  rfl

/-! ### Parts -/

namespace Part

variable {p : Part}

/-- A part takes its lines off those that begin with them. -/
theorem Formed.partsOf_append (h : p.Formed) (hrest : ∀ m ∈ rest.head?, p.EndsBefore m) :
    partsOf (p.lines ++ rest) = p :: partsOf rest := by
  have hcut : ∀ (q : Text → Bool) (ls : List Text), (∀ m ∈ ls, q m = true) →
      (∀ m ∈ rest.head?, q m = false) →
        (ls ++ rest).takeWhile q = ls ∧ (ls ++ rest).dropWhile q = rest := by
    intro q ls hls hhead
    rw [List.takeWhile_append_of_pos hls, List.dropWhile_append_of_pos hls]
    cases rest with
    | nil => simp
    | cons m rest =>
      have hm : q m = false := hhead m rfl
      simp [hm]
  cases h with
  | @gap l hp hb =>
    show partsOf (l :: rest) = _
    simp [partsOf, shown?_of_not_isProse hp, hp, hb]
  | @directive l kind hp hs =>
    show partsOf (l :: rest) = _
    simp [partsOf, hs]
  | @prose l ls hp hs hls =>
    obtain ⟨htake, hdrop⟩ := hcut staysProse ls hls hrest
    show partsOf (l :: (ls ++ rest)) = _
    simp [partsOf, hs, hp, htake, hdrop]
  | @code l ls hb hp =>
    have hl : isProse l = false := hp l List.mem_cons_self
    have hls : ∀ m ∈ ls, (!isProse m) = true := by
      intro m hm
      simp [hp m (List.mem_cons_of_mem l hm)]
    have hhead : ∀ m ∈ rest.head?, (!isProse m) = false := by
      intro m hm
      have hm' : isProse m = true := hrest m hm
      simp [hm']
    obtain ⟨htake, hdrop⟩ := hcut (fun m => !isProse m) ls hls hhead
    show partsOf (l :: (ls ++ rest)) = _
    simp [partsOf, shown?_of_not_isProse hl, hl, hb, htake, hdrop]

theorem orphan?_append_of_staysProse {ls : List Text} (hls : ∀ m ∈ ls, staysProse m = true) :
    orphan? (ls ++ rest) = orphan? rest := by
  induction ls with
  | nil => rfl
  | cons m ls ih =>
    have hm : staysProse m = true := hls m List.mem_cons_self
    have hnext := ih fun k hk => hls k (List.mem_cons_of_mem m hk)
    unfold staysProse at hm
    rw [List.cons_append, orphan?, hnext]
    split at hm
    · next hp => simp_all
    · next hp =>
      have hs : shown? m = none := shown?_of_not_isProse (by simpa using hp)
      simp [hs, hm]

/-- Code comes first in it, or nothing that matters to the directives behind it. -/
theorem Formed.orphan?_append (h : p.Formed) (hd : ∀ l kind, p ≠ .directive l kind) :
    orphan? (p.lines ++ rest) = if p.chunks = 0 then orphan? rest else none := by
  cases h with
  | @gap l hp hb =>
    show orphan? (l :: rest) = orphan? rest
    simp [orphan?, shown?_of_not_isProse hp, hb]
  | @directive l kind hp hs => exact absurd rfl (hd l kind)
  | @prose l ls hp hs hls =>
    have hall : ∀ m ∈ l :: ls, staysProse m = true := by
      intro m hm
      rcases List.mem_cons.mp hm with rfl | hm
      · simp [staysProse, hp, hs]
      · exact hls m hm
    exact orphan?_append_of_staysProse hall
  | @code l ls hb hp =>
    have hl : isProse l = false := hp l List.mem_cons_self
    show orphan? (l :: (ls ++ rest)) = none
    simp [orphan?, shown?_of_not_isProse hl, hl, hb]

/-- The sections of the first part stand in front of what comes of the rest. -/
theorem Formed.outcome_append (h : p.Formed) (n : Nat) (rest : List Text)
    (hrest : ∀ m ∈ rest.head?, p.EndsBefore m)
    (hd : ∀ l kind, p = .directive l kind → n ≠ 0) :
    outcome n (p.lines ++ rest) = (outcome (n + p.chunks) rest).map (p.sections n ++ ·) := by
  have hfault : (if n = 0 then orphan? (p.lines ++ rest) else none) =
      if n + p.chunks = 0 then orphan? rest else none := by
    by_cases hn : n = 0
    · rw [if_pos hn, h.orphan?_append fun l kind hp => hd l kind hp hn, hn, Nat.zero_add]
    · rw [if_neg hn, if_neg (by omega)]
  unfold outcome
  rw [hfault, h.partsOf_append hrest]
  cases (if n + p.chunks = 0 then orphan? rest else none) <;> rfl

end Part

/-! ### The run of lines that is being read -/

/-- The run has taken up these lines. -/
inductive Holds : Run → List Text → Prop
  | idle : Holds .idle []
  | prose {l : Text} {ls : List Text} (hp : isProse l = true) (hs : shown? l = none)
      (hls : ∀ m ∈ ls, staysProse m = true) : Holds (.prose ((l :: ls).map proseOf).reverse) (l :: ls)
  | code {l : Text} {ls : List Text} (hb : Text.isBlankText l = false)
      (hp : ∀ m ∈ l :: ls, isProse m = false) : Holds (.code (l :: ls).reverse) (l :: ls)

/-- A run is over before a line that it could not take up. -/
def Run.EndsBefore : Run → Text → Prop
  | .idle, _ => True
  | .prose _, l => staysProse l = false
  | .code _, l => isProse l = true

/-- When a run is over, its sections stand in front of what comes of the rest. -/
theorem Holds.outcome_append (h : Holds run pending) (rest : List Text)
    (hrest : ∀ m ∈ rest.head?, run.EndsBefore m) :
    outcome n (pending ++ rest) = (outcome (run.sections n).2 rest).map ((run.sections n).1 ++ ·) := by
  cases h with
  | idle =>
    show outcome n rest = (outcome n rest).map ([] ++ ·)
    cases outcome n rest <;> rfl
  | @prose l ls hp hs hls =>
    have hpart := (Part.Formed.prose hp hs hls).outcome_append n rest hrest fun _ _ hd => by cases hd
    simpa [Run.sections, Part.sections, Part.lines, Part.chunks, proseText] using hpart
  | @code l ls hb hp =>
    have hpart := (Part.Formed.code hb hp).outcome_append n rest hrest fun _ _ hd => by cases hd
    simpa [Run.sections, Part.sections_code, Part.lines, Part.chunks, chunk, codeOf] using hpart

theorem Holds.concat_prose {lines : List Text} (h : Holds (.prose lines) pending)
    (hl : staysProse l = true) : Holds (.prose (proseOf l :: lines)) (pending ++ [l]) := by
  generalize hrun : Run.prose lines = run at h
  cases h with
  | idle => cases hrun
  | code hb hp => cases hrun
  | @prose m ms hp hs hms =>
    obtain rfl := Run.prose.inj hrun
    have hall : ∀ k ∈ ms ++ [l], staysProse k = true := by
      intro k hk
      rcases List.mem_append.mp hk with hk | hk
      · exact hms k hk
      · exact List.mem_singleton.mp hk ▸ hl
    simpa using Holds.prose hp hs hall

theorem Holds.concat_code {lines : List Text} (h : Holds (.code lines) pending)
    (hl : isProse l = false) : Holds (.code (l :: lines)) (pending ++ [l]) := by
  generalize hrun : Run.code lines = run at h
  cases h with
  | idle => cases hrun
  | prose hp hs hls => cases hrun
  | @code m ms hb hp =>
    obtain rfl := Run.code.inj hrun
    have hall : ∀ k ∈ m :: (ms ++ [l]), isProse k = false := by
      intro k hk
      rcases List.mem_append.mp (List.cons_append ▸ hk) with hk | hk
      · exact hp k hk
      · exact List.mem_singleton.mp hk ▸ hl
    simpa using Holds.code hb hall

theorem proseOf_of_prose? {p : Text} (h : prose? l = some p) : proseOf l = p := by
  rw [proseOf, ← prose?_eq_content?, h]
  rfl

theorem shown?_of_prose? {p : Text} (h : prose? l = some p) :
    shown? l = directive? (Text.trim p) := by
  rw [shown?, ← prose?_eq_content?, h]
  rfl

theorem Run.endsBefore_of_directive {kind : EmbedKind} (h : shown? l = some kind) (run : Run) :
    run.EndsBefore l := by
  have hp : isProse l = true := isProse_of_shown? h
  cases run with
  | idle => trivial
  | prose lines => simp [Run.EndsBefore, staysProse, hp, h]
  | code lines => exact hp

/-- A directive behind a run of lines is refused if that leaves it without a chunk. -/
theorem outcome_directive {kind : EmbedKind} (h : shown? l = some kind) :
    outcome n (l :: ls) =
      if n = 0 then .error (.orphan (Text.trim (proseOf l)))
      else (outcome n ls).map (.embed (chunkName n) kind :: ·) := by
  by_cases hn : n = 0
  · simp [outcome, hn, orphan?, h]
  · have hd : Part.Formed (.directive l kind) := .directive (isProse_of_shown? h) h
    rw [if_neg hn]
    exact hd.outcome_append n ls (fun m _ => trivial) fun _ _ _ => hn

/-- What a run takes up, and what it writes on the way, is what the lines come to. -/
def Continues (pending : List Text) (l : Text) (ls : List Text) (n : Nat)
    (next : List Section × Nat × Run) : Prop :=
  ∃ pending', Holds next.2.2 pending' ∧
    outcome n (pending ++ l :: ls) = (outcome next.2.1 (pending' ++ ls)).map (next.1 ++ ·)

/-- A line that the run takes up writes nothing. -/
theorem continues_of_holds {run' : Run} (h : Holds run' (pending ++ [l])) :
    Continues pending l ls n ([], n, run') := by
  refine ⟨pending ++ [l], h, ?_⟩
  rw [map_nil_append, List.append_assoc, List.singleton_append]

/-- A line that starts a run ends the one in front of it. -/
theorem Holds.continues_of_start {run' : Run} (h : Holds run pending) (n : Nat) (ls : List Text)
    (hends : run.EndsBefore l) (hstart : Holds run' [l]) :
    Continues pending l ls n ((run.sections n).1, (run.sections n).2, run') := by
  refine ⟨[l], hstart, ?_⟩
  apply h.outcome_append
  intro m hm
  obtain rfl : l = m := by simpa using hm
  exact hends

theorem Holds.addCode (h : Holds run pending) (n : Nat) (ls : List Text) (hl : isProse l = false) :
    Continues pending l ls n (run.addCode l n) := by
  have hnil : proseOf l = [] := by rw [proseOf, content?_eq_none_of_isProse hl]; rfl
  cases hblank : Text.isBlankText l with
  | true =>
    have hstays : staysProse l = true := by simp [staysProse, hl, hblank]
    cases run with
    | idle =>
      cases h
      have hgap : Part.Formed (.gap l) := .gap hl hblank
      have hout := hgap.outcome_append n ls (fun m _ => trivial) nofun
      simp only [Run.addCode, hblank, if_true]
      exact ⟨[], .idle, hout⟩
    | prose lines =>
      have hrun := h.concat_prose hstays
      simp only [Run.addCode, hblank, if_true]
      exact continues_of_holds (hnil ▸ hrun)
    | code lines => exact continues_of_holds (h.concat_code hl)
  | false =>
    have hstart : Holds (.code [l]) [l] := @Holds.code l [] hblank (by simpa using hl)
    cases run with
    | idle =>
      have hnext := h.continues_of_start n ls trivial hstart
      simpa [Run.addCode, Run.sections, hblank] using hnext
    | prose lines =>
      have hends : (Run.prose lines).EndsBefore l := by simp [Run.EndsBefore, staysProse, hl, hblank]
      have hnext := h.continues_of_start n ls hends hstart
      simpa [Run.addCode, hblank] using hnext
    | code lines => exact continues_of_holds (h.concat_code hl)

theorem Holds.addProse (h : Holds run pending) (n : Nat) (ls : List Text) (hl : isProse l = true)
    (hs : shown? l = none) :
    Continues pending l ls n (run.addProse (proseOf l) n) := by
  have hstart : Holds (.prose [proseOf l]) [l] := @Holds.prose l [] hl hs (by simp)
  cases run with
  | idle => exact h.continues_of_start n ls trivial hstart
  | prose lines => exact continues_of_holds (h.concat_prose (by simp [staysProse, hl, hs]))
  | code lines => exact h.continues_of_start n ls hl hstart

/-- The induction is on the lines that are still to be read; those that the run has taken up stand in
front of them. -/
theorem sectionsFrom_eq_outcome (h : Holds run pending) :
    sectionsFrom n run ls = outcome n (pending ++ ls) := by
  induction ls generalizing n run pending with
  | nil =>
    rw [h.outcome_append [] (by simp)]
    simp [sectionsFrom, outcome, orphan?, partsOf, sectionsOf, Except.map]
  | cons l ls ih =>
    cases hprose : prose? l with
    | none =>
      have hl : isProse l = false := by rw [← isSome_prose?, hprose]; rfl
      obtain ⟨pending', hrun, hout⟩ := h.addCode n ls hl
      rw [sectionsFrom_code hprose, ih hrun, hout]
    | some p =>
      have hl : isProse l = true := by rw [← isSome_prose?, hprose]; rfl
      have hp : proseOf l = p := proseOf_of_prose? hprose
      cases hdir : directive? (Text.trim p) with
      | none =>
        have hs : shown? l = none := (shown?_of_prose? hprose).trans hdir
        obtain ⟨pending', hrun, hout⟩ := h.addProse n ls hl hs
        rw [hp] at hrun hout
        rw [sectionsFrom_prose hprose hdir, ih hrun, hout]
      | some kind =>
        have hs : shown? l = some kind := (shown?_of_prose? hprose).trans hdir
        have hends : ∀ m ∈ (l :: ls).head?, run.EndsBefore m := by
          intro m hm
          obtain rfl : l = m := by simpa using hm
          exact run.endsBefore_of_directive hs
        rw [sectionsFrom_directive hprose hdir, h.outcome_append (l :: ls) hends, outcome_directive hs, hp,
          ih .idle]
        split
        · rfl
        · rw [List.nil_append]
          cases outcome (run.sections n).2 ls with
          | error f => rfl
          | ok ss => simp [Except.map]

theorem sections_eq_outcome (t : Text) : sections t = outcome 0 (Text.lines t) :=
  (sections_eq t).trans (sectionsFrom_eq_outcome .idle)

/-! ### What a script is made of -/

/-- Parts that have these lines, each as long as it can be. -/
structure Layout (ls : List Text) (ps : List Part) : Prop where
  lines : ps.flatMap Part.lines = ls
  formed : ∀ p ∈ ps, p.Formed
  ended : ps.IsChain fun p q => ∀ m ∈ q.lines.head?, p.EndsBefore m

theorem Part.Formed.lines_ne_nil {p : Part} (h : p.Formed) : p.lines ≠ [] := by
  cases h <;> exact List.cons_ne_nil _ _

theorem head?_flatMap_lines {ps : List Part} (h : ∀ p ∈ ps, p.Formed) :
    (ps.flatMap Part.lines).head? = ps.head?.bind fun p => p.lines.head? := by
  cases ps with
  | nil => rfl
  | cons p ps =>
    have hne : p.lines ≠ [] := (h p List.mem_cons_self).lines_ne_nil
    simp [List.head?_append, List.head?_eq_some_head hne]

theorem layout_cons {p : Part} {ps : List Part} (hp : p.Formed) (h : Layout rest ps)
    (hends : ∀ m ∈ rest.head?, p.EndsBefore m) : Layout (p.lines ++ rest) (p :: ps) := by
  refine ⟨by rw [List.flatMap_cons, h.lines], ?_, ?_⟩
  · intro q hq
    rcases List.mem_cons.mp hq with rfl | hq
    · exact hp
    · exact h.formed q hq
  · apply List.isChain_cons.mpr
    refine ⟨?_, h.ended⟩
    intro q hq m hm
    apply hends
    rw [← h.lines, head?_flatMap_lines h.formed, Option.mem_def.mp hq]
    exact hm

theorem layout_partsOf (ls : List Text) : Layout ls (partsOf ls) := by
  have hhead : ∀ (q : Text → Bool) (ls : List Text), ∀ m ∈ (ls.dropWhile q).head?, q m = false := by
    intro q ls m hm
    have hnot := List.head?_dropWhile_not q ls
    rw [Option.mem_def.mp hm] at hnot
    simpa using hnot
  have htake : ∀ (q : Text → Bool) (ls : List Text), ∀ m ∈ ls.takeWhile q, q m = true := by
    intro q ls m hm
    exact List.all_eq_true.mp List.all_takeWhile m hm
  induction ls using partsOf.induct with
  | case1 =>
    rw [partsOf]
    exact ⟨rfl, by simp, by simp⟩
  | case2 l ls kind hs ih =>
    simp only [partsOf, hs]
    exact layout_cons (.directive (isProse_of_shown? hs) hs) ih fun m _ => trivial
  | case3 l ls hs hp ih =>
    have hlayout := layout_cons (.prose hp hs (htake staysProse ls)) ih (hhead staysProse ls)
    rw [Part.lines, List.cons_append, List.takeWhile_append_dropWhile] at hlayout
    simpa only [partsOf, hs, hp, if_true] using hlayout
  | case4 l ls hs hp hb ih =>
    simp only [partsOf, hs, hp, hb, if_true]
    exact layout_cons (.gap (by simpa using hp) hb) ih fun m _ => trivial
  | case5 l ls hs hp hb ih =>
    have hcode : Part.Formed (.code (l :: ls.takeWhile fun m => !isProse m)) := by
      apply Part.Formed.code (by simpa using hb)
      intro m hm
      rcases List.mem_cons.mp hm with rfl | hm
      · simpa using hp
      · simpa using htake _ ls m hm
    have hends : ∀ m ∈ (ls.dropWhile fun m => !isProse m).head?, isProse m = true := by
      intro m hm
      simpa using hhead _ ls m hm
    have hlayout := layout_cons hcode ih hends
    rw [Part.lines, List.cons_append, List.takeWhile_append_dropWhile] at hlayout
    simpa only [partsOf, hs, hp, hb, Bool.false_eq_true, if_false] using hlayout

/-- Lines fall into parts in one way. -/
theorem layout_iff {ps : List Part} : Layout ls ps ↔ ps = partsOf ls := by
  constructor
  · intro h
    induction ps generalizing ls with
    | nil =>
      rw [← h.lines]
      rw [List.flatMap_nil, partsOf]
    | cons p ps ih =>
      obtain ⟨hlines, hformed, hended⟩ := h
      obtain ⟨hp, hps⟩ := List.forall_mem_cons.mp hformed
      obtain ⟨hends, hended⟩ := List.isChain_cons.mp hended
      have hrest : ps = partsOf (ps.flatMap Part.lines) := ih ⟨rfl, hps, hended⟩
      rw [← hlines, List.flatMap_cons, hp.partsOf_append, ← hrest]
      intro m hm
      rw [head?_flatMap_lines hps] at hm
      obtain ⟨q, hq, hm⟩ := Option.bind_eq_some_iff.mp hm
      exact hends q hq m hm
  · rintro rfl
    exact layout_partsOf ls

theorem sectionsOf_append (n : Nat) (ps qs : List Part) : sectionsOf n (ps ++ qs) =
    sectionsOf n ps ++ sectionsOf (n + (ps.filterMap Part.code?).length) qs := by
  induction ps generalizing n with
  | nil => rfl
  | cons p ps ih =>
    have hchunks : n + p.chunks + (ps.filterMap Part.code?).length =
        n + ((p :: ps).filterMap Part.code?).length := by
      cases p with
      | code ls =>
        show n + 1 + (ps.filterMap Part.code?).length = n + ((ps.filterMap Part.code?).length + 1)
        omega
      | gap l => rfl
      | directive l kind => rfl
      | prose ls => rfl
    rw [List.cons_append, sectionsOf, sectionsOf, ih, hchunks, List.append_assoc]

theorem snippets_sectionsOf (n : Nat) (ps : List Part) :
    (sectionsOf n ps).filterMap Section.snippet? = chunksFrom n (ps.filterMap Part.code?) := by
  induction ps generalizing n with
  | nil => rfl
  | cons p ps ih =>
    rw [sectionsOf, List.filterMap_append, ih]
    cases p with
    | code ls =>
      have hcons := chunksFrom_append (n := n) [Text.join ['\n'] ls] (ps.filterMap Part.code?)
      exact hcons.symm
    | gap l => rfl
    | directive l kind => rfl
    | prose ls => rfl

theorem texts_sectionsOf (n : Nat) (ps : List Part) :
    (sectionsOf n ps).filterMap Section.text? = (ps.filterMap Part.prose?).map proseText := by
  induction ps generalizing n with
  | nil => rfl
  | cons p ps ih =>
    rw [sectionsOf, List.filterMap_append, ih]
    cases p <;> rfl

/-- The prose of a script is in its texts, and nothing but blank lines with it. -/
theorem Layout.filter_prose {ps : List Part} (h : Layout ls ps) :
    (ps.filterMap Part.prose?).flatten.filter isProse =
      ls.filter fun l => isProse l && (shown? l).isNone := by
  obtain ⟨rfl, hformed, -⟩ := h
  induction ps with
  | nil => rfl
  | cons p ps ih =>
    obtain ⟨hp, hps⟩ := List.forall_mem_cons.mp hformed
    rw [List.flatMap_cons, List.filter_append, ← ih hps]
    cases hp with
    | @gap l hl hb => simp [List.filterMap_cons, Part.prose?, Part.lines, hl]
    | @directive l kind hl hs => simp [List.filterMap_cons, Part.prose?, Part.lines, hs]
    | @code l ls hb hl =>
      have hcode : (l :: ls).filter (fun m => isProse m && (shown? m).isNone) = [] := by
        apply List.filter_eq_nil_iff.mpr
        intro m hm
        simp [hl m hm]
      rw [Part.lines, hcode]
      rfl
    | @prose l ls hl hs hls =>
      have hall : (l :: ls).filter isProse = (l :: ls).filter fun m => isProse m && (shown? m).isNone := by
        apply List.filter_congr
        intro m hm
        rcases List.mem_cons.mp hm with rfl | hm
        · simp [hs]
        · have hstays := hls m hm
          unfold staysProse at hstays
          split at hstays <;> simp_all
      rw [Part.lines, ← hall, ← List.filter_append]
      rfl

/-- A run of prose ends at a directive or at code, and both leave a section that is no text. -/
theorem Layout.isChain_texts {ps : List Part} (h : Layout ls ps) (n : Nat) :
    (sectionsOf n ps).IsChain fun x y => ¬ (x.text?.isSome ∧ y.text?.isSome) := by
  obtain ⟨-, hformed, hended⟩ := h
  induction ps generalizing n with
  | nil => exact .nil
  | cons p ps ih =>
    obtain ⟨hp, hps⟩ := List.forall_mem_cons.mp hformed
    obtain ⟨hends, hended⟩ := List.isChain_cons.mp hended
    have hrest := ih (n + p.chunks) hps hended
    rw [sectionsOf]
    cases hp with
    | gap hl hb => exact hrest
    | directive hl hs => exact List.isChain_cons.mpr ⟨fun y _ => by simp [Section.text?], hrest⟩
    | code hb hl =>
      refine List.isChain_cons_cons.mpr ⟨by simp [Section.text?], ?_⟩
      exact List.isChain_cons.mpr ⟨fun y _ => by simp [Section.text?], hrest⟩
    | @prose l ls hl hs hls =>
      refine List.isChain_cons.mpr ⟨?_, hrest⟩
      intro y hy
      cases ps with
      | nil => simp [sectionsOf] at hy
      | cons q ps =>
        have hq : q.Formed := hps q List.mem_cons_self
        have hbefore : ∀ m ∈ q.lines.head?, staysProse m = false := hends q rfl
        cases hq with
        | gap hl hb => simp [staysProse, hl, hb, Part.lines] at hbefore
        | prose hl hs hls => simp [staysProse, hl, hs, Part.lines] at hbefore
        | directive hl hs =>
          obtain rfl := (Option.mem_some_iff.mp hy).symm
          simp [Section.text?]
        | code hb hl =>
          obtain rfl := (Option.mem_some_iff.mp hy).symm
          simp [Section.text?]

/-- A line that is a directive with no code in front of it. -/
structure Orphaned (pre : List Text) (l : Text) : Prop where
  directive : (shown? l).isSome = true
  before : ∀ m ∈ pre, isProse m = true ∨ Text.isBlankText m = true

theorem isSome_orphan?_iff :
    (orphan? ls).isSome ↔ ∃ pre l post, ls = pre ++ l :: post ∧ Orphaned pre l := by
  induction ls with
  | nil => simp [orphan?]
  | cons l ls ih =>
    unfold orphan?
    by_cases hs : (shown? l).isSome
    · simp only [hs, if_true, Option.isSome_some, true_iff]
      exact ⟨[], l, ls, rfl, hs, by simp⟩
    · by_cases hl : isProse l || Text.isBlankText l
      · rw [if_neg hs, if_pos hl, ih]
        constructor
        · rintro ⟨pre, m, post, rfl, h⟩
          refine ⟨l :: pre, m, post, rfl, h.directive, ?_⟩
          intro k hk
          rcases List.mem_cons.mp hk with rfl | hk
          · simpa using hl
          · exact h.before k hk
        · rintro ⟨pre, m, post, hls, h⟩
          cases pre with
          | nil =>
            obtain ⟨rfl, rfl⟩ := List.cons.inj hls
            exact absurd h.directive hs
          | cons k pre =>
            obtain ⟨rfl, rfl⟩ := List.cons.inj hls
            exact ⟨pre, m, post, rfl, h.directive, fun k hk => h.before k (List.mem_cons_of_mem _ hk)⟩
      · rw [if_neg hs, if_neg hl]
        constructor
        · intro h
          simp at h
        · rintro ⟨pre, m, post, hls, h⟩
          cases pre with
          | nil =>
            obtain ⟨rfl, rfl⟩ := List.cons.inj hls
            exact absurd h.directive hs
          | cons k pre =>
            obtain ⟨rfl, rfl⟩ := List.cons.inj hls
            have hk := h.before l List.mem_cons_self
            simp [hk] at hl

/-- A directive of a script that is not refused has code in front of it. -/
theorem Layout.code_before {pre post : List Part} {kind : EmbedKind}
    (h : Layout ls (pre ++ .directive l kind :: post)) (ho : orphan? ls = none) :
    pre.filterMap Part.code? ≠ [] := by
  intro hnone
  have hsome : (orphan? ls).isSome := by
    rw [isSome_orphan?_iff]
    refine ⟨pre.flatMap Part.lines, l, post.flatMap Part.lines, ?_, ?_, ?_⟩
    · rw [← h.lines, List.flatMap_append, List.flatMap_cons]
      rfl
    · have hd := h.formed (.directive l kind) (by simp)
      cases hd with
      | directive hl hs => rw [hs]; rfl
    · intro m hm
      obtain ⟨p, hp, hm⟩ := List.mem_flatMap.mp hm
      have hcode : p.code? = none := List.filterMap_eq_nil_iff.mp hnone p hp
      have hformed := h.formed p (List.mem_append_left _ hp)
      cases hformed with
      | gap hl hb => exact .inr (List.mem_singleton.mp hm ▸ hb)
      | directive hl hs => exact .inl (List.mem_singleton.mp hm ▸ hl)
      | code hb hl => simp [Part.code?] at hcode
      | prose hl hs hls =>
        rcases List.mem_cons.mp hm with rfl | hm
        · exact .inl hl
        · have hstays := hls m hm
          unfold staysProse at hstays
          split at hstays
          · next hp => exact .inl hp
          · exact .inr hstays
  simp [ho] at hsome

/-- What the sections of a script are, in the order of its parts. -/
structure Arranged (ls : List Text) (ps : List Part) (ss : List Section) : Prop where
  layout : ∀ qs, Layout ls qs ↔ qs = ps
  sections : ss = sectionsOf 0 ps
  /-- The chunks are numbered from one on. -/
  chunks : ss.filterMap Section.snippet? = chunksFrom 0 (ps.filterMap Part.code?)
  /-- A directive embeds the chunk that was the latest in front of it. -/
  directives : ∀ pre l kind post, ps = pre ++ .directive l kind :: post →
    ∃ k, (pre.filterMap Part.code?).length = k + 1 ∧
      ss = sectionsOf 0 pre ++ .embed ("chunk_".toList ++ Text.ofNat (k + 1)) kind ::
        sectionsOf (k + 1) post
  texts : ss.filterMap Section.text? = (ps.filterMap Part.prose?).map proseText
  prose : (ps.filterMap Part.prose?).flatten.filter isProse =
    ls.filter fun l => isProse l && (shown? l).isNone
  apart : ss.IsChain fun x y => ¬ (x.text?.isSome ∧ y.text?.isSome)

theorem arranged_partsOf (ho : orphan? ls = none) :
    Arranged ls (partsOf ls) (sectionsOf 0 (partsOf ls)) where
  layout _ := layout_iff
  sections := rfl
  chunks := snippets_sectionsOf 0 _
  directives := by
    intro pre l kind post hps
    have hlayout := layout_partsOf ls
    rw [hps] at hlayout ⊢
    obtain ⟨k, hk⟩ := Nat.exists_eq_succ_of_ne_zero
      (mt List.eq_nil_of_length_eq_zero (hlayout.code_before ho))
    refine ⟨k, hk, ?_⟩
    rw [sectionsOf_append, hk, Nat.zero_add]
    rfl
  texts := texts_sectionsOf 0 _
  prose := (layout_partsOf ls).filter_prose
  apart := (layout_partsOf ls).isChain_texts 0

/-- A script is refused exactly if one of its directives has no code in front of it, and then for the
first directive. Otherwise its sections are those of its parts. -/
theorem sections_arranged (t : Text) :
    ((∃ f, sections t = .error f) ↔
        ∃ pre l post, Text.lines t = pre ++ l :: post ∧ Orphaned pre l) ∧
      (∀ f, sections t = .error f → ∃ d, orphan? (Text.lines t) = some d ∧ f = .orphan d) ∧
      ∀ ss, sections t = .ok ss → Arranged (Text.lines t) (partsOf (Text.lines t)) ss := by
  rw [sections_eq_outcome, ← isSome_orphan?_iff, outcome, if_pos rfl]
  cases ho : orphan? (Text.lines t) with
  | some d =>
    refine ⟨⟨fun _ => rfl, fun _ => ⟨_, rfl⟩⟩, ?_, nofun⟩
    rintro f ⟨⟩
    exact ⟨d, rfl, rfl⟩
  | none =>
    refine ⟨⟨nofun, nofun⟩, nofun, ?_⟩
    rintro ss ⟨⟩
    exact arranged_partsOf ho

/-- In prose a blank line is as good as a comment with nothing in it; in code it stays what it is. -/
theorem sections_arranged_squares :
    ∃ t ss, t = "#~ # Squares\n\n#~ of x\nx = 2\n\nx * x\n\n#~  include-it\n\ny\n#~end".toList ∧
      ss = [.text "# Squares\n\nof x\n".toList,
        .define ⟨"chunk_1".toList, {}, [.text "x = 2\n\nx * x".toList]⟩, .show "chunk_1".toList,
        .embed "chunk_1".toList .itValue,
        .define ⟨"chunk_2".toList, {}, [.text "y".toList]⟩, .show "chunk_2".toList,
        .text "end\n".toList] ∧
      sections t = .ok ss ∧ Arranged (Text.lines t) (partsOf (Text.lines t)) ss := by
  refine ⟨_, _, rfl, rfl, ?_, (sections_arranged _).2.2 _ ?_⟩ <;> with_unfolding_all rfl

end Document.Script

end Weave
