import Mathlib.Data.List.SplitBy
import Weave.Proofs.Latex.LineClasses

/-!
# Runs of lines in prose

The lines of prose are those outside of fences and those of the fences, each from the line that opens it
to the line that closes it or to the end. List items that follow each other are one list, and lines of
text that follow each other are one paragraph; headings and fences stand alone, and blank lines come to
nothing. Prose is written run by run.
-/

set_option autoImplicit false

namespace Weave.Latex

/-! ### Stretches and runs -/

/-- A line outside of fences, or a fence with the lines that open and close it. -/
inductive Stretch where
  | line (t : Text)
  | fence (opening : Text) (inner : List Text) (closing : Option Text)
deriving DecidableEq, Repr

def Stretch.lines : Stretch → List Text
  | .line t => [t]
  | .fence opening inner closing => opening :: inner ++ closing.toList

def Stretch.item? : Stretch → Option Text
  | .line t =>
    match classify t with
    | .item i => some i
    | _ => none
  | .fence .. => none

def Stretch.paragraph? : Stretch → Option Text
  | .line t =>
    match classify t with
    | .paragraph p => some p
    | _ => none
  | .fence .. => none

def isFence (t : Text) : Bool := Text.startsWith t "```".toList

/-- The lines that start with the mark open and close fences by turns. -/
def stretches : List Text → List Stretch
  | [] => []
  | t :: ts =>
    if isFence t then
      .fence t (ts.takeWhile (!isFence ·)) (ts.dropWhile (!isFence ·)).head?
        :: stretches (ts.dropWhile (!isFence ·)).tail
    else .line t :: stretches ts
termination_by ts => ts.length
decreasing_by
  · have h := (List.dropWhile_sublist (fun l => !isFence l) (l := ts)).length_le
    simp only [List.length_tail, List.length_cons]
    omega
  · simp

/-- Both are list items, or both are lines of text. -/
def Stretch.joins (s s' : Stretch) : Bool :=
  (s.item?.isSome && s'.item?.isSome) || (s.paragraph?.isSome && s'.paragraph?.isSome)

def runs (ts : List Text) : List (List Stretch) := (stretches ts).splitBy Stretch.joins

def written? (run : List Stretch) : Option Text :=
  match run with
  | [] => none
  | .fence _ inner _ :: _ =>
    some ("\\begin\x7bverbatim\x7d\n".toList ++ Text.join ['\n'] inner ++
      "\n\\end\x7bverbatim\x7d".toList)
  | .line t :: _ =>
    match classify t with
    | .heading level title =>
      let name := match level with
        | 1 => "section"
        | 2 => "subsection"
        | _ => "subsubsection"
      some ('\\' :: name.toList ++ '{' :: inline title ++ ['}'])
    | .item _ =>
      let items := (run.filterMap Stretch.item?).map ("  \\item ".toList ++ inline ·)
      some ("\\begin\x7bitemize\x7d\n".toList ++ Text.join ['\n'] items ++
        "\n\\end\x7bitemize\x7d".toList)
    | .paragraph _ => some (inline (Text.join [' '] (run.filterMap Stretch.paragraph?)))
    | .blank | .fence => none

def pieceOf? (run : List Stretch) : Option Piece :=
  match run with
  | [] => none
  | .fence _ inner _ :: _ => some (.listing inner)
  | .line t :: _ =>
    match classify t with
    | .heading level title => some (.heading level title)
    | .item _ => some (.items (run.filterMap Stretch.item?))
    | .paragraph _ => some (.paragraph (run.filterMap Stretch.paragraph?))
    | .blank | .fence => none

theorem sectionCommand_eq (level : Nat) :
    sectionCommand level =
      match level with
      | 1 => "section"
      | 2 => "subsection"
      | _ => "subsubsection" := by
  split <;> simp_all [sectionCommand]

theorem map_write_pieceOf? (run : List Stretch) : (pieceOf? run).map Piece.write = written? run := by
  unfold pieceOf? written?
  split
  · rfl
  · simp [Piece.write, environment, apply]
  · split <;> simp [Piece.write, environment, apply, sectionCommand_eq]

theorem flatMap_lines_stretches (ts : List Text) : (stretches ts).flatMap Stretch.lines = ts := by
  induction ts using stretches.induct with
  | case1 => simp [stretches]
  | case2 t ts ht ih =>
    have hrest : (ts.dropWhile (!isFence ·)).head?.toList ++ (ts.dropWhile (!isFence ·)).tail =
        ts.dropWhile (!isFence ·) := by
      cases ts.dropWhile (!isFence ·) <;> rfl
    rw [stretches, if_pos ht, List.flatMap_cons, ih, Stretch.lines, List.cons_append, List.cons_append,
      List.append_assoc, hrest, List.takeWhile_append_dropWhile]
  | case3 t ts ht ih =>
    rw [stretches, if_neg ht, List.flatMap_cons, ih]
    rfl

/-! ### The piece that goes on -/

/-- The pieces that take up more than one line. -/
inductive Gathering where
  | items
  | paragraph

namespace Gathering

def opened : Gathering → List Text → Open
  | items => .items
  | paragraph => .paragraph

def piece : Gathering → List Text → Piece
  | items => .items
  | paragraph => .paragraph

def line : Gathering → Text → Line
  | items => .item
  | paragraph => .paragraph

def content? : Gathering → Stretch → Option Text
  | items => Stretch.item?
  | paragraph => Stretch.paragraph?

variable {g : Gathering} {run : List Stretch} {xs : List Text}

theorem content?_eq_some {s : Stretch} {x : Text} :
    g.content? s = some x ↔ ∃ t, s = .line t ∧ classify t = g.line x := by
  cases s with
  | fence opening inner closing => cases g <;> simp [content?, Stretch.item?, Stretch.paragraph?]
  | line t =>
    simp only [Stretch.line.injEq, exists_eq_left']
    cases g with
    | items =>
      simp only [content?, Stretch.item?, line]
      cases classify t <;> simp
    | paragraph =>
      simp only [content?, Stretch.paragraph?, line]
      cases classify t <;> simp

theorem joins_iff {s s' : Stretch} :
    s.joins s' = true ↔ ∃ g : Gathering, (g.content? s).isSome = true ∧ (g.content? s').isSome = true := by
  simp only [Stretch.joins, Bool.or_eq_true, Bool.and_eq_true]
  constructor
  · rintro (h | h)
    · exact ⟨items, h⟩
    · exact ⟨paragraph, h⟩
  · rintro ⟨g, h⟩
    cases g with
    | items => exact .inl h
    | paragraph => exact .inr h

/-- A stretch adds to pieces of one kind at most. -/
theorem eq_of_content? {g' : Gathering} {s : Stretch} (h : (g.content? s).isSome = true)
    (h' : (g'.content? s).isSome = true) : g = g' := by
  obtain ⟨x, hx⟩ := Option.isSome_iff_exists.mp h
  obtain ⟨y, hy⟩ := Option.isSome_iff_exists.mp h'
  obtain ⟨t, rfl, ht⟩ := content?_eq_some.mp hx
  obtain ⟨t', ht', hline⟩ := content?_eq_some.mp hy
  cases ht'
  rw [ht] at hline
  cases g <;> cases g' <;> first | rfl | cases hline

theorem filterMap_content? (h : run.map g.content? = xs.map some) :
    run.filterMap g.content? = xs := by
  have hid : run.filterMap g.content? = (run.map g.content?).filterMap id := by
    rw [List.filterMap_map]
    rfl
  rw [hid, h, List.filterMap_map]
  exact List.filterMap_some

theorem isSome_content? (h : run.map g.content? = xs.map some) {s : Stretch} (hs : s ∈ run) :
    (g.content? s).isSome = true := by
  have hmem : g.content? s ∈ xs.map some := h ▸ List.mem_map_of_mem hs
  obtain ⟨x, -, hx⟩ := List.mem_map.mp hmem
  rw [← hx]
  rfl

theorem pieceOf?_eq (hne : run ≠ []) (h : run.map g.content? = xs.map some) :
    pieceOf? run = some (g.piece xs) := by
  obtain ⟨s, run, rfl⟩ := List.exists_cons_of_ne_nil hne
  obtain ⟨x, hx⟩ := Option.isSome_iff_exists.mp (isSome_content? h List.mem_cons_self)
  have hall := filterMap_content? h
  obtain ⟨t, rfl, ht⟩ := content?_eq_some.mp hx
  cases g with
  | items =>
    simp only [line] at ht
    rw [pieceOf?, ht]
    exact congrArg (fun ys => some (Piece.items ys)) hall
  | paragraph =>
    simp only [line] at ht
    rw [pieceOf?, ht]
    exact congrArg (fun ys => some (Piece.paragraph ys)) hall

theorem splitBy_eq (hne : run ≠ []) (h : run.map g.content? = xs.map some) :
    run.splitBy Stretch.joins = [run] := by
  refine List.splitBy_of_isChain hne (List.Pairwise.isChain ?_)
  refine List.pairwise_of_forall_mem_list ?_
  intro s hs s' hs'
  exact joins_iff.mpr ⟨g, isSome_content? h hs, isSome_content? h hs'⟩

end Gathering

/-- What an open piece has taken up. -/
inductive Holds : Open → List Stretch → Prop
  | nothing : Holds .nothing []
  | gathering (g : Gathering) {run : List Stretch} {xs : List Text} (hne : run ≠ [])
      (h : run.map g.content? = xs.reverse.map some) : Holds (g.opened xs) run

variable {o : Open} {run : List Stretch} {s : Stretch} {t : Text}

theorem Holds.not_listing (h : Holds o run) : ∀ ls, o = .listing ls → False := by
  intro ls ho
  cases h with
  | nothing => cases ho
  | gathering g hne h => cases g <;> cases ho

/-- A piece is closed as what its run comes to. -/
theorem Holds.close (h : Holds o run) :
    (run.splitBy Stretch.joins).filterMap pieceOf? = o.close := by
  cases h with
  | nothing => rfl
  | gathering g hne h =>
    rw [Gathering.splitBy_eq hne h, List.filterMap_cons, Gathering.pieceOf?_eq hne h]
    cases g <;> rfl

theorem Holds.add {g : Gathering} {xs : List Text} {x : Text} (h : Holds (g.opened xs) run)
    (hs : g.content? s = some x) : Holds (g.opened (x :: xs)) (run ++ [s]) := by
  generalize ho : g.opened xs = o at h
  cases h with
  | nothing => cases g <;> cases ho
  | @gathering g' run xs' hne h =>
    obtain ⟨rfl, rfl⟩ : g = g' ∧ xs = xs' := by
      cases g <;> cases g' <;> cases ho <;> exact ⟨rfl, rfl⟩
    refine .gathering g (by simp) ?_
    rw [List.map_append, h, List.reverse_cons, List.map_append, List.map_singleton, hs]
    rfl

theorem Holds.start {g : Gathering} {x : Text} (hs : g.content? s = some x) :
    Holds (g.opened [x]) [s] := by
  refine .gathering g (by simp) ?_
  rw [List.map_singleton, hs]
  rfl

/-- A stretch that adds nothing to the open piece starts another run. -/
theorem Holds.split (h : Holds o run) (hs : ∀ g xs, o = Gathering.opened g xs → g.content? s = none)
    (rest : List Stretch) :
    ((run ++ s :: rest).splitBy Stretch.joins).filterMap pieceOf? =
      o.close ++ ((s :: rest).splitBy Stretch.joins).filterMap pieceOf? := by
  have hjoins : ∀ r ∈ run.getLast?, r.joins s = false := by
    intro r hr
    have hmem : r ∈ run := List.mem_of_getLast? hr
    cases h with
    | nothing => cases hmem
    | gathering g hne h =>
      rw [Bool.eq_false_iff]
      intro hj
      obtain ⟨g', hr', hs'⟩ := Gathering.joins_iff.mp hj
      obtain rfl := Gathering.eq_of_content? (Gathering.isSome_content? h hmem) hr'
      rw [hs g _ rfl] at hs'
      cases hs'
  rw [List.splitBy_append_cons rest hjoins, List.filterMap_append, h.close]

/-- A stretch that adds to no piece is a run of its own. -/
theorem splitBy_cons_alone (hs : ∀ g : Gathering, g.content? s = none) (rest : List Stretch) :
    (s :: rest).splitBy Stretch.joins = [s] :: rest.splitBy Stretch.joins := by
  have hjoins : ∀ r ∈ [s].getLast?, ∀ s' ∈ rest.head?, r.joins s' = false := by
    intro r hr s' _
    obtain rfl : s = r := by simpa using hr
    rw [Bool.eq_false_iff]
    intro hj
    obtain ⟨g, hg, -⟩ := Gathering.joins_iff.mp hj
    rw [hs g] at hg
    cases hg
  exact List.splitBy_append hjoins

theorem Holds.split_alone (h : Holds o run) (hs : ∀ g : Gathering, g.content? s = none)
    (rest : List Stretch) :
    ((run ++ s :: rest).splitBy Stretch.joins).filterMap pieceOf? =
      o.close ++ ((pieceOf? [s]).toList ++ (rest.splitBy Stretch.joins).filterMap pieceOf?) := by
  rw [h.split (fun g _ _ => hs g), splitBy_cons_alone hs, List.filterMap_cons]
  cases pieceOf? [s] <;> rfl

/-! ### Prose run by run -/

theorem cutFence_eq (ts : List Text) :
    cutFence ts = (ts.takeWhile (!isFence ·), (ts.dropWhile (!isFence ·)).tail) := by
  induction ts with
  | nil => rfl
  | cons t ts ih =>
    rw [cutFence, show Text.startsWith t fenceMark = isFence t from rfl]
    cases ht : isFence t <;> simp [ht, ih]

theorem Gathering.content?_line_eq_none {g : Gathering} (h : ∀ x, classify t ≠ g.line x) :
    g.content? (.line t) = none := by
  rw [Option.eq_none_iff_forall_ne_some]
  intro x hx
  obtain ⟨t', ht, hx⟩ := content?_eq_some.mp hx
  cases ht
  exact h x hx

theorem piecesFrom_add {g : Gathering} {x : Text} (ht : classify t = g.line x) (xs ts : List Text) :
    piecesFrom (g.opened xs) (t :: ts) = piecesFrom (g.opened (x :: xs)) ts := by
  cases g with
  | items =>
    have hline : classify t = .item x := ht
    simp [piecesFrom, Gathering.opened, hline]
  | paragraph =>
    have hline : classify t = .paragraph x := ht
    simp [piecesFrom, Gathering.opened, hline]

theorem piecesFrom_start {g : Gathering} {x : Text} (ht : classify t = g.line x)
    (hl : ∀ ls, o = .listing ls → False) (ho : ∀ xs, o ≠ g.opened xs) (ts : List Text) :
    piecesFrom o (t :: ts) = o.close ++ piecesFrom (g.opened [x]) ts := by
  cases g with
  | items =>
    have hline : classify t = .item x := ht
    cases o with
    | listing ls => exact (hl ls rfl).elim
    | items xs => exact absurd rfl (ho xs)
    | nothing => simp [piecesFrom, Gathering.opened, hline]
    | paragraph ps => simp [piecesFrom, Gathering.opened, hline]
  | paragraph =>
    have hline : classify t = .paragraph x := ht
    cases o with
    | listing ls => exact (hl ls rfl).elim
    | paragraph ps => exact absurd rfl (ho ps)
    | nothing => simp [piecesFrom, Gathering.opened, hline]
    | items xs => simp [piecesFrom, Gathering.opened, hline]

/-- Any other line closes the open piece. -/
theorem piecesFrom_close (hl : ∀ ls, o = .listing ls → False)
    (ht : ∀ (g : Gathering) x, classify t ≠ g.line x) (ts : List Text) :
    piecesFrom o (t :: ts) = o.close ++
      match classify t with
      | .fence => piecesFrom (.listing []) ts
      | .heading level title => .heading level title :: piecesFrom .nothing ts
      | _ => piecesFrom .nothing ts := by
  cases o with
  | listing ls => exact (hl ls rfl).elim
  | _ =>
    cases hc : classify t with
    | item i => exact absurd hc (ht .items i)
    | paragraph p => exact absurd hc (ht .paragraph p)
    | _ => simp [piecesFrom, hc]

/-- Behind what the open piece has taken up, the pieces are those of the runs. -/
theorem piecesFrom_eq (h : Holds o run) (ts : List Text) :
    piecesFrom o ts = ((run ++ stretches ts).splitBy Stretch.joins).filterMap pieceOf? := by
  induction ts using stretches.induct generalizing o run with
  | case1 => rw [stretches, List.append_nil, h.close, piecesFrom]
  | case2 t ts ht ih =>
    have hfence : classify t = .fence := classify_eq_fence_iff.mpr ht
    have hclose := piecesFrom_close h.not_listing
      (fun g x hx => by rw [hfence] at hx; cases g <;> cases hx) ts
    have halone : ∀ g : Gathering, g.content? (.fence t (ts.takeWhile (!isFence ·))
        (ts.dropWhile (!isFence ·)).head?) = none := by
      intro g
      cases g <;> rfl
    rw [stretches, if_pos ht, h.split_alone halone, hclose, hfence]
    simp only [piecesFrom_listing, cutFence_eq, ih .nothing]
    rfl
  | case3 t ts ht ih =>
    have hfence : classify t ≠ .fence := fun hc => ht (classify_eq_fence_iff.mp hc)
    rw [stretches, if_neg ht]
    by_cases hg : ∃ (g : Gathering) (x : Text), classify t = g.line x
    · obtain ⟨g, x, hx⟩ := hg
      have hs : g.content? (.line t) = some x := Gathering.content?_eq_some.mpr ⟨t, rfl, hx⟩
      by_cases ho : ∃ xs, o = g.opened xs
      · obtain ⟨xs, rfl⟩ := ho
        rw [piecesFrom_add hx, ih (h.add hs), List.append_assoc, List.singleton_append]
      · have hnone : ∀ g' xs, o = Gathering.opened g' xs → g'.content? (.line t) = none := by
          intro g' xs hxs
          refine Gathering.content?_line_eq_none fun y hy => ?_
          rw [hx] at hy
          cases g <;> cases g' <;> first | exact ho ⟨xs, hxs⟩ | cases hy
        rw [piecesFrom_start hx h.not_listing fun xs hxs => ho ⟨xs, hxs⟩, ih (.start hs),
          h.split hnone]
        rfl
    · have hother : ∀ (g : Gathering) x, classify t ≠ g.line x := fun g x hx => hg ⟨g, x, hx⟩
      have halone : ∀ g : Gathering, g.content? (.line t) = none :=
        fun g => Gathering.content?_line_eq_none (hother g)
      rw [piecesFrom_close h.not_listing hother, h.split_alone halone]
      cases hc : classify t with
      | fence => exact absurd hc hfence
      | item i => exact absurd hc (hother .items i)
      | paragraph p => exact absurd hc (hother .paragraph p)
      | heading level title => simp [pieceOf?, hc, ih .nothing]
      | blank => simp [pieceOf?, hc, ih .nothing]

theorem pieces_eq (t : Text) : pieces t = (runs (Text.lines t)).filterMap pieceOf? :=
  (pieces_eq_piecesFrom t).trans (piecesFrom_eq .nothing (Text.lines t))

/-- Prose is written run by run, and the runs are all its lines in their order. Each line outside of
fences is in the class that it is read as. -/
theorem prose_by_runs (t : Text) :
    prose t = Text.join "\n\n".toList ((runs (Text.lines t)).filterMap written?) ∧
      (runs (Text.lines t)).flatten.flatMap Stretch.lines = Text.lines t ∧
      ∀ u ∈ Text.lines t, ∀ l, classify u = l ↔ Reads u l := by
  refine ⟨?_, ?_, fun u _ l => classify_eq_iff⟩
  · rw [prose, pieces_eq, List.map_filterMap]
    simp only [map_write_pieceOf?]
    rfl
  · rw [runs, List.flatten_splitBy, flatMap_lines_stretches]

/-- A line that only looks like a heading goes on with its paragraph, and in a fence nothing is one. -/
theorem prose_by_runs_headings :
    prose "# A *b*\none\n  two \n#3\n- x\n+  y\n\n```\n# z\n\n- x".toList =
      ("\\section\x7bA \\emph\x7bb\x7d\x7d\n\none two \\#3\n\n" ++
        "\\begin\x7bitemize\x7d\n  \\item x\n  \\item y\n\\end\x7bitemize\x7d\n\n" ++
        "\\begin\x7bverbatim\x7d\n# z\n\n- x\n\\end\x7bverbatim\x7d").toList := by
  refine (prose_by_runs _).1.trans ?_
  decide +kernel

end Weave.Latex
