import Weave.World

/-!
# The tree of a world

Where a path leads depends on the directory the process is in and on which files and directories there
are, and not on what the files hold. So a file can be saved again and again under one path.
-/

set_option autoImplicit false

namespace Weave.World

variable {u v w : World} {p : Path} {t : Text} {names : List Text}

/-- One world is the other one but for what has been printed. -/
def Said (v w : World) : Prop := ∃ k, w = { v with console := k }

theorem Said.refl (w : World) : Said w w := ⟨w.console, rfl⟩

theorem Said.symm (h : Said v w) : Said w v := by
  obtain ⟨k, rfl⟩ := h
  exact ⟨v.console, rfl⟩

theorem Said.trans (h : Said u v) (h' : Said v w) : Said u w := by
  obtain ⟨k, rfl⟩ := h
  obtain ⟨k', rfl⟩ := h'
  exact ⟨k', rfl⟩

def withConsole (w : World) (k : Console) : World := { w with console := k }

theorem said_withConsole (w : World) (k : Console) : Said w (w.withConsole k) := ⟨k, rfl⟩

theorem said_print (w : World) (line : Text) : Said w (w.print line) := ⟨_, rfl⟩

/-- There are the same files and directories, whatever the files hold, and the process is in the same
one. -/
structure SameTree (v w : World) : Prop where
  here : w.here = v.here
  directories : w.directories = v.directories
  names : w.files.map Prod.fst = v.files.map Prod.fst

namespace SameTree

theorem trans (h : SameTree u v) (h' : SameTree v w) : SameTree u w :=
  ⟨h'.here.trans h.here, h'.directories.trans h.directories, h'.names.trans h.names⟩

theorem of_said (h : Said v w) : SameTree v w := by
  obtain ⟨k, rfl⟩ := h
  exact ⟨rfl, rfl, rfl⟩

theorem isSome_file? (h : SameTree v w) (names : List Text) :
    (w.file? names).isSome = (v.file? names).isSome := by
  have hfile : ∀ w : World,
      (w.file? names).isSome = (w.files.map Prod.fst).any fun n => n = names := by
    intro w
    rw [file?, Option.isSome_map, List.isSome_find?, List.any_map]
    rfl
  rw [hfile, hfile, h.names]

theorem isDirectory (h : SameTree v w) (names : List Text) :
    w.isDirectory names = v.isDirectory names := by
  have hfiles : ∀ w : World, (w.files.any fun f => names.isPrefixOf f.1.dropLast) =
      (w.files.map Prod.fst).any fun n => names.isPrefixOf n.dropLast := by
    intro w
    rw [List.any_map]
    rfl
  rw [World.isDirectory, World.isDirectory, hfiles, hfiles, h.names, h.here, h.directories]

theorem follow (h : SameTree v w) (place names : List Text) :
    w.follow place names = v.follow place names := by
  induction names generalizing place with
  | nil => rfl
  | cons n ns ih => simp only [World.follow, h.isSome_file?, h.isDirectory, ih]

theorem locate (h : SameTree v w) (p : Path) : w.locate p = v.locate p := by
  simp only [World.locate, locateAs, h.follow, h.here]

theorem absolute (h : SameTree v w) (p : Path) : w.absolute p = v.absolute p := by
  rw [World.absolute, World.absolute, h.here]

theorem enter (h : SameTree v w) (names : List Text) :
    w.enter names = (v.enter names).map fun u => { w with here := u.here } := by
  unfold World.enter
  rw [h.locate]
  cases v.locate (Path.ofNames names) with
  | error f => rfl
  | ok place =>
    simp only [Except.bind, enterAt, h.isDirectory, h.isSome_file?]
    split <;> rfl

end SameTree

/-! ### Files -/

theorem mapError_eq_ok {ε φ α : Type} {r : Except ε α} {f : ε → φ} {a : α} :
    r.mapError f = .ok a ↔ r = .ok a := by
  cases r with
  | error e => exact ⟨nofun, nofun⟩
  | ok b => exact ⟨fun h => congrArg _ (Except.ok.inj h), fun h => congrArg _ (Except.ok.inj h)⟩

theorem read_eq_ok_iff : w.read p = .ok t ↔
    ∃ names s, w.locate p = .ok names ∧ w.file? names = some s ∧ t = Text.unifyNewlines s := by
  rw [read, mapError_eq_ok]
  cases hl : w.locate p with
  | error f => simp [Except.bind]
  | ok names =>
    cases hf : w.file? names with
    | none => simp [Except.bind, textAt, hf]
    | some s => simp [Except.bind, textAt, hf, eq_comm]

theorem follow_withConsole (w : World) (k : Console) : (w.withConsole k).follow = w.follow := by
  have htree : SameTree w (w.withConsole k) := .of_said (said_withConsole w k)
  funext place names
  exact htree.follow place names

theorem readText_withConsole (w : World) (k : Console) : (w.withConsole k).readText = w.readText := by
  funext t
  unfold readText locateText locateAs
  rw [follow_withConsole]
  rfl

theorem locateText_withConsole (w : World) (k : Console) : (w.withConsole k).locateText = w.locateText := by
  funext t
  unfold locateText locateAs
  rw [follow_withConsole]
  rfl

theorem enterText_withConsole (w : World) (k : Console) (t : Text) :
    (w.withConsole k).enterText t = (w.enterText t).map (·.withConsole k) := by
  unfold enterText
  rw [locateText_withConsole]
  cases w.locateText t with
  | error f => rfl
  | ok names =>
    show ((w.withConsole k).enterAt names).mapError _ = ((w.enterAt names).mapError _).map _
    unfold enterAt
    show (if w.isDirectory names then _ else _ : Except PathFault World).mapError _ = _
    split <;> rfl

theorem read_of_said (h : Said v w) (p : Path) : w.read p = v.read p := by
  have hl := (SameTree.of_said h).locate p
  obtain ⟨k, rfl⟩ := h
  unfold read
  rw [hl]
  rfl

def saving (p : Path) (t : Text) (w : World) : World :=
  match w.locate p with
  | .ok names => { w with files := setFile names t w.files }
  | .error _ => w

theorem map_fst_setFile {fs : List (List Text × Text)} (h : names ∈ fs.map Prod.fst) :
    (setFile names t fs).map Prod.fst = fs.map Prod.fst := by
  induction fs with
  | nil => simp at h
  | cons f fs ih =>
    unfold setFile
    split
    · next hf => simp [hf]
    · next hf =>
      have hfs : names ∈ fs.map Prod.fst := (List.mem_cons.mp h).resolve_left fun e => hf e.symm
      rw [List.map_cons, ih hfs, List.map_cons]

theorem find?_setFile (fs : List (List Text × Text)) :
    ((setFile names t fs).find? fun f => f.1 = names) = some (names, t) := by
  induction fs with
  | nil => simp [setFile]
  | cons f fs ih =>
    unfold setFile
    split
    · simp
    · next hf => simpa [List.find?_cons, hf] using ih

theorem mem_map_fst_of_file? {s : Text} (h : w.file? names = some s) :
    names ∈ w.files.map Prod.fst := by
  obtain ⟨f, hf, -⟩ := Option.map_eq_some_iff.mp h
  have hname : f.1 = names := by simpa using List.find?_some hf
  exact List.mem_map.mpr ⟨f, List.mem_of_find?_eq_some hf, hname⟩

theorem sameTree_saving (h : ∃ s, w.read p = .ok s) (t : Text) : SameTree w (w.saving p t) := by
  obtain ⟨s, hs⟩ := h
  obtain ⟨names, s, hl, hf, -⟩ := read_eq_ok_iff.mp hs
  rw [saving, hl]
  exact ⟨rfl, rfl, map_fst_setFile (mem_map_fst_of_file? hf)⟩

/-- A file that can be read holds what is saved in it. -/
theorem read_saving (h : ∃ s, w.read p = .ok s) (t : Text) :
    (w.saving p t).read p = .ok (Text.unifyNewlines t) := by
  have htree := sameTree_saving h t
  obtain ⟨s, hs⟩ := h
  obtain ⟨names, s, hl, -, -⟩ := read_eq_ok_iff.mp hs
  refine read_eq_ok_iff.mpr ⟨names, t, (htree.locate p).trans hl, ?_, rfl⟩
  rw [saving, hl, file?]
  exact congrArg (Option.map Prod.snd) (find?_setFile w.files)

/-! ### Directories -/

theorem enter_eq_ok (h : w.enter names = .ok u) : ∃ place, u = { w with here := place } := by
  rw [enter, mapError_eq_ok] at h
  cases hl : w.locate (Path.ofNames names) with
  | error f => simp [hl, Except.bind] at h
  | ok place =>
    simp only [hl, Except.bind, enterAt] at h
    split at h
    · exact ⟨place, (Except.ok.inj h).symm⟩
    · contradiction

theorem enterText_eq_ok (h : w.enterText t = .ok u) : ∃ place, u = { w with here := place } := by
  rw [enterText, mapError_eq_ok] at h
  cases hl : w.locateText t with
  | error f => simp [hl, Except.bind] at h
  | ok place =>
    simp only [hl, Except.bind, enterAt] at h
    split at h
    · exact ⟨place, (Except.ok.inj h).symm⟩
    · contradiction

/-- A directory that can be gone to from everywhere. -/
def Stands (w : World) (names : List Text) : Prop :=
  ∀ place, ({ w with here := place } : World).enter names = .ok { w with here := names }

/-- A directory stays where it is as long as files and directories do. -/
theorem Stands.congr (h : w.Stands names) (hf : v.files = w.files)
    (hd : v.directories = w.directories) : v.Stands names := by
  intro place
  have htree : SameTree { w with here := place } { v with here := place } :=
    ⟨rfl, hd, by rw [hf]⟩
  rw [htree.enter, h place]
  rfl

theorem stands_root (w : World) : w.Stands [] := fun _ => rfl

theorem follow_of_cons {place ns p : List Text} {n : Text} (h : w.follow place (n :: ns) = .ok p) :
    w.follow (if n = ['.', '.'] then place.dropLast else if n = ['.'] then place else place ++ [n]) ns
      = .ok p := by
  simp only [follow] at h
  split at h
  · cases h
  · split at h
    · cases h
    · split at h
      next hup => rwa [if_pos hup]
      next hup =>
        rw [if_neg hup]
        split at h
        next hstay => rwa [if_pos hstay]
        next hstay => rwa [if_neg hstay]

/-- Names that nothing is in the way of lead to the same place in every world. -/
theorem follow_unique {place p q : List Text} (hv : v.follow place names = .ok p)
    (hw : w.follow place names = .ok q) : q = p := by
  induction names generalizing place with
  | nil => exact (Except.ok.inj hw).symm.trans (Except.ok.inj hv)
  | cons n ns ih => exact ih (follow_of_cons hv) (follow_of_cons hw)

theorem follow_of_enter (h : w.enter names = .ok u) :
    w.follow [] (Path.ofNames names).names = .ok u.here ∧ u = { w with here := u.here } := by
  rw [enter, mapError_eq_ok] at h
  cases hl : w.locate (Path.ofNames names) with
  | error f => simp [hl, Except.bind] at h
  | ok place =>
    simp only [hl, Except.bind, enterAt] at h
    split at h
    · obtain rfl := Except.ok.inj h
      refine ⟨?_, rfl⟩
      have habsolute : (Path.ofNames names).text.head? = some '/' := rfl
      unfold locate locateAs at hl
      rw [habsolute] at hl
      split at hl
      · cases hl
      · split at hl
        · cases hl
        · split at hl
          · cases hl
          · exact hl
    · contradiction

/-- Whoever goes to a directory that stands in another world gets there, or nowhere. -/
theorem enter_eq_of_stands (h : v.Stands names) (hw : w.enter names = .ok u) :
    u = { w with here := names } := by
  obtain ⟨hfollow, hu⟩ := follow_of_enter hw
  obtain ⟨hfollow', -⟩ := follow_of_enter (h v.here)
  have hhere : u.here = names := follow_unique hfollow' hfollow
  rw [hu, hhere]

theorem visit_eq_ok (h : w.Stands names) :
    w.visit names = .ok { w with here := names, searchPath := nameOf names :: w.searchPath } := by
  have hw : w.enter names = .ok { w with here := names } := h w.here
  rw [visit, hw]
  rfl

theorem place_of_visit (h : w.visit names = .ok u) :
    ∃ place, u = { w with here := place, searchPath := nameOf names :: w.searchPath } := by
  unfold visit at h
  cases henter : w.enter names with
  | error e => simp [henter, Except.map] at h
  | ok v =>
    obtain ⟨place, rfl⟩ := enter_eq_ok henter
    rw [henter] at h
    exact ⟨place, (Except.ok.inj h).symm⟩

theorem depart_of_not_mem {previous : List Text} (h : nameOf names ∉ w.searchPath) :
    w.depart names previous =
      (.error (.ofMessage "ValueError" "list.remove(x): x not in list".toList), w) := by
  rw [depart, if_neg h]

theorem depart_of_mem {previous : List Text} (h : nameOf names ∈ w.searchPath) :
    w.depart names previous =
      match ({ w with searchPath := w.searchPath.erase (nameOf names) } : World).enter previous with
      | .ok u => (.ok (), u)
      | .error e => (.error e, { w with searchPath := w.searchPath.erase (nameOf names) }) := by
  unfold depart
  exact if_pos h

/-- A directory is left for one that stands, if it is still on the search path. -/
theorem depart_eq_ok {previous : List Text} (h : w.Stands previous) (hm : nameOf names ∈ w.searchPath) :
    w.depart names previous =
      (.ok (), { w with here := previous, searchPath := w.searchPath.erase (nameOf names) }) := by
  have hpath : ({ w with searchPath := w.searchPath.erase (nameOf names) } : World).Stands previous :=
    h.congr rfl rfl
  have henter : ({ w with searchPath := w.searchPath.erase (nameOf names) } : World).enter previous =
    .ok { w with here := previous, searchPath := w.searchPath.erase (nameOf names) } := hpath w.here
  rw [depart_of_mem hm, henter]

theorem depart_of_stands {previous : List Text} {path : List Text} (h : w.Stands previous)
    (hs : w.searchPath = nameOf names :: path) :
    w.depart names previous = (.ok (), { w with here := previous, searchPath := path }) := by
  rw [depart_eq_ok h (by simp [hs]), hs, List.erase_cons_head]

end Weave.World
