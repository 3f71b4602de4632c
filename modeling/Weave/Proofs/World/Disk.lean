import Mathlib.Data.List.Basic
import Weave.Proofs.World.Tree

/-!
# The disk of a world

The disk is what stays when a program is over: files and directories. Going from directory to directory
and printing leave it as it is. To make a directory adds directories and nothing else, also where some of
those in front of it can be made and it cannot; and what a file holds is what was written last.
-/

set_option autoImplicit false

namespace Weave

structure Disk where
  files : List (List Text × Text)
  directories : List (List Text)

namespace World

variable {u v w : World} {p : Path} {names place : List Text} {t : Text}

def disk (w : World) : Disk := ⟨w.files, w.directories⟩

theorem disk_of_enter (h : w.enter names = .ok u) : u.disk = w.disk := by
  obtain ⟨place, rfl⟩ := enter_eq_ok h
  rfl

theorem disk_of_visit (h : w.visit names = .ok u) : u.disk = w.disk := by
  obtain ⟨place, rfl⟩ := place_of_visit h
  rfl

theorem disk_depart (w : World) (names previous : List Text) :
    (w.depart names previous).2.disk = w.disk := by
  by_cases hm : nameOf names ∈ w.searchPath
  · rw [depart_of_mem hm]
    split
    · next u hu =>
      have hdisk := disk_of_enter hu
      exact hdisk
    · rfl
  · rw [depart_of_not_mem hm]

/-! ### Where paths lead -/

theorem isDirectory_iff : w.isDirectory names = true ↔
    names <+: w.here ∨ (∃ d ∈ w.directories, names <+: d) ∨ ∃ f ∈ w.files, names <+: f.1.dropLast := by
  simp [isDirectory, or_assoc]

/-- Only a directory leads on. -/
theorem isDirectory_of_follow {n : Text} {ns q : List Text} (h : w.follow place (n :: ns) = .ok q) :
    w.isDirectory place = true := by
  unfold follow at h
  split at h
  · contradiction
  · next hd => simpa using hd

theorem follow_concat {ns q : List Text} {n : Text} (h : w.follow place (ns ++ [n]) = .ok q) :
    ∃ d, w.follow place ns = .ok d ∧ w.isDirectory d = true := by
  induction ns generalizing place with
  | nil => exact ⟨place, rfl, isDirectory_of_follow h⟩
  | cons m ns ih =>
    rw [List.cons_append] at h
    unfold follow at h ⊢
    split at h
    · contradiction
    · next hd =>
      rw [if_neg hd]
      split at h
      · contradiction
      · next hlong =>
        rw [if_neg hlong]
        split at h
        · next hdots => exact if_pos hdots ▸ ih h
        · next hdots =>
          rw [if_neg hdots]
          split at h
          · next hdot => exact if_pos hdot ▸ ih h
          · next hdot => exact if_neg hdot ▸ ih h

theorem locateAs_eq_ok {ns q : List Text} (h : w.locateAs t ns = .ok q) :
    t.contains (Char.ofNat 0) = false ∧ t.isEmpty = false ∧ Text.byteCount t ≤ longestPath ∧
      w.follow (if t.head? = some '/' then [] else w.here) ns = .ok q := by
  unfold locateAs at h
  split at h
  · contradiction
  · next h0 =>
    split at h
    · contradiction
    · next h1 =>
      split at h
      · contradiction
      · next h2 => exact ⟨by simpa using h0, by simpa using h1, by omega, h⟩

/-! ### More directories -/

def Made (v w : World) : Prop := ∃ ds, w = { v with directories := v.directories ++ ds }

theorem Made.refl (w : World) : Made w w := ⟨[], by rw [List.append_nil]⟩

theorem Made.trans (h : Made u v) (h' : Made v w) : Made u w := by
  obtain ⟨ds, rfl⟩ := h
  obtain ⟨ds', rfl⟩ := h'
  exact ⟨ds ++ ds', by rw [List.append_assoc]⟩

theorem Made.here (h : Made v w) : w.here = v.here := by
  obtain ⟨ds, rfl⟩ := h
  rfl

theorem Made.isDirectory (h : Made v w) (hd : v.isDirectory names = true) : w.isDirectory names = true := by
  obtain ⟨ds, rfl⟩ := h
  rw [isDirectory_iff] at hd ⊢
  rcases hd with hd | ⟨d, hmem, hd⟩ | hd
  · exact .inl hd
  · exact .inr (.inl ⟨d, List.mem_append_left _ hmem, hd⟩)
  · exact .inr (.inr hd)

/-- Where a path can be followed it can still be followed when there are more directories. -/
theorem follow_mono (hd : ∀ names, v.isDirectory names = true → w.isDirectory names = true)
    {ns q : List Text} (h : v.follow place ns = .ok q) : w.follow place ns = .ok q := by
  induction ns generalizing place with
  | nil => exact h
  | cons n ns ih =>
    have hplace := hd place (isDirectory_of_follow h)
    unfold follow at h ⊢
    split at h
    · contradiction
    · rw [if_neg (by simp [hplace])]
      split at h
      · contradiction
      · next hlong =>
        rw [if_neg hlong]
        split at h
        · next hdots => exact (if_pos hdots).trans (ih h)
        · next hdots =>
          rw [if_neg hdots]
          split at h
          · next hdot => exact (if_pos hdot).trans (ih h)
          · next hdot => exact (if_neg hdot).trans (ih h)

theorem locate_mono (hhere : w.here = v.here)
    (hd : ∀ names, v.isDirectory names = true → w.isDirectory names = true)
    (h : v.locate p = .ok place) : w.locate p = .ok place := by
  obtain ⟨h0, h1, h2, h⟩ := locateAs_eq_ok h
  unfold locate locateAs
  rw [h0, h1, hhere, if_neg Bool.false_ne_true, if_neg Bool.false_ne_true, if_neg (by omega)]
  exact follow_mono hd h

theorem Made.locate (h : Made v w) (hl : v.locate p = .ok place) : w.locate p = .ok place :=
  locate_mono h.here (fun _ => h.isDirectory) hl

/-! ### Making directories -/

def HasDirectory (w : World) (p : Path) : Prop :=
  ∃ names, w.locate p = .ok names ∧ w.isDirectory names = true

theorem makeDirectory_ok (h : w.makeDirectory p = .ok u) : Made w u ∧ HasDirectory u p := by
  unfold makeDirectory at h
  cases hl : w.locate p with
  | error f => simp [hl, Except.bind] at h
  | ok names =>
    simp only [hl, Except.bind] at h
    split at h
    · next hd =>
      obtain rfl := Except.ok.inj h
      exact ⟨.refl w, names, hl, hd⟩
    · split at h
      · contradiction
      · obtain rfl := Except.ok.inj h
        have hmade : Made w { w with directories := w.directories ++ [names] } := ⟨[names], rfl⟩
        refine ⟨hmade, names, hmade.locate hl, ?_⟩
        exact isDirectory_iff.mpr (.inr (.inl ⟨names, by simp, List.prefix_rfl⟩))

theorem makeDirectory_error {f : PathFault} (h : w.makeDirectory p = .error f) :
    ¬ HasDirectory w p := by
  rintro ⟨names, hl, hd⟩
  simp [makeDirectory, hl, Except.bind, hd] at h

end World

/-- A path as texts give them: no name is empty or has a slash in it. -/
def Path.IsProper (p : Path) : Prop := ∀ n ∈ p.names, n ≠ [] ∧ '/' ∉ n

namespace World

variable {u v w : World} {p : Path} {names place : List Text} {t : Text}

theorem byteCount_append (s t : Text) : Text.byteCount (s ++ t) = Text.byteCount s + Text.byteCount t := by
  have hfold : ∀ (t : Text) (n : Nat),
      t.foldl (fun n c => n + c.utf8Size) n = n + t.foldl (fun n c => n + c.utf8Size) 0 := by
    intro t
    induction t with
    | nil => simp
    | cons c t ih =>
      intro n
      rw [List.foldl_cons, List.foldl_cons, ih, ih (0 + c.utf8Size)]
      omega
  rw [Text.byteCount, List.foldl_append, hfold]
  rfl

/-- The text of a path begins with that of the directory it lies in, unless that is a dot. -/
theorem text_concat {root n : Text} {ns : List Text} (h : Path.IsProper ⟨root, ns ++ [n]⟩) :
    (Path.text ⟨root, ns⟩ = ['.'] ∧ Path.text ⟨root, ns ++ [n]⟩ ≠ [] ∧
        (Path.text ⟨root, ns ++ [n]⟩).head? ≠ some '/') ∨
      (Path.text ⟨root, ns⟩ <+: Path.text ⟨root, ns ++ [n]⟩ ∧ Path.text ⟨root, ns⟩ ≠ []) := by
  have hlonger : Path.text ⟨root, ns ++ [n]⟩ = root ++ Text.join ['/'] (ns ++ [n]) := by
    simp [Path.text]
  rw [hlonger]
  cases ns with
  | nil =>
    obtain ⟨hn, hslash⟩ := h n (by simp)
    have hjoin : Text.join ['/'] ([] ++ [n]) = n := by simp [Text.join]
    rw [hjoin]
    cases root with
    | nil =>
      refine .inl ⟨rfl, hn, ?_⟩
      intro hhead
      exact hslash (List.mem_of_mem_head? hhead)
    | cons c root =>
      have htext : Path.text ⟨c :: root, []⟩ = c :: root := by simp [Path.text, Text.join]
      rw [htext]
      exact .inr ⟨List.prefix_append _ _, List.cons_ne_nil _ _⟩
  | cons m ns =>
    have hm : m ≠ [] := (h m (by simp)).1
    have htext : Path.text ⟨root, m :: ns⟩ = root ++ Text.join ['/'] (m :: ns) := by simp [Path.text]
    rw [htext, Text.join_append (List.cons_ne_nil m ns) (List.cons_ne_nil n []), ← List.append_assoc]
    exact .inr ⟨List.prefix_append _ _, by simp [Text.join_ne_nil hm]⟩

/-- What a path leads to lies in a directory. -/
theorem hasDirectory_of_locate {root n : Text} {ns q : List Text}
    (h : Path.IsProper ⟨root, ns ++ [n]⟩) (hl : w.locate ⟨root, ns ++ [n]⟩ = .ok q) :
    HasDirectory w ⟨root, ns⟩ := by
  obtain ⟨hnull, hempty, hlong, hfollow⟩ := locateAs_eq_ok hl
  obtain ⟨d, hd, hdir⟩ := follow_concat hfollow
  refine ⟨d, ?_, hdir⟩
  rcases text_concat h with ⟨hdot, hne, hhead⟩ | ⟨hfront, hne⟩
  · rw [if_neg hhead] at hd
    rw [locate, hdot]
    exact hd
  · obtain ⟨s, hs⟩ := hfront
    have hhead : (Path.text ⟨root, ns ++ [n]⟩).head? = (Path.text ⟨root, ns⟩).head? := by
      rw [← hs, List.head?_append_of_ne_nil _ hne]
    have hnull' : (Path.text ⟨root, ns⟩).contains (Char.ofNat 0) = false := by
      rw [← hs] at hnull
      simp only [List.contains_eq_mem, decide_eq_false_iff_not, List.mem_append, not_or] at hnull ⊢
      exact hnull.1
    have hlong' : Text.byteCount (Path.text ⟨root, ns⟩) ≤ longestPath := by
      rw [← hs, byteCount_append] at hlong
      omega
    rw [hhead] at hd
    rw [locate, locateAs, hnull', if_neg Bool.false_ne_true, if_neg (by simpa using hne),
      if_neg (by omega)]
    exact hd

/-- A path without names leads to a directory. -/
theorem isDirectory_of_locate {root : Text} {q : List Text} (hl : w.locate ⟨root, []⟩ = .ok q) :
    w.isDirectory q = true := by
  obtain ⟨-, -, -, hfollow⟩ := locateAs_eq_ok hl
  obtain rfl := Except.ok.inj hfollow
  rw [isDirectory_iff]
  split
  · exact .inl List.nil_prefix
  · exact .inl List.prefix_rfl

theorem hasDirectory_parent {q : List Text} (h : p.IsProper) (hl : w.locate p = .ok q) :
    HasDirectory w p.parent := by
  obtain ⟨root, names⟩ := p
  rcases List.eq_nil_or_concat names with rfl | ⟨ns, n, rfl⟩
  · exact ⟨q, hl, isDirectory_of_locate hl⟩
  · rw [List.concat_eq_append] at h hl ⊢
    have hd := hasDirectory_of_locate h hl
    rw [Path.parent, List.dropLast_concat]
    exact hd

/-- How making a directory with those it lies in ends. If it is not there afterwards, neither was it
before. -/
inductive MakesDirectory (p : Path) (w : World) : Except Exception Unit × World → Prop
  | made {u : World} (hu : Made w u) (hd : HasDirectory u p) : MakesDirectory p w (.ok (), u)
  | failed {e : Exception} {u : World} (hu : Made w u)
      (hd : p.IsProper → ¬ HasDirectory w p ∧ ¬ HasDirectory u p) : MakesDirectory p w (.error e, u)

theorem makesDirectory_tryChange (hu : Made w u)
    (hd : p.IsProper → HasDirectory w p → HasDirectory u p) :
    MakesDirectory p w (Action.tryChange
      (fun w => (w.makeDirectory p).mapError (PathFault.exception p.text)) u) := by
  unfold Action.tryChange
  dsimp only
  cases hmake : u.makeDirectory p with
  | ok v =>
    obtain ⟨hv, hd⟩ := makeDirectory_ok hmake
    exact .made (hu.trans hv) hd
  | error f =>
    have hafter := makeDirectory_error hmake
    exact .failed hu fun hp => ⟨fun h => hafter (hd hp h), hafter⟩

theorem makesDirectory_makeThrough (root : Text) (names : List Text) (n : Nat) (w : World) :
    MakesDirectory ⟨root, names.take n⟩ w (makeThrough root names n w) := by
  induction n generalizing w with
  | zero => exact makesDirectory_tryChange (.refl w) fun _ => id
  | succ n ih =>
    have hparent : Path.IsProper ⟨root, names.take (n + 1)⟩ → Path.IsProper ⟨root, names.take n⟩ ∧
        ∀ v, HasDirectory v ⟨root, names.take (n + 1)⟩ → HasDirectory v ⟨root, names.take n⟩ := by
      intro hp
      by_cases hn : n < names.length
      · rw [List.take_succ_eq_append_getElem hn] at hp ⊢
        exact ⟨fun m hm => hp m (List.mem_append_left _ hm),
          fun v ⟨q, hq, _⟩ => hasDirectory_of_locate hp hq⟩
      · rw [List.take_of_length_le (by omega)] at hp ⊢
        rw [List.take_of_length_le (by omega)]
        exact ⟨hp, fun v hv => hv⟩
    unfold makeThrough
    dsimp only
    split
    · next u hmake =>
      obtain ⟨hu, hd⟩ := makeDirectory_ok hmake
      exact .made hu hd
    · next hmake =>
      have hbefore := makeDirectory_error hmake
      have hfront := ih w
      rw [Action.bind_apply]
      generalize makeThrough root names n w = x at hfront ⊢
      cases hfront with
      | made hv hd => exact makesDirectory_tryChange hv fun _ h => absurd h hbefore
      | @failed e u hu hd =>
        refine .failed hu fun hp => ⟨hbefore, ?_⟩
        obtain ⟨hfront, hlies⟩ := hparent hp
        exact fun h => (hd hfront).2 (hlies u h)
    · next f _ hmake =>
      have habsent := makeDirectory_error hmake
      exact .failed (.refl w) fun _ => ⟨habsent, habsent⟩

/-- A directory is made with all those it lies in, or is not there. -/
theorem makesDirectory_makeDirectories (p : Path) (w : World) :
    MakesDirectory p w (makeDirectories p w) := by
  have hmade := makesDirectory_makeThrough p.root p.names p.names.length w
  rwa [List.take_length] at hmade

/-- Neither the file that a path leads to is there nor the directory that it would lie in. -/
def Absent (w : World) (p : Path) : Prop := ¬ HasDirectory w p.parent ∧ ∀ names, w.locate p ≠ .ok names

theorem absent_of_not_hasDirectory (h : p.IsProper) (hd : ¬ HasDirectory w p.parent) : Absent w p :=
  ⟨hd, fun _ hl => hd (hasDirectory_parent h hl)⟩

/-! ### Writing -/

theorem write_eq_ok (h : w.write p t = .ok u) : ∃ names, w.locate p = .ok names ∧
    w.isDirectory names = false ∧ u = { w with files := setFile names t w.files } := by
  rw [write, mapError_eq_ok] at h
  cases hl : w.locate p with
  | error f => simp [hl, Except.bind] at h
  | ok names =>
    simp only [hl, Except.bind] at h
    split at h
    · contradiction
    · next hd => exact ⟨names, rfl, by simpa using hd, (Except.ok.inj h).symm⟩

theorem exists_mem_setFile {f : List Text × Text} {fs : List (List Text × Text)} (hf : f ∈ fs) :
    ∃ g ∈ setFile names t fs, g.1 = f.1 := by
  induction fs with
  | nil => contradiction
  | cons f' fs ih =>
    unfold setFile
    split
    · next hname =>
      rcases List.mem_cons.mp hf with rfl | hf
      · exact ⟨_, List.mem_cons_self, hname.symm⟩
      · exact ⟨f, List.mem_cons_of_mem _ hf, rfl⟩
    · rcases List.mem_cons.mp hf with rfl | hf
      · exact ⟨f, List.mem_cons_self, rfl⟩
      · obtain ⟨g, hg, hname⟩ := ih hf
        exact ⟨g, List.mem_cons_of_mem _ hg, hname⟩

/-- What has been written is in the file that the path leads to. -/
theorem file?_of_write (h : w.write p t = .ok u) :
    ∃ names, u.locate p = .ok names ∧ u.file? names = some t := by
  obtain ⟨names, hl, -, rfl⟩ := write_eq_ok h
  refine ⟨names, locate_mono (v := w) rfl ?_ hl, congrArg (Option.map Prod.snd) (find?_setFile w.files)⟩
  intro place hd
  rw [isDirectory_iff] at hd ⊢
  rcases hd with hd | hd | ⟨f, hf, hd⟩
  · exact .inl hd
  · exact .inr (.inl hd)
  · obtain ⟨g, hg, hname⟩ := exists_mem_setFile hf
    exact .inr (.inr ⟨g, hg, hname ▸ hd⟩)

end World

end Weave
