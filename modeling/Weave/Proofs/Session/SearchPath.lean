import Mathlib.Data.List.Forall2
import Weave.Program.Session
import Weave.Proofs.Session.Evaluations
import Weave.Proofs.Session.Options

/-!
# Directories that sessions search

A session that starts puts the directories of its options in front of the search path of the process.
Of those that are missing there each is put once, in the order in which the options name them last.
What is in front stays there: a directory in which something is evaluated comes and goes, and a
further session finds its directories in place.
-/

set_option autoImplicit false

namespace Weave

namespace Program

/-! ### What is put in front -/

/-- What of some directories a path lacks, each once, in the order of their last occurrences. -/
structure Lacking (ds path added : List Text) : Prop where
  once : added.Nodup
  mem_iff (d : Text) : d ∈ added ↔ d ∈ ds ∧ d ∉ path
  ordered : added.Pairwise fun d e => ∃ before after, ds = before ++ e :: after ∧ d ∉ after

theorem exists_lacking (ds path : List Text) :
    ∃ added, Lacking ds path added ∧ ds ∪ path = added ++ path := by
  induction ds with
  | nil => exact ⟨[], ⟨List.nodup_nil, by simp, .nil⟩, rfl⟩
  | cons d ds ih =>
    obtain ⟨added, h, hunion⟩ := ih
    have hlater : added.Pairwise fun a e => ∃ before after, d :: ds = before ++ e :: after ∧ a ∉ after :=
      h.ordered.imp fun ⟨before, after, heq, ha⟩ => ⟨d :: before, after, by rw [heq, List.cons_append], ha⟩
    rw [List.cons_union, hunion]
    by_cases hd : d ∈ added ++ path
    · refine ⟨added, ⟨h.once, fun a => ?_, hlater⟩, List.insert_of_mem hd⟩
      have hmem : d ∈ ds ∨ d ∈ path :=
        (List.mem_append.mp hd).imp_left fun hadded => ((h.mem_iff d).mp hadded).1
      rw [h.mem_iff, List.mem_cons]
      constructor
      · exact fun ⟨ha, hpath⟩ => ⟨.inr ha, hpath⟩
      · rintro ⟨rfl | ha, hpath⟩
        · exact ⟨hmem.resolve_right hpath, hpath⟩
        · exact ⟨ha, hpath⟩
    · obtain ⟨hadded, hpath⟩ : d ∉ added ∧ d ∉ path := by simpa using hd
      have hds : d ∉ ds := fun hds => hadded ((h.mem_iff d).mpr ⟨hds, hpath⟩)
      refine ⟨d :: added, ⟨List.nodup_cons.mpr ⟨hadded, h.once⟩, fun a => ?_, .cons ?_ hlater⟩,
        List.insert_of_not_mem hd⟩
      · rw [List.mem_cons, List.mem_cons, h.mem_iff]
        constructor
        · rintro (rfl | ⟨ha, hnot⟩)
          · exact ⟨.inl rfl, hpath⟩
          · exact ⟨.inr ha, hnot⟩
        · rintro ⟨rfl | ha, hnot⟩
          · exact .inl rfl
          · exact .inr ⟨ha, hnot⟩
      · intro e he
        obtain ⟨before, after, rfl⟩ := List.append_of_mem ((h.mem_iff e).mp he).1
        exact ⟨d :: before, after, rfl, fun hafter => hds (by simp [hafter])⟩

namespace Lacking

variable {ds path added : List Text}

theorem subset (h : Lacking ds path added) : ds ⊆ added ++ path := by
  intro d hd
  by_cases hpath : d ∈ path
  · exact List.mem_append_right _ hpath
  · exact List.mem_append_left _ ((h.mem_iff d).mpr ⟨hd, hpath⟩)

theorem eq_nil (h : Lacking ds path added) (hds : ds ⊆ path) : added = [] :=
  List.eq_nil_iff_forall_not_mem.mpr fun d hd => ((h.mem_iff d).mp hd).2 (hds ((h.mem_iff d).mp hd).1)

end Lacking

/-! ### Starting a session -/

/-- Arguments that name directories, and nothing that is run when a session starts. -/
def Resolves (args : List Text) (w : World) (ds : List Text) : Prop :=
  ∃ o, SessionOptions.read args = .ok o ∧ o.imports = [] ∧ o.loads = [] ∧
    List.Forall₂ (fun p d => directoryOf w p = .ok d) o.paths ds

/-- The options lead to the same directories wherever the process is, or it is where it was. -/
def SamePlace (args : List Text) (w v : World) : Prop :=
  v.here = w.here ∨
    ∀ o, SessionOptions.read args = .ok o → ∀ p ∈ o.paths, (Path.ofText p).isAbsolute = true

theorem directoryOf_congr {p : Text} {v w : World}
    (h : v.here = w.here ∨ (Path.ofText p).isAbsolute = true) : directoryOf v p = directoryOf w p := by
  unfold directoryOf World.absolute Path.resolve
  rcases h with h | h
  · rw [h]
  · simp only [h, if_true]

theorem Resolves.of_samePlace {args ds : List Text} {v w : World} (h : Resolves args w ds)
    (hv : SamePlace args w v) : Resolves args v ds := by
  obtain ⟨o, hread, himports, hloads, hpaths⟩ := h
  refine ⟨o, hread, himports, hloads, ?_⟩
  rw [List.forall₂_iff_zip] at hpaths ⊢
  refine ⟨hpaths.1, fun {p d} hpd => ?_⟩
  rw [directoryOf_congr (hv.imp_right fun habsolute => habsolute o hread p (List.of_mem_zip hpd).1)]
  exact hpaths.2 hpd

def addEach (ps : List Text) : Action Machine Halt (List Unit) :=
  Action.each (fun path => Action.mapError .raised (Action.onFirst (Action.tryChange (addPath path)))) ps

theorem addEach_of_resolved {ps ds : List Text} {w : World}
    (h : List.Forall₂ (fun p d => directoryOf w p = .ok d) ps ds) (i : Interpreter) :
    ∃ us, addEach ps.reverse (w, i) = (.ok us, { w with searchPath := ds ∪ w.searchPath }, i) := by
  induction h with
  | nil => exact ⟨[], rfl⟩
  | @cons p d ps ds hp _ ih =>
    obtain ⟨us, hus⟩ := ih
    have hadd : addPath p { w with searchPath := ds ∪ w.searchPath } =
        .ok { w with searchPath := (d :: ds) ∪ w.searchPath } := by
      have hd : directoryOf { w with searchPath := ds ∪ w.searchPath } p = .ok d := hp
      rw [addPath, hd]
      rfl
    refine ⟨us ++ [()], ?_⟩
    rw [List.reverse_cons, addEach, Action.each_append]
    unfold addEach at hus
    rw [Action.bind_ok hus]
    simp only [Action.each, Action.bind_apply, Action.mapError, Action.onFirst, Action.tryChange, hadd,
      Action.pure_apply]

theorem restart_of_resolves {args ds : List Text} {m : Machine} (h : Resolves args m.1 ds) (repl : Value) :
    ∃ added i, Lacking ds m.1.searchPath added ∧
      restart args repl m = (.ok (), { m.1 with searchPath := added ++ m.1.searchPath }, i) := by
  obtain ⟨added, hlacking, hunion⟩ := exists_lacking ds m.1.searchPath
  obtain ⟨o, hread, himports, hloads, hpaths⟩ := h
  obtain ⟨us, hus⟩ := addEach_of_resolved hpaths (fresh repl m.2)
  unfold addEach at hus
  rw [restart, hread]
  simp only [applyOptions, himports, hloads, Action.bind_apply, Action.change_apply, Action.mapError, hus,
    hunion, Action.each, Action.pure_apply]
  exact ⟨added, _, hlacking, rfl⟩

/-! ### What happens in between -/

end Program

namespace Errand

open Program (Machine engine)

def after (e : Errand) (m : Machine) : Machine := engine.after e m

/-- The program that is evaluated leaves the search path as it finds it, with the directories in front in
which it is. -/
def SparesPath : Errand → Machine → Prop
  | inside names e, m => ∀ w, m.1.visit names = .ok w → e.SparesPath (w, m.2)
  | e, m => (e.after m).1.searchPath = m.1.searchPath

theorem depart_searchPath {v : World} {names path : List Text}
    (h : v.searchPath = World.nameOf names :: path) (previous : List Text) :
    (v.depart names previous).2.searchPath = path := by
  have herase : v.searchPath.erase (World.nameOf names) = path := by rw [h, List.erase_cons_head]
  rw [World.depart_of_mem (h ▸ List.mem_cons_self), herase]
  cases henter : ({ v with searchPath := path } : World).enter previous with
  | error e => rfl
  | ok u =>
    obtain ⟨place, rfl⟩ := World.enter_eq_ok henter
    rfl

theorem SparesPath.searchPath {e : Errand} {m : Machine} (h : e.SparesPath m) :
    (e.after m).1.searchPath = m.1.searchPath := by
  induction e generalizing m with
  | run text file => exact h
  | eval text file => exact h
  | tryEval text => exact h
  | inside names e ih =>
    unfold after at ih ⊢
    cases hvisit : m.1.visit names with
    | error f => rw [Engine.after_inside_of_error hvisit]
    | ok w =>
      have hpath := ih (h w hvisit)
      obtain ⟨place, rfl⟩ := World.place_of_visit hvisit
      rw [Engine.after_inside hvisit]
      exact depart_searchPath hpath m.1.here

end Errand

namespace Program

/-- What a process comes to in which programs are evaluated that spare the search path, and further
sessions are started with options that lead to the same directories. -/
inductive Later (ds : List Text) (m : Machine) : Machine → Prop where
  | refl : Later ds m m
  | evaluation {n : Machine} (h : Later ds m n) (e : Errand) (he : e.SparesPath n) :
      Later ds m (e.after n)
  | session {n : Machine} (h : Later ds m n) {args : List Text} (hargs : Resolves args n.1 ds)
      (repl : Value) : Later ds m (restart args repl n).2

theorem restart_again {args ds : List Text} {m : Machine} (h : Resolves args m.1 ds)
    (hds : ds ⊆ m.1.searchPath) (repl : Value) : ∃ i, restart args repl m = (.ok (), m.1, i) := by
  obtain ⟨added, i, hlacking, hi⟩ := restart_of_resolves h repl
  obtain rfl := hlacking.eq_nil hds
  exact ⟨i, hi⟩

theorem Later.searchPath {ds : List Text} {m n : Machine} (h : Later ds m n)
    (hds : ds ⊆ m.1.searchPath) : n.1.searchPath = m.1.searchPath := by
  induction h with
  | refl => rfl
  | evaluation _ e he ih => exact he.searchPath.trans ih
  | session _ hargs repl ih =>
    obtain ⟨i, hi⟩ := restart_again hargs (ih ▸ hds) repl
    rw [hi]
    exact ih

/-- A session that starts puts what the search path lacks of its directories in front of it, each
directory once and in the order in which the options name them last. From then on further sessions
with options that lead to the same directories, as the same options do wherever they lead to the same
place, change nothing at all, and what is evaluated in between leaves the path as it is if the
programs do. -/
theorem restart_searchPath {args ds : List Text} {m : Machine} (h : Resolves args m.1 ds)
    (repl : Value) :
    ∃ n added, restart args repl m = (.ok (), n) ∧ Lacking ds m.1.searchPath added ∧
      n.1 = { m.1 with searchPath := added ++ m.1.searchPath } ∧
      (∀ w, SamePlace args m.1 w → Resolves args w ds) ∧
      ∀ k, Later ds n k → k.1.searchPath = n.1.searchPath ∧
        ∀ args', Resolves args' k.1 ds → ∀ repl', ∃ i, restart args' repl' k = (.ok (), k.1, i) := by
  obtain ⟨added, i, hlacking, hi⟩ := restart_of_resolves h repl
  have hds := hlacking.subset
  refine ⟨_, added, hi, hlacking, rfl, fun w => h.of_samePlace, fun k hk => ?_⟩
  have hpath := hk.searchPath hds
  exact ⟨hpath, fun args' h' repl' => restart_again h' (hpath ▸ hds) repl'⟩

def atWork : Machine :=
  ({ here := ["d".toList], directories := [["d".toList]], searchPath := ["/opt".toList] }, {})

def pathOptions : List Text :=
  [(SessionOption.path, "lib".toList), (.path, "/opt".toList), (.path, "/usr".toList),
    (.path, "lib".toList)].map SessionOption.written

theorem resolves_pathOptions :
    Resolves pathOptions atWork.1 (["/d/lib", "/opt", "/usr", "/d/lib"].map String.toList) := by
  refine ⟨_, SessionOptions.read_eq _, rfl, rfl, ?_⟩
  show List.Forall₂ _ (["lib", "/opt", "/usr", "lib"].map String.toList) _
  exact .cons rfl (.cons rfl (.cons rfl (.cons rfl .nil)))

theorem restart_searchPath_atWork :
    Resolves pathOptions atWork.1 (["/d/lib", "/opt", "/usr", "/d/lib"].map String.toList) ∧
      ∃ n, restart pathOptions .none atWork = (.ok (), n) ∧
        n.1.searchPath = ["/usr", "/d/lib", "/opt"].map String.toList ∧
        ∃ i, restart pathOptions .none ((Errand.inside [] (.run "x = 1".toList none)).after n) =
          (.ok (), ((Errand.inside [] (.run "x = 1".toList none)).after n).1, i) := by
  obtain ⟨n, added, hn, -, -, hplace, hlater⟩ := restart_searchPath resolves_pathOptions .none
  obtain rfl : (restart pathOptions .none atWork).2 = n := congrArg Prod.snd hn
  refine ⟨resolves_pathOptions, _, hn, by decide +kernel, ?_⟩
  have hspares : (Errand.inside [] (.run "x = 1".toList none)).SparesPath
      (restart pathOptions .none atWork).2 := by
    intro w hw
    obtain rfl := Except.ok.inj hw
    show World.searchPath _ = World.searchPath _
    decide +kernel
  have hsame : SamePlace pathOptions atWork.1
      ((Errand.inside [] (.run "x = 1".toList none)).after (restart pathOptions .none atWork).2).1 :=
    .inl (by decide +kernel)
  exact (hlater _ (Later.evaluation .refl _ hspares)).2 _ (hplace _ hsame) _

end Program

end Weave
