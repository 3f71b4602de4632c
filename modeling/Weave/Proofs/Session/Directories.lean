import Mathlib.Data.List.Basic
import Weave.Proofs.World.Tree
import Weave.Session

/-!
# Coming back from a directory

An action in a directory finds the directory at the front of the search path, and may do with the path
what it likes. Afterwards the first entry of that name is struck, whichever it is, and only then the way
back is taken. So what was there before comes back exactly if the struck entry is as good as the one that
was put in front and the way back is open; where there is no entry to strike, the process stays where the
action has left it.
-/

set_option autoImplicit false

namespace Weave

section Erase

variable {α : Type} {a : α}

theorem append_cons_eq_cons_append_iff (l l' : List α) :
    l ++ a :: l' = a :: (l ++ l') ↔ l = List.replicate l.length a := by
  induction l with
  | nil => simp
  | cons b l ih =>
    rw [List.length_cons, List.replicate_succ, List.cons_append, List.cons_append, List.cons.injEq,
      List.cons.injEq]
    constructor
    · rintro ⟨rfl, h⟩
      exact ⟨rfl, ih.mp h⟩
    · rintro ⟨rfl, h⟩
      exact ⟨rfl, ih.mpr h⟩

/-- Striking the first occurrence is striking a given one exactly if nothing else stands between the
two. -/
theorem erase_append_cons_iff [BEq α] [LawfulBEq α] (l l' : List α) :
    (l ++ a :: l').erase a = l ++ l' ↔ ∃ k n, l = k ++ List.replicate n a ∧ a ∉ k := by
  induction l with
  | nil =>
    rw [List.nil_append, List.erase_cons_head]
    exact iff_of_true rfl ⟨[], 0, rfl, List.not_mem_nil⟩
  | cons b l ih =>
    by_cases hb : b = a
    · subst hb
      rw [List.cons_append, List.erase_cons_head, List.cons_append, append_cons_eq_cons_append_iff]
      constructor
      · intro h
        exact ⟨[], l.length + 1, by rw [List.replicate_succ, ← h, List.nil_append], by simp⟩
      · rintro ⟨k, n, h, hk⟩
        cases k with
        | nil =>
          cases n with
          | zero => simp at h
          | succ n =>
            obtain ⟨-, rfl⟩ := List.cons.inj h
            simp
        | cons c k => exact absurd ((List.cons.inj h).1 ▸ List.mem_cons_self) hk
    · rw [List.cons_append, List.erase_cons_tail (by simpa using hb), List.cons_append,
        List.cons.injEq, and_iff_right rfl, ih]
      constructor
      · rintro ⟨k, n, rfl, hk⟩
        exact ⟨b :: k, n, rfl, by simp [hk, Ne.symm hb]⟩
      · rintro ⟨k, n, h, hk⟩
        cases k with
        | nil =>
          cases n with
          | zero => simp at h
          | succ n => exact absurd (List.cons.inj h).1 hb
        | cons c k => exact ⟨k, n, (List.cons.inj h).2, fun hm => hk (List.mem_cons_of_mem _ hm)⟩

end Erase

/-! ### The entry that was put in front -/

/-- Where an action leaves the entry that was put in front of the search path: between others, or off the
path. -/
inductive Prepended where
  | kept (front back : List Text)
  | removed (path : List Text)

namespace Prepended

def path (name : Text) : Prepended → List Text
  | kept front back => front ++ name :: back
  | removed path => path

/-- The path with exactly this entry taken away. -/
def rest : Prepended → List Text
  | kept front back => front ++ back
  | removed path => path

/-- Nothing but entries of the same name stands between the first of these and this one. -/
def IsFirst (name : Text) : Prepended → Prop
  | kept front _ => ∃ others n, front = others ++ List.replicate n name ∧ name ∉ others
  | removed _ => False

/-- The first entry of a name is as good as the one that was put in front. -/
theorem isFirst_iff (name : Text) (entry : Prepended) :
    entry.IsFirst name ↔ name ∈ entry.path name ∧ (entry.path name).erase name = entry.rest := by
  cases entry with
  | kept front back =>
    have hmem : name ∈ front ++ name :: back := by simp
    rw [Prepended.path, rest, erase_append_cons_iff, and_iff_right hmem, IsFirst]
  | removed path =>
    refine iff_of_false id ?_
    rintro ⟨hmem, herase⟩
    have hlength := List.length_erase_of_mem hmem
    have hpos := List.length_pos_of_mem hmem
    rw [herase] at hlength
    simp only [Prepended.path, rest] at hlength hpos
    omega

end Prepended

namespace World

variable {v : World} {names previous : List Text} {entry : Prepended}

/-- A directory is left for the one before it, with exactly its own entry taken away, if and only if no
other entry is struck for it and the way back is open. -/
theorem depart_eq_iff (hpath : v.searchPath = entry.path (nameOf names)) :
    v.depart names previous = (.ok (), { v with here := previous, searchPath := entry.rest }) ↔
      entry.IsFirst (nameOf names) ∧
        ({ v with searchPath := entry.rest } : World).enter previous =
          .ok { v with here := previous, searchPath := entry.rest } := by
  rw [entry.isFirst_iff, ← hpath]
  constructor
  · intro h
    by_cases hmem : nameOf names ∈ v.searchPath
    · rw [depart_of_mem hmem] at h
      cases henter : ({ v with searchPath := v.searchPath.erase (nameOf names) } : World).enter
          previous with
      | error e => simp [henter] at h
      | ok u =>
        obtain ⟨place, rfl⟩ := enter_eq_ok henter
        rw [henter] at h
        have hplace : place = previous := congrArg (fun x => x.2.here) h
        have herase : v.searchPath.erase (nameOf names) = entry.rest :=
          congrArg (fun x => x.2.searchPath) h
        rw [herase, hplace] at henter
        exact ⟨⟨hmem, herase⟩, henter⟩
    · rw [depart_of_not_mem hmem] at h
      simp at h
  · rintro ⟨⟨hmem, herase⟩, henter⟩
    rw [depart_of_mem hmem, herase, henter]

end World

namespace Session

variable {τ α : Type} {names : List Text} {p : Action (World × τ) Halt α} {s : World × τ}
  {v w : World} {t : τ} {r : Except Halt α}

theorem inDirectory_of_visit (hvisit : s.1.visit names = .ok w) (hbody : p (w, s.2) = (r, v, t)) :
    inDirectory names p s =
      match v.depart names s.1.here with
      | (.ok _, u) => (r, u, t)
      | (.error e, u) => (.error (.raised e), u, t) := by
  simp only [inDirectory, hvisit, Action.andFinally, hbody, Action.mapError, Action.onFirst]
  rcases v.depart names s.1.here with ⟨_ | _, u⟩ <;> rfl

/-- However an action in a directory ends and wherever it leaves the entry that was put in front of
the search path: its outcome is the action's own, in the directory of before and with exactly this
entry taken away, if and only if the entry is the first of its name, or as good as that, and the way
back is open. With no entry of the name on the path, leaving fails for this alone and does not go
back. -/
theorem inDirectory_restores_iff {entry : Prepended} (hvisit : s.1.visit names = .ok w)
    (hbody : p (w, s.2) = (r, v, t)) (hpath : v.searchPath = entry.path (World.nameOf names)) :
    (inDirectory names p s =
        match v.depart names s.1.here with
        | (.ok _, u) => (r, u, t)
        | (.error e, u) => (.error (.raised e), u, t)) ∧
      (v.depart names s.1.here =
          (.ok (), { v with here := s.1.here, searchPath := entry.rest }) ↔
        entry.IsFirst (World.nameOf names) ∧
          ({ v with searchPath := entry.rest } : World).enter s.1.here =
            .ok { v with here := s.1.here, searchPath := entry.rest }) ∧
      (World.nameOf names ∉ v.searchPath → inDirectory names p s =
        (.error (.raised (.ofMessage "ValueError" "list.remove(x): x not in list".toList)), v, t)) := by
  have hleave := inDirectory_of_visit hvisit hbody
  refine ⟨hleave, World.depart_eq_iff hpath, ?_⟩
  intro hmem
  rw [hleave, World.depart_of_not_mem hmem]

def oneDirectory : World := { directories := [["d".toList]] }

def clearPath : Action (World × Unit) Halt Unit :=
  Action.change fun s => ({ s.1 with searchPath := [] }, s.2)

theorem inDirectory_clearPath :
    oneDirectory.visit ["d".toList] =
        .ok { oneDirectory with here := ["d".toList], searchPath := ["/d".toList] } ∧
      clearPath ({ oneDirectory with here := ["d".toList], searchPath := ["/d".toList] }, ()) =
        (.ok (), { oneDirectory with here := ["d".toList] }, ()) ∧
      ([] : List Text) = (Prepended.removed []).path (World.nameOf ["d".toList]) ∧
      ({ oneDirectory with here := ["d".toList] } : World).depart ["d".toList] oneDirectory.here ≠
        (.ok (), oneDirectory) ∧
      inDirectory ["d".toList] clearPath (oneDirectory, ()) =
        (.error (.raised (.ofMessage "ValueError" "list.remove(x): x not in list".toList)),
          { oneDirectory with here := ["d".toList] }, ()) := by
  have hvisit : oneDirectory.visit ["d".toList] =
      .ok { oneDirectory with here := ["d".toList], searchPath := ["/d".toList] } := rfl
  have hbody : clearPath ({ oneDirectory with
      here := ["d".toList], searchPath := ["/d".toList] }, ()) =
    (.ok (), { oneDirectory with here := ["d".toList] }, ()) := rfl
  have hpath : ([] : List Text) = (Prepended.removed []).path (World.nameOf ["d".toList]) := rfl
  obtain ⟨-, hiff, hmissing⟩ := inDirectory_restores_iff (s := (oneDirectory, ())) hvisit hbody hpath
  exact ⟨hvisit, hbody, hpath, fun h => (hiff.mp h).1, hmissing List.not_mem_nil⟩

end Session

end Weave
