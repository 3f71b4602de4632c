import Weave.Proofs.Snippet.Expansion

/-!
# How deep embeds nest

A snippet is composed by a recursion that follows the names under which definitions are kept, and that
is refused where it comes to a snippet whose own name is on its way already. Nothing else bounds it.
No way holds a name twice, so none is longer than there are own names, and the recursion ends among
all definitions, with the expansion of the snippet.
-/

set_option autoImplicit false

namespace Weave.Snippet

/-- What a call of the recursion is given: the own names on the way to a snippet, and the snippet. -/
structure Call where
  path : List Text
  snippet : Snippet

def Call.depth (call : Call) : Nat := call.path.length + 1

mutual

/-- A call ends. The calls are those that are made up to there, this one first. -/
inductive Ends (defs : Definitions) : Call → List Call → Expansion → Prop
  | refused {path : List Text} {s : Snippet} (h : s.name ∈ path) :
      Ends defs ⟨path, s⟩ [⟨path, s⟩] (.cycle (path ++ [s.name]))
  | entered {path : List Text} {s : Snippet} {calls : List Call} {e : Expansion} (h : s.name ∉ path)
      (hrules : RulesEnd defs (path ++ [s.name]) s.rules calls e) :
      Ends defs ⟨path, s⟩ (⟨path, s⟩ :: calls) e

/-- Rules are gone through one after the other. A call that ends in a cycle breaks this off. -/
inductive RulesEnd (defs : Definitions) : List Text → List Rule → List Call → Expansion → Prop
  | nil {path : List Text} : RulesEnd defs path [] [] (.done [])
  | text {path : List Text} {t : Text} {rules : List Rule} {calls : List Call} {e : Expansion}
      (h : RulesEnd defs path rules calls e) :
      RulesEnd defs path (.text t :: rules) calls ((Expansion.done t).append e)
  | undefined {path : List Text} {name : Text} {rules : List Rule} {calls : List Call}
      {e : Expansion} (hd : defs.get? name = none) (h : RulesEnd defs path rules calls e) :
      RulesEnd defs path (.embed name :: rules) calls ((Expansion.mk [name] (.ok [])).append e)
  | embed {path : List Text} {name t : Text} {d : Snippet} {rules : List Rule}
      {calls calls' : List Call} {e e' : Expansion} (hd : defs.get? name = some d)
      (hcall : Ends defs ⟨path, d⟩ calls e) (ht : e.outcome = .ok t)
      (h : RulesEnd defs path rules calls' e') :
      RulesEnd defs path (.embed name :: rules) (calls ++ calls') (e.append e')
  | broken {path p : List Text} {name : Text} {d : Snippet} {rules : List Rule}
      {calls : List Call} {e : Expansion} (hd : defs.get? name = some d)
      (hcall : Ends defs ⟨path, d⟩ calls e) (hp : e.outcome = .error p) :
      RulesEnd defs path (.embed name :: rules) calls e

end

variable {defs : Definitions}

/-! ### One end only -/

mutual

theorem Ends.unique {call : Call} {calls calls' : List Call} {e e' : Expansion}
    (h : Ends defs call calls e) (h' : Ends defs call calls' e') : calls' = calls ∧ e' = e := by
  match h, h' with
  | .refused _, .refused _ => exact ⟨rfl, rfl⟩
  | .refused hs, .entered hs' _ => exact absurd hs hs'
  | .entered hs _, .refused hs' => exact absurd hs' hs
  | .entered _ hrules, .entered _ hrules' =>
    have hends := RulesEnd.unique hrules hrules'
    exact ⟨by rw [hends.1], hends.2⟩

theorem RulesEnd.unique {path : List Text} {rules : List Rule} {calls calls' : List Call}
    {e e' : Expansion} (h : RulesEnd defs path rules calls e)
    (h' : RulesEnd defs path rules calls' e') : calls' = calls ∧ e' = e := by
  match h, h' with
  | .nil, .nil => exact ⟨rfl, rfl⟩
  | .text h, .text h' =>
    have hends := RulesEnd.unique h h'
    exact ⟨hends.1, by rw [hends.2]⟩
  | .undefined _ h, .undefined _ h' =>
    have hends := RulesEnd.unique h h'
    exact ⟨hends.1, by rw [hends.2]⟩
  | .undefined hd _, .embed hd' _ _ _ => simp [hd] at hd'
  | .undefined hd _, .broken hd' _ _ => simp [hd] at hd'
  | .embed hd _ _ _, .undefined hd' _ => simp [hd] at hd'
  | .broken hd _ _, .undefined hd' _ => simp [hd] at hd'
  | .embed hd hcall _ h, .embed hd' hcall' _ h' =>
    have hsame := Option.some.inj (hd.symm.trans hd')
    subst hsame
    have hfirst := Ends.unique hcall hcall'
    have hothers := RulesEnd.unique h h'
    exact ⟨by rw [hfirst.1, hothers.1], by rw [hfirst.2, hothers.2]⟩
  | .embed hd hcall ht _, .broken hd' hcall' hp =>
    have hsame := Option.some.inj (hd.symm.trans hd')
    subst hsame
    rw [(Ends.unique hcall hcall').2, ht] at hp
    cases hp
  | .broken hd hcall hp, .embed hd' hcall' ht _ =>
    have hsame := Option.some.inj (hd.symm.trans hd')
    subst hsame
    rw [(Ends.unique hcall hcall').2, hp] at ht
    cases ht
  | .broken hd hcall _, .broken hd' hcall' _ =>
    have hsame := Option.some.inj (hd.symm.trans hd')
    subst hsame
    exact Ends.unique hcall hcall'

end

/-! ### Names on the way -/

/-- The way holds only own names, and none of them twice. -/
structure Call.Straight (own : List Text) (call : Call) : Prop where
  nodup : call.path.Nodup
  subset : call.path ⊆ own
  mem : call.snippet.name ∈ own

section

variable {own : List Text}

theorem Call.Straight.embedded {path : List Text} {s d : Snippet}
    (h : Call.Straight own ⟨path, s⟩) (hs : s.name ∉ path) (hd : d.name ∈ own) :
    Call.Straight own ⟨path ++ [s.name], d⟩ where
  nodup := nodup_concat h.nodup hs
  subset := List.append_subset.mpr ⟨h.subset, by simpa using h.mem⟩
  mem := hd

theorem Call.Straight.depth_le {call : Call} (h : call.Straight own) :
    call.depth ≤ own.length + 1 :=
  Nat.succ_le_succ (List.subperm_of_subset h.nodup h.subset).length_le

end

mutual

/-- An embed is followed only where the name of the snippet that has it was not on the way yet. -/
theorem Ends.straight {own : List Text} {call : Call} {calls : List Call} {e : Expansion}
    (hown : ∀ name d, defs.get? name = some d → d.name ∈ own) (h : Ends defs call calls e)
    (hcall : call.Straight own) : ∀ call' ∈ calls, call'.Straight own := by
  match h with
  | .refused _ => exact List.forall_mem_singleton.mpr hcall
  | .entered hs hrules =>
    have hbehind := RulesEnd.straight hown hrules fun name d hd =>
      hcall.embedded hs (hown name d hd)
    exact List.forall_mem_cons.mpr ⟨hcall, hbehind⟩

theorem RulesEnd.straight {own path : List Text} {rules : List Rule} {calls : List Call}
    {e : Expansion} (hown : ∀ name d, defs.get? name = some d → d.name ∈ own)
    (h : RulesEnd defs path rules calls e)
    (hpath : ∀ name d, defs.get? name = some d → Call.Straight own ⟨path, d⟩) :
    ∀ call' ∈ calls, call'.Straight own := by
  match h with
  | .nil => exact List.forall_mem_nil _
  | .text h => exact RulesEnd.straight hown h hpath
  | .undefined _ h => exact RulesEnd.straight hown h hpath
  | .embed hd hcall _ h =>
    have hfirst := Ends.straight hown hcall (hpath _ _ hd)
    exact List.forall_mem_append.mpr ⟨hfirst, RulesEnd.straight hown h hpath⟩
  | .broken hd hcall _ => exact Ends.straight hown hcall (hpath _ _ hd)

end

/-! ### The recursion ends -/

theorem append_of_error {e : Expansion} {p : List Text} (h : e.outcome = .error p)
    (next : Expansion) : e.append next = e := by
  obtain ⟨missing, outcome⟩ := e
  obtain rfl : outcome = .error p := h
  rfl

theorem exists_rulesEnd {path : List Text} {expand : Snippet → Expansion} (rules : List Rule)
    (h : ∀ name d, defs.get? name = some d → ∃ calls, Ends defs ⟨path, d⟩ calls (expand d)) :
    ∃ calls, RulesEnd defs path rules calls (expandRules defs expand rules) := by
  induction rules with
  | nil => exact ⟨[], .nil⟩
  | cons rule rules ih =>
    obtain ⟨others, hothers⟩ := ih
    cases rule with
    | text t => exact ⟨others, .text hothers⟩
    | embed name =>
      simp only [expandRules]
      split
      next d hd =>
        obtain ⟨calls, hcall⟩ := h name d hd
        cases hout : (expand d).outcome with
        | ok t => exact ⟨calls ++ others, .embed hd hcall hout hothers⟩
        | error p =>
          rw [append_of_error hout]
          exact ⟨calls, .broken hd hcall hout⟩
      next hd => exact ⟨others, .undefined hd hothers⟩

/-- A depth that goes beyond the names that are left cuts nothing off. -/
theorem exists_ends {own : List Text} (hown : ∀ name d, defs.get? name = some d → d.name ∈ own)
    (depth : Nat) {path : List Text} {s : Snippet} (h : Fits own depth path s) :
    ∃ calls, Ends defs ⟨path, s⟩ calls (expandFrom defs depth path s) := by
  induction depth generalizing path s with
  | zero => exact ⟨_, .refused h.mem_path⟩
  | succ depth ih =>
    simp only [expandFrom]
    split
    next hs => exact ⟨_, .refused hs⟩
    next hs =>
      obtain ⟨calls, hrules⟩ := exists_rulesEnd s.rules fun name d hd =>
        ih (h.embedded hs (hown name d hd))
      exact ⟨_, .entered hs hrules⟩

theorem nodup_eraseDups (names : List Text) : names.eraseDups.Nodup := by
  -- on the length: without the first name and its equals the list is shorter, but no part of it
  induction hn : names.length using Nat.strongRecOn generalizing names with
  | ind n ih =>
    cases names with
    | nil => simp
    | cons name names =>
      rw [List.eraseDups_cons, List.nodup_cons]
      refine ⟨by simp, ih _ ?_ _ rfl⟩
      rw [← hn, List.length_cons]
      exact Nat.lt_succ_of_le (List.length_filter_le _ _)

theorem mem_ownNames_iff {s : Snippet} {name : Text} :
    name ∈ ownNames defs s ↔ name = s.name ∨ ∃ entry ∈ defs.entries, entry.2.name = name := by
  simp [ownNames]

/-- Composing a snippet ends, in one way only and with its expansion. The names on the way to each
call are distinct, and the calls that are under way at once are no more than the own names and one. -/
theorem expand_nesting (defs : Definitions) (s : Snippet) :
    (ownNames defs s).Nodup ∧
    (∀ name, name ∈ ownNames defs s ↔
      name = s.name ∨ ∃ entry ∈ defs.entries, entry.2.name = name) ∧
    ∃ calls, (∀ calls' e, Ends defs ⟨[], s⟩ calls' e ↔ calls' = calls ∧ e = expand defs s) ∧
      ∀ call ∈ calls, call.path.Nodup ∧ call.path ⊆ ownNames defs s ∧
        call.depth ≤ (ownNames defs s).length + 1 := by
  have hown : ∀ name d, defs.get? name = some d → d.name ∈ ownNames defs s :=
    fun _ _ hd => mem_ownNames hd
  obtain ⟨calls, hends⟩ := exists_ends hown (ownNames defs s).length
    ⟨.nil, List.nil_subset _, mem_ownNames_self, by simp⟩
  have hstraight := Ends.straight hown hends ⟨.nil, List.nil_subset _, mem_ownNames_self⟩
  refine ⟨nodup_eraseDups _, fun _ => mem_ownNames_iff, calls, ?_, ?_⟩
  · intro calls' e
    constructor
    · exact hends.unique
    · rintro ⟨rfl, rfl⟩
      exact hends
  · intro call hcall
    have hway := hstraight call hcall
    exact ⟨hway.nodup, hway.subset, hway.depth_le⟩

/-! ### A loop across other names -/

/-- Two snippets that embed each other, each kept under another name than its own. -/
def crossed : Definitions :=
  ⟨[(['x'], ⟨['a'], {}, [.embed ['y']]⟩), (['y'], ⟨['b'], {}, [.embed ['x']]⟩)]⟩

def crossing : Snippet := ⟨['c'], {}, [.embed ['z'], .embed ['x']]⟩

theorem ends_crossing : Ends crossed ⟨[], crossing⟩
    [⟨[], crossing⟩, ⟨[['c']], ⟨['a'], {}, [.embed ['y']]⟩⟩,
      ⟨[['c'], ['a']], ⟨['b'], {}, [.embed ['x']]⟩⟩,
      ⟨[['c'], ['a'], ['b']], ⟨['a'], {}, [.embed ['y']]⟩⟩]
    ⟨[['z']], .error [['c'], ['a'], ['b'], ['a']]⟩ := by
  have hloop : Ends crossed ⟨[['c'], ['a'], ['b']], ⟨['a'], {}, [.embed ['y']]⟩⟩ _ _ :=
    .refused (by decide)
  have hsecond : Ends crossed ⟨[['c'], ['a']], ⟨['b'], {}, [.embed ['x']]⟩⟩ _ _ :=
    .entered (by decide) (.broken rfl hloop rfl)
  have hfirst : Ends crossed ⟨[['c']], ⟨['a'], {}, [.embed ['y']]⟩⟩ _ _ :=
    .entered (by decide) (.broken rfl hsecond rfl)
  exact .entered (by decide) (.undefined rfl (.broken rfl hfirst rfl))

/-- With three own names four calls are under way where the loop is refused. -/
theorem expand_nesting_crossing :
    ∃ calls, Ends crossed ⟨[], crossing⟩ calls (expand crossed crossing) ∧
      ∃ call ∈ calls, call.path = [['c'], ['a'], ['b']] ∧ call.path.Nodup ∧
        call.depth = (ownNames crossed crossing).length + 1 := by
  obtain ⟨-, -, calls, hends, hcalls⟩ := expand_nesting crossed crossing
  obtain ⟨rfl, hexpand⟩ := (hends _ _).mp ends_crossing
  refine ⟨_, hexpand ▸ ends_crossing, ⟨[['c'], ['a'], ['b']], ⟨['a'], {}, [.embed ['y']]⟩⟩,
    by simp, rfl, ?_, by decide⟩
  exact (hcalls _ (by simp)).1

end Weave.Snippet
