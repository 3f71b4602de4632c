import Mathlib.Data.List.Nodup
import Mathlib.Data.List.Perm.Subperm
import Weave.Snippet

/-!
# Expansions

Expanding a snippet goes down every chain of embeds, each snippet's rules from the left. It ends at
the first chain that comes back to a name; without such a chain the expansion is that of the tree to
which the embeds unfold. Definitions may be kept under other names than their own: embeds follow the
names under which definitions are kept, and a chain comes back where a snippet's own name does.
-/

set_option autoImplicit false

namespace Weave

theorem Dictionary.mem_entries_of_get? {α : Type} {d : Dictionary α} {name : Text} {v : α}
    (h : d.get? name = some v) : (name, v) ∈ d.entries := by
  obtain ⟨entries⟩ := d
  simp only [get?] at h
  induction entries with
  | nil => exact nomatch h
  | cons e es ih =>
    obtain ⟨n, w⟩ := e
    simp only [find?] at h
    split at h
    next hn =>
      obtain rfl := Option.some.inj h
      exact hn ▸ List.mem_cons_self
    next hn => exact List.mem_cons_of_mem _ (ih h)

namespace Expansion

variable {e next : Expansion}

theorem append_eq_error {p : List Text} :
    (e.append next).outcome = .error p ↔
      e.outcome = .error p ∨ ∃ t, e.outcome = .ok t ∧ next.outcome = .error p := by
  unfold append
  cases he : e.outcome with
  | error q => simp
  | ok t => cases next.outcome <;> simp [Except.map]

theorem append_eq_ok {u : Text} (h : (e.append next).outcome = .ok u) :
    ∃ t v, e.outcome = .ok t ∧ next.outcome = .ok v ∧ u = t ++ v ∧
      (e.append next).missing = e.missing ++ next.missing := by
  unfold append at h ⊢
  cases he : e.outcome with
  | error q => simp [he] at h
  | ok t =>
    cases hn : next.outcome with
    | error q => simp [he, hn, Except.map] at h
    | ok v =>
      simp only [he, hn, Except.map, Except.ok.injEq] at h
      exact ⟨t, v, rfl, rfl, h.symm, rfl⟩

end Expansion

namespace Snippet

/-- A chain of embeds from a snippet on: the positions of the rules it follows, one in each snippet but
the last, and the own names of the snippets it visits. -/
inductive Chain (defs : Definitions) : Snippet → List Nat → List Text → Prop
  | stop (s : Snippet) : Chain defs s [] [s.name]
  | step {s d : Snippet} {i : Nat} {is : List Nat} {name : Text} {names : List Text}
      (hi : s.rules[i]? = some (.embed name)) (hd : defs.get? name = some d)
      (h : Chain defs d is names) : Chain defs s (i :: is) (s.name :: names)

/-- Names of which the last is the first to occur a second time. -/
def Closes (names : List Text) : Prop :=
  ∃ front last, names = front ++ [last] ∧ front.Nodup ∧ last ∈ front

/-- The first chain, in depth and from the left, that comes back to a name. -/
structure FirstLoop (defs : Definitions) (s : Snippet) (is : List Nat) (names : List Text) :
    Prop where
  chain : Chain defs s is names
  closes : Closes names
  first : ∀ js names', Chain defs s js names' → Closes names' → ¬ js < is

/-- The text to which rules unfold, and the undefined names among the embeds that are met. -/
inductive Expands (defs : Definitions) : List Rule → Text → List Text → Prop
  | nil : Expands defs [] [] []
  | text {rules : List Rule} {u : Text} {ms : List Text} (t : Text) (h : Expands defs rules u ms) :
      Expands defs (.text t :: rules) (t ++ u) ms
  | embed {d : Snippet} {rules : List Rule} {name t u : Text} {ms ns : List Text}
      (hd : defs.get? name = some d) (ht : Expands defs d.rules t ms)
      (h : Expands defs rules u ns) : Expands defs (.embed name :: rules) (t ++ u) (ms ++ ns)
  | undefined {rules : List Rule} {name u : Text} {ms : List Text} (hd : defs.get? name = none)
      (h : Expands defs rules u ms) : Expands defs (.embed name :: rules) u (name :: ms)

variable {defs : Definitions} {s : Snippet}

theorem Expands.unique {rules : List Rule} {t u : Text} {ms ns : List Text}
    (h : Expands defs rules t ms) (h' : Expands defs rules u ns) : t = u ∧ ms = ns := by
  induction h generalizing u ns with
  | nil => cases h' with | nil => exact ⟨rfl, rfl⟩
  | text t _ ih =>
    cases h' with
    | text _ h' =>
      obtain ⟨rfl, rfl⟩ := ih h'
      exact ⟨rfl, rfl⟩
  | embed hd _ _ iht ih =>
    cases h' with
    | embed hd' ht' h' =>
      obtain rfl := Option.some.inj (hd.symm.trans hd')
      obtain ⟨rfl, rfl⟩ := iht ht'
      obtain ⟨rfl, rfl⟩ := ih h'
      exact ⟨rfl, rfl⟩
    | undefined hd' => simp [hd] at hd'
  | undefined hd _ ih =>
    cases h' with
    | embed hd' => simp [hd] at hd'
    | undefined _ h' =>
      obtain ⟨rfl, rfl⟩ := ih h'
      exact ⟨rfl, rfl⟩

theorem Chain.unique {is : List Nat} {names names' : List Text} (h : Chain defs s is names)
    (h' : Chain defs s is names') : names = names' := by
  induction h generalizing names' with
  | stop s => cases h' with | stop => rfl
  | step hi hd _ ih =>
    cases h' with
    | step hi' hd' h' =>
      rw [hi, Option.some.injEq, Rule.embed.injEq] at hi'
      subst hi'
      obtain rfl := Option.some.inj (hd.symm.trans hd')
      rw [ih h']

theorem FirstLoop.unique {is js : List Nat} {names names' : List Text}
    (h : FirstLoop defs s is names) (h' : FirstLoop defs s js names') : names = names' := by
  have heq : is = js := List.le_antisymm (List.not_lt.mp (h.first _ _ h'.chain h'.closes))
    (List.not_lt.mp (h'.first _ _ h.chain h.closes))
  subst heq
  exact h.chain.unique h'.chain

theorem Closes.not_nodup {names : List Text} (h : Closes names) : ¬ names.Nodup := by
  obtain ⟨front, last, rfl, -, hmem⟩ := h
  intro hn
  exact (List.nodup_append.mp hn).2.2 last hmem last List.mem_cons_self rfl

theorem nodup_concat {path : List Text} {name : Text} (hp : path.Nodup) (hn : name ∉ path) :
    (path ++ [name]).Nodup := by
  simpa using hp.concat hn

theorem closes_concat {path : List Text} {name : Text} (hp : path.Nodup) :
    Closes (path ++ [name]) ↔ name ∈ path := by
  constructor
  · rintro ⟨front, last, he, -, hmem⟩
    obtain ⟨rfl, hlast⟩ := List.append_inj' he rfl
    rw [List.singleton_inj.mp hlast]
    exact hmem
  · intro hmem
    exact ⟨path, name, rfl, hp, hmem⟩

/-! ### Chains from the rules of a snippet -/

/-- A chain that starts with one of these rules, and the names behind the snippet that has them. -/
inductive ChainIn (defs : Definitions) (rules : List Rule) : List Nat → List Text → Prop
  | step {d : Snippet} {i : Nat} {is : List Nat} {name : Text} {names : List Text}
      (hi : rules[i]? = some (.embed name)) (hd : defs.get? name = some d)
      (h : Chain defs d is names) : ChainIn defs rules (i :: is) names

theorem chain_iff {is : List Nat} {names : List Text} :
    Chain defs s is names ↔ is = [] ∧ names = [s.name] ∨
      ∃ names', ChainIn defs s.rules is names' ∧ names = s.name :: names' := by
  constructor
  · intro h
    cases h with
    | stop => exact .inl ⟨rfl, rfl⟩
    | step hi hd h => exact .inr ⟨_, .step hi hd h, rfl⟩
  · rintro (⟨rfl, rfl⟩ | ⟨names', ⟨hi, hd, h⟩, rfl⟩)
    · exact .stop s
    · exact .step hi hd h

theorem not_chainIn_nil {is : List Nat} {names : List Text} : ¬ ChainIn defs [] is names := by
  rintro ⟨hi, -, -⟩
  simp at hi

theorem ChainIn.later {rule : Rule} {rules : List Rule} {i : Nat} {is : List Nat}
    {names : List Text} (h : ChainIn defs rules (i :: is) names) :
    ChainIn defs (rule :: rules) ((i + 1) :: is) names := by
  cases h with
  | step hi hd h => exact .step (by simpa using hi) hd h

theorem chainIn_singleton {rule : Rule} {is : List Nat} {names : List Text} :
    ChainIn defs [rule] is names ↔ ∃ name d js, rule = .embed name ∧ defs.get? name = some d ∧
      is = 0 :: js ∧ Chain defs d js names := by
  constructor
  · rintro ⟨hi, hd, h⟩
    obtain ⟨rfl, rfl⟩ := by simpa [List.getElem?_singleton] using hi
    exact ⟨_, _, _, rfl, hd, rfl, h⟩
  · rintro ⟨name, d, js, rfl, hd, rfl, hc⟩
    exact .step rfl hd hc

theorem ChainIn.first {rule : Rule} {rules : List Rule} {is : List Nat} {names : List Text}
    (h : ChainIn defs [rule] is names) : ChainIn defs (rule :: rules) is names := by
  obtain ⟨name, d, js, rfl, hd, rfl, hc⟩ := chainIn_singleton.mp h
  exact .step rfl hd hc

/-- A chain starts with the first rule or with a later one. -/
theorem ChainIn.cases_cons {rule : Rule} {rules : List Rule} {is : List Nat} {names : List Text}
    (h : ChainIn defs (rule :: rules) is names) :
    ChainIn defs [rule] is names ∨
      ∃ i js, is = (i + 1) :: js ∧ ChainIn defs rules (i :: js) names := by
  cases h with
  | @step d i js name names hi hd h =>
    cases i with
    | zero => exact .inl (.step (by simpa using hi) hd h)
    | succ i => exact .inr ⟨i, js, rfl, .step (by simpa using hi) hd h⟩

theorem Expands.cons {rule : Rule} {rules : List Rule} {t u : Text} {ms ns : List Text}
    (ht : Expands defs [rule] t ms) (hu : Expands defs rules u ns) :
    Expands defs (rule :: rules) (t ++ u) (ms ++ ns) := by
  cases ht with
  | text t h => cases h with | nil => simpa using Expands.text t hu
  | embed hd ht h => cases h with | nil => simpa using Expands.embed hd ht hu
  | undefined hd h => cases h with | nil => simpa using Expands.undefined hd hu

/-! ### What an expansion tells -/

/-- An expansion along a path of names tells of the chains that go on from the path and of the unfolding
behind it: its error is the path of the first chain that comes back, and its text stands if none does. -/
structure Tells (path : List Text) (chain : List Nat → List Text → Prop)
    (unfolds : Text → List Text → Prop) (e : Expansion) : Prop where
  loop : ∀ p, e.outcome = .error p → ∃ is names, chain is names ∧ p = path ++ names ∧ Closes p ∧
    ∀ js names', chain js names' → Closes (path ++ names') → ¬ js < is
  text : ∀ t, e.outcome = .ok t →
    unfolds t e.missing ∧ ∀ is names, chain is names → (path ++ names).Nodup

variable {path : List Text} {e next : Expansion}

/-- Without a chain in front the rule only adds its text and its notice. -/
theorem tells_ok {chain : List Nat → List Text → Prop} {unfolds : Text → List Text → Prop}
    {t : Text} {ms : List Text} (hc : ∀ is names, ¬ chain is names) (ht : unfolds t ms) :
    Tells path chain unfolds ⟨ms, .ok t⟩ where
  loop p hp := nomatch hp
  text u hu := by
    obtain rfl := Except.ok.inj hu
    exact ⟨ht, fun is names h => absurd h (hc is names)⟩

/-- The chains through the first rule come before those through the later ones. -/
theorem Tells.append {rule : Rule} {rules : List Rule}
    (h : Tells path (ChainIn defs [rule]) (Expands defs [rule]) e)
    (hnext : Tells path (ChainIn defs rules) (Expands defs rules) next) :
    Tells path (ChainIn defs (rule :: rules)) (Expands defs (rule :: rules)) (e.append next) where
  loop p hp := by
    rcases Expansion.append_eq_error.mp hp with hp | ⟨t, ht, hp⟩
    · obtain ⟨is, names, hc, hpath, hcl, hfirst⟩ := h.loop p hp
      refine ⟨is, names, hc.first, hpath, hcl, fun js names' hc' hcl' hlt => ?_⟩
      rcases hc'.cases_cons with hfst | ⟨i, js, rfl, -⟩
      · exact hfirst js names' hfst hcl' hlt
      · obtain ⟨_, _, _, -, -, rfl, -⟩ := chainIn_singleton.mp hc
        simp [List.cons_lt_cons_iff] at hlt
    · obtain ⟨is, names, hc, hpath, hcl, hfirst⟩ := hnext.loop p hp
      obtain ⟨i, is, rfl⟩ : ∃ i is', is = i :: is' := by
        cases hc
        exact ⟨_, _, rfl⟩
      refine ⟨(i + 1) :: is, names, hc.later, hpath, hcl, fun js names' hc' hcl' hlt => ?_⟩
      rcases hc'.cases_cons with hfst | ⟨j, js, rfl, hlater⟩
      · exact hcl'.not_nodup ((h.text t ht).2 js names' hfst)
      · refine hfirst (j :: js) names' hlater hcl' ?_
        simpa [List.cons_lt_cons_iff] using hlt
  text u hu := by
    obtain ⟨t, v, ht, hv, rfl, hms⟩ := Expansion.append_eq_ok hu
    obtain ⟨hunfolds, hnodup⟩ := h.text t ht
    obtain ⟨hunfolds', hnodup'⟩ := hnext.text v hv
    refine ⟨hms ▸ hunfolds.cons hunfolds', fun is names hc => ?_⟩
    rcases hc.cases_cons with hfst | ⟨i, js, rfl, hlater⟩
    · exact hnodup is names hfst
    · exact hnodup' _ names hlater

theorem Tells.embed {d : Snippet} {name : Text} (hd : defs.get? name = some d)
    (h : Tells path (Chain defs d) (Expands defs d.rules) e) :
    Tells path (ChainIn defs [.embed name]) (Expands defs [.embed name]) e where
  loop p hp := by
    obtain ⟨is, names, hc, hpath, hcl, hfirst⟩ := h.loop p hp
    refine ⟨0 :: is, names, .step rfl hd hc, hpath, hcl, fun js names' hc' hcl' hlt => ?_⟩
    obtain ⟨_, d', js, hname, hd', rfl, hc'⟩ := chainIn_singleton.mp hc'
    obtain rfl := Rule.embed.inj hname
    obtain rfl := Option.some.inj (hd.symm.trans hd')
    exact hfirst js names' hc' hcl' (by simpa [List.cons_lt_cons_iff] using hlt)
  text t ht := by
    obtain ⟨hunfolds, hnodup⟩ := h.text t ht
    refine ⟨by simpa using Expands.embed hd hunfolds .nil, fun is names hc => ?_⟩
    obtain ⟨_, d', js, hname, hd', rfl, hc⟩ := chainIn_singleton.mp hc
    obtain rfl := Rule.embed.inj hname
    obtain rfl := Option.some.inj (hd.symm.trans hd')
    exact hnodup js names hc

theorem tells_expandRules {expand : Snippet → Expansion} (rules : List Rule)
    (h : ∀ name d, defs.get? name = some d →
      Tells path (Chain defs d) (Expands defs d.rules) (expand d)) :
    Tells path (ChainIn defs rules) (Expands defs rules) (expandRules defs expand rules) := by
  induction rules with
  | nil => exact tells_ok (fun _ _ => not_chainIn_nil) .nil
  | cons rule rules ih =>
    cases rule with
    | text t =>
      refine Tells.append (tells_ok (fun _ _ hc => ?_) (by simpa using Expands.text t .nil)) ih
      obtain ⟨_, _, _, hname, -⟩ := chainIn_singleton.mp hc
      exact nomatch hname
    | embed name =>
      simp only [expandRules]
      split
      next d hd => exact ((h name d hd).embed hd).append ih
      next hd =>
        refine Tells.append (tells_ok (fun _ _ hc => ?_) (.undefined hd .nil)) ih
        obtain ⟨_, _, _, hname, hd', -⟩ := chainIn_singleton.mp hc
        obtain rfl := Rule.embed.inj hname
        simp [hd] at hd'

theorem tells_cycle (hp : path.Nodup) (hs : s.name ∈ path) :
    Tells path (Chain defs s) (Expands defs s.rules) (.cycle (path ++ [s.name])) where
  loop p h := by
    obtain rfl := Except.error.inj h
    exact ⟨[], [s.name], .stop s, rfl, (closes_concat hp).mpr hs, fun js _ _ _ hlt =>
      List.not_lt_nil js hlt⟩
  text t h := nomatch h

theorem Tells.snippet (hp : path.Nodup) (hs : s.name ∉ path)
    (h : Tells (path ++ [s.name]) (ChainIn defs s.rules) (Expands defs s.rules) e) :
    Tells path (Chain defs s) (Expands defs s.rules) e where
  loop p hout := by
    obtain ⟨is, names, hc, rfl, hcl, hfirst⟩ := h.loop p hout
    refine ⟨is, s.name :: names, chain_iff.mpr (.inr ⟨names, hc, rfl⟩), by simp, hcl,
      fun js names' hc' hcl' hlt => ?_⟩
    rcases chain_iff.mp hc' with ⟨rfl, rfl⟩ | ⟨behind, hin, rfl⟩
    · exact hs ((closes_concat hp).mp hcl')
    · exact hfirst js behind hin (by simpa using hcl') hlt
  text t hout := by
    obtain ⟨hunfolds, hnodup⟩ := h.text t hout
    refine ⟨hunfolds, fun is names hc => ?_⟩
    rcases chain_iff.mp hc with ⟨rfl, rfl⟩ | ⟨behind, hin, rfl⟩
    · exact nodup_concat hp hs
    · simpa using hnodup is behind hin

/-- What is left of the depth goes beyond the names that the path has not come to yet. -/
structure Fits (own : List Text) (depth : Nat) (path : List Text) (s : Snippet) : Prop where
  nodup : path.Nodup
  subset : path ⊆ own
  mem : s.name ∈ own
  length : own.length ≤ path.length + depth

/-- A path without repetition that is as long as all names has come to each of them. -/
theorem Fits.mem_path {own : List Text} (h : Fits own 0 path s) : s.name ∈ path := by
  by_contra hs
  have hsub : (s.name :: path) ⊆ own := List.cons_subset.mpr ⟨h.mem, h.subset⟩
  have hle := (List.subperm_of_subset (List.nodup_cons.mpr ⟨hs, h.nodup⟩) hsub).length_le
  have hlen := h.length
  simp only [List.length_cons] at hle
  omega

theorem Fits.embedded {own : List Text} {depth : Nat} {d : Snippet}
    (h : Fits own (depth + 1) path s) (hs : s.name ∉ path) (hd : d.name ∈ own) :
    Fits own depth (path ++ [s.name]) d where
  nodup := nodup_concat h.nodup hs
  subset := List.append_subset.mpr ⟨h.subset, by simpa using h.mem⟩
  mem := hd
  length := by
    have := h.length
    simp only [List.length_append, List.length_singleton]
    omega

theorem tells_expandFrom {own : List Text}
    (hown : ∀ name d, defs.get? name = some d → d.name ∈ own) (depth : Nat)
    (h : Fits own depth path s) :
    Tells path (Chain defs s) (Expands defs s.rules) (expandFrom defs depth path s) := by
  induction depth generalizing path s with
  | zero => exact tells_cycle h.nodup h.mem_path
  | succ depth ih =>
    simp only [expandFrom]
    split
    next hs => exact tells_cycle h.nodup hs
    next hs =>
      refine Tells.snippet h.nodup hs (tells_expandRules s.rules fun name d hd => ?_)
      exact ih (h.embedded hs (hown name d hd))

theorem mem_ownNames_self : s.name ∈ ownNames defs s := by
  simp [ownNames]

theorem mem_ownNames {d : Snippet} {name : Text} (hd : defs.get? name = some d) :
    d.name ∈ ownNames defs s := by
  have hmem := Dictionary.mem_entries_of_get? hd
  simp only [ownNames, List.mem_eraseDups, List.mem_cons, List.mem_map]
  exact .inr ⟨(name, d), hmem, rfl⟩

theorem tells_expand (defs : Definitions) (s : Snippet) :
    Tells [] (Chain defs s) (Expands defs s.rules) (expand defs s) :=
  tells_expandFrom (fun _ _ => mem_ownNames) _ ⟨.nil, List.nil_subset _, mem_ownNames_self, by simp⟩

/-- Expanding fails where some chain of embeds visits two snippets of one name. -/
theorem exists_outcome_eq_error_iff :
    (∃ path, (expand defs s).outcome = .error path) ↔
      ∃ is names, Chain defs s is names ∧ ¬ names.Nodup := by
  constructor
  · rintro ⟨path, hp⟩
    obtain ⟨is, names, hc, rfl, hcl, -⟩ := (tells_expand defs s).loop path hp
    exact ⟨is, _, hc, hcl.not_nodup⟩
  · rintro ⟨is, names, hc, hn⟩
    cases h : (expand defs s).outcome with
    | error path => exact ⟨path, rfl⟩
    | ok t => exact absurd (((tells_expand defs s).text t h).2 is names hc) hn

theorem outcome_eq_error_iff {path : List Text} :
    (expand defs s).outcome = .error path ↔ ∃ is, FirstLoop defs s is path := by
  have hloop : ∀ p, (expand defs s).outcome = .error p → ∃ is, FirstLoop defs s is p := by
    intro p hp
    obtain ⟨is, names, hc, rfl, hcl, hfirst⟩ := (tells_expand defs s).loop p hp
    exact ⟨is, hc, hcl, hfirst⟩
  refine ⟨hloop path, ?_⟩
  rintro ⟨is, h⟩
  obtain ⟨q, hq⟩ := exists_outcome_eq_error_iff.mpr ⟨is, path, h.chain, h.closes.not_nodup⟩
  obtain ⟨js, h'⟩ := hloop q hq
  rw [hq, h.unique h']

theorem expand_eq_ok_iff {t : Text} {missing : List Text} :
    expand defs s = ⟨missing, .ok t⟩ ↔
      (∀ is names, Chain defs s is names → names.Nodup) ∧ Expands defs s.rules t missing := by
  have htext := (tells_expand defs s).text
  constructor
  · intro h
    rw [h] at htext
    exact (htext t rfl).symm
  · rintro ⟨hn, hunfolds⟩
    cases h : (expand defs s).outcome with
    | error path =>
      obtain ⟨is, names, hc, hrep⟩ := exists_outcome_eq_error_iff.mp ⟨path, h⟩
      exact absurd (hn is names hc) hrep
    | ok u =>
      obtain ⟨rfl, rfl⟩ := hunfolds.unique (htext u h).1
      rw [← h]

/-- Expanding fails where some chain of embeds visits two snippets of one name, with the names of the
first chain that comes back, up to where it does. Everywhere else the text and the notices are those of
the tree to which the embeds unfold. -/
theorem expand_outcome (defs : Definitions) (s : Snippet) :
    ((∃ path, (expand defs s).outcome = .error path) ↔
      ∃ is names, Chain defs s is names ∧ ¬ names.Nodup) ∧
    (∀ path, (expand defs s).outcome = .error path ↔ ∃ is, FirstLoop defs s is path) ∧
    ∀ t missing, expand defs s = ⟨missing, .ok t⟩ ↔
      (∀ is names, Chain defs s is names → names.Nodup) ∧ Expands defs s.rules t missing :=
  ⟨exists_outcome_eq_error_iff, fun _ => outcome_eq_error_iff, fun _ _ => expand_eq_ok_iff⟩

example : (expand ⟨[(['x'], ⟨['a'], {}, [.embed ['y']]⟩), (['y'], ⟨['b'], {}, [.embed ['x']]⟩)]⟩
    ⟨['c'], {}, [.embed ['z'], .embed ['x']]⟩).outcome
      = .error [['c'], ['a'], ['b'], ['a']] := by decide

end Snippet

end Weave
