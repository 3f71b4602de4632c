import Weave.Libraries

/-!
# What stands at the root

A header and a configuration are mappings. Anything else that a text stands for is refused, unless it
counts as false: then it is read as if the text were empty, so that every default holds. These are
exactly the values of `Vacant`.
-/

set_option autoImplicit false

namespace Weave

variable {ε α : Type}

namespace Yaml.Datum

/-! ### The values of whole texts -/

def IsRoot : Value → Prop
  | .complex _ _ => False
  | .tuple _ => False
  | .frozenset _ => False
  | _ => True

def Yields (x : Except ε Value) : Prop := ∀ v, x = .ok v → IsRoot v

theorem Yields.pure {v : Value} (h : IsRoot v) : Yields (pure v : Except ε Value) := by
  rintro w ⟨⟩
  exact h

theorem Yields.fail (e : ε) : Yields (.error e) := nofun

theorem Yields.bind {x : Except ε α} {f : α → Except ε Value} (h : ∀ a, Yields (f a)) :
    Yields (x >>= f) := by
  cases x with
  | error e => exact .fail e
  | ok a => exact h a

theorem Yields.map {x : Except ε α} {f : α → Value} (h : ∀ a, IsRoot (f a)) : Yields (x.map f) := by
  cases x with
  | error e => exact .fail e
  | ok a => exact .pure (h a)

theorem Yields.ite {p : Prop} [Decidable p] {x y : Except ε Value} (hx : Yields x) (hy : Yields y) :
    Yields (if p then x else y) := by
  split
  · exact hx
  · exact hy

theorem yields_boolOf (t : Text) : Yields (boolOf t) :=
  .ite (.pure trivial) (.ite (.pure trivial) (.fail _))

theorem yields_intOf (t : Text) : Yields (intOf t) := by
  unfold intOf
  refine .bind fun ⟨negative, digits⟩ => ?_
  have hsigned : ∀ x : Scan Int, Yields (x >>= fun n => pure (.int (if negative then -n else n))) :=
    fun x => .bind fun n => .pure trivial
  refine .ite (hsigned _) ?_
  split
  · exact hsigned _
  · exact hsigned _
  · exact hsigned _
  · exact hsigned _
  · exact .ite (.bind fun _ => hsigned _) (hsigned _)

theorem yields_floatOf (t : Text) : Yields (floatOf t) := by
  unfold floatOf
  refine .bind fun ⟨negative, digits⟩ => ?_
  have hsigned : ∀ x : Scan Float, Yields (x >>= fun y => pure (.float (if negative then -y else y))) :=
    fun x => .bind fun y => .pure trivial
  exact .ite (hsigned _) <| .ite (hsigned _) <| .ite (.bind fun _ => hsigned _) (hsigned _)

theorem yields_bytesOf (t : Text) : Yields (bytesOf t) := by
  unfold bytesOf
  refine .ite ?_ (.fail _)
  split
  · exact .pure trivial
  · exact .fail _

theorem yields_momentOf (s : Node.Stamp) : Yields (momentOf s) := by
  unfold momentOf
  extract_lets fail day rest
  have hrest : Yields (rest ()) := by
    refine .ite (.fail _) (.ite (.fail _) (.ite (.fail _) ?_))
    split
    · exact .pure trivial
    · exact .ite (.fail _) (.ite (.fail _) (.ite (.fail _) (.pure trivial)))
  split
  · exact .ite (.bind fun _ => hrest) hrest
  · exact hrest

theorem yields_stampOf (t : Text) : Yields (stampOf t) := by
  unfold stampOf
  split
  · exact yields_momentOf _
  · exact .fail _

theorem yields_scalar (tag t : Text) : Yields (scalar tag t) := by
  unfold scalar
  exact .ite (.pure trivial) <| .ite (yields_boolOf t) <| .ite (yields_intOf t) <|
    .ite (yields_floatOf t) <| .ite (yields_bytesOf t) <| .ite (yields_stampOf t) <|
    .ite (.pure trivial) <| .ite (.pure trivial) (.fail _)

theorem yields_build (fuel depth : Nat) (n : Node) : Yields (build fuel depth n) := by
  cases fuel with
  | zero => exact .fail _
  | succ fuel =>
    unfold build
    extract_lets fail failInside inner isTag entriesOf
    refine .ite ?_ (.ite (.map fun _ => trivial) (.ite (.map fun _ => trivial) (.ite ?_ ?_)))
    · split
      · exact .map fun _ => trivial
      · exact .fail _
    · split
      · exact .map fun _ => trivial
      · exact .fail _
    · split
      · next t _ =>
        have hscalar := yields_scalar n.tag t
        split
        · next v hv => exact .pure (hscalar v hv)
        · exact .fail _
      · exact .fail _

theorem isRoot_of_read {t : Text} {v : Value} (h : read t = .ok v) : IsRoot v := by
  have hyields : Yields (read t) := by
    refine .bind fun n => ?_
    cases n with
    | none => exact .pure trivial
    | some n =>
      have hbuild := yields_build (size n + 1) 0 n
      dsimp only
      split
      · next v hv => exact .pure (hbuild v hv)
      · exact .fail _
  exact hyields v h

end Yaml.Datum

/-- What counts as false, apart from nothing and mappings without entries. -/
inductive Vacant : Value → Prop
  | no : Vacant (.bool false)
  | zero : Vacant (.int 0)
  | zeroFloat {x : Float} (hx : (x == 0.0) = true) : Vacant (.float x)
  | text : Vacant (.str [])
  | bytes : Vacant (.bytes [])
  | list : Vacant (.list [])
  | set : Vacant (.set [])

theorem vacant_iff {v : Value} (hroot : Yaml.Datum.IsRoot v) (hnone : v ≠ .none)
    (hdict : ∀ es, v ≠ .dict es) : Vacant v ↔ v.truth = false := by
  constructor
  · intro h
    cases h with
    | zeroFloat hx => simp [Value.truth, bne, hx]
    | _ => rfl
  · intro h
    cases v with
    | none => exact absurd rfl hnone
    | bool b =>
      obtain rfl : b = false := h
      exact .no
    | int n =>
      obtain rfl : n = 0 := by simpa [Value.truth] using h
      exact .zero
    | float x =>
      have hx : (x == 0.0) = true := by simpa [Value.truth, bne] using h
      exact .zeroFloat hx
    | complex re im => exact hroot.elim
    | str t =>
      obtain rfl : t = [] := by simpa [Value.truth] using h
      exact .text
    | bytes bs =>
      obtain rfl : bs = [] := by simpa [Value.truth] using h
      exact .bytes
    | list xs =>
      obtain rfl : xs = [] := by simpa [Value.truth] using h
      exact .list
    | tuple xs => exact hroot.elim
    | set xs =>
      obtain rfl : xs = [] := by simpa [Value.truth] using h
      exact .set
    | frozenset xs => exact hroot.elim
    | dict es => exact absurd rfl (hdict es)
    | object name id shown => cases h

/-! ### Reading whole texts -/

namespace Libraries

/-- What the libraries keep to: what YAML stands for is nothing, a scalar, a list, a set or a mapping,
a header has to be a mapping, and no field has to be given. -/
structure Lawful [Libraries] : Prop where
  isRoot {t : Text} {v : Value} (h : loadYaml t = .ok v) : Yaml.Datum.IsRoot v
  checkHeader_nil : checkHeader (.dict []) = .ok {}
  checkHeader {v : Value} (h : ∀ es, v ≠ .dict es) : checkHeader v = Schema.issue .mappingType
  checkConfiguration_nil : checkConfiguration [] = .ok {}

theorem lawful_atHand : Lawful where
  isRoot h := Yaml.Datum.isRoot_of_read h
  checkHeader_nil := rfl
  checkHeader {v} h := by
    cases v with
    | dict es => exact absurd rfl (h es)
    | _ => rfl
  checkConfiguration_nil := rfl

end Libraries

theorem Value.orEmpty_of_truth {v : Value} (h : v.truth = true) : v.orEmpty = v := if_pos h

theorem Value.orEmpty_of_not_truth {v : Value} (h : v.truth = false) : v.orEmpty = .dict [] := by
  simp [orEmpty, h]

section

variable [Libraries] {t : Text} {v : Value} (h : Libraries.loadYaml t = .ok v)
include h

theorem Header.read_of_loadYaml : Header.read t = (Libraries.checkHeader v.orEmpty).mapError .issues := by
  rw [Header.read, h]

theorem Configuration.load_of_loadYaml {w : World} {file : Path} (hfile : w.read file = .ok t) :
    Configuration.load w file =
      (Configuration.ofValue file v).map (Configuration.besideFile file) := by
  rw [Configuration.load, hfile]
  dsimp only
  rw [Configuration.ofText, h]

/-- A text that stands for something else than nothing or a mapping is neither a header nor a
configuration, unless what it stands for is vacant: it is then taken for both, as if it were empty. -/
theorem read_root (hlaw : Libraries.Lawful) (hnone : v ≠ .none) (hdict : ∀ es, v ≠ .dict es) :
    (¬ Vacant v → Header.read t = .error (.issues [⟨[], .mappingType⟩]) ∧
      ∀ (w : World) file, w.read file = .ok t →
        Configuration.load w file = .error (.notMapping file v.className)) ∧
    (Vacant v → Header.read t = .ok {} ∧
      ∀ (w : World) file, w.read file = .ok t → Configuration.load w file = .ok {}) := by
  have hvacant := vacant_iff (hlaw.isRoot h) hnone hdict
  constructor
  · intro hv
    have htruth : v.truth = true := by simpa [hvacant] using hv
    refine ⟨?_, fun w file hfile => ?_⟩
    · rw [Header.read_of_loadYaml h, Value.orEmpty_of_truth htruth, hlaw.checkHeader hdict]
      rfl
    · have hvalue : Configuration.ofValue file v = .error (.notMapping file v.className) := by
        rw [Configuration.ofValue, Value.orEmpty_of_truth htruth]
        split
        next es => exact absurd rfl (hdict es)
        next => rfl
      rw [Configuration.load_of_loadYaml h hfile, hvalue]
      rfl
  · intro hv
    have htruth : v.truth = false := hvacant.mp hv
    refine ⟨?_, fun w file hfile => ?_⟩
    · rw [Header.read_of_loadYaml h, Value.orEmpty_of_not_truth htruth, hlaw.checkHeader_nil]
      rfl
    · have hvalue : Configuration.ofValue file v = .ok {} := by
        rw [Configuration.ofValue, Value.orEmpty_of_not_truth htruth]
        show (Libraries.checkConfiguration []).mapError ConfigurationFault.issues = _
        rw [hlaw.checkConfiguration_nil]
        rfl
      rw [Configuration.load_of_loadYaml h hfile, hvalue]
      rfl

end

def listAlone : World := { files := [(["build.yaml".toList], "[]".toList)] }

def isEmptyList : Except ε Value → Bool
  | .ok (.list []) => true
  | _ => false

theorem eq_emptyList {x : Except ε Value} (h : isEmptyList x = true) : x = .ok (.list []) := by
  unfold isEmptyList at h
  split at h
  · rfl
  · cases h

theorem read_root_emptyList :
    Libraries.Lawful ∧ Libraries.loadYaml "[]".toList = .ok (.list []) ∧ Header.read "[]".toList = .ok {} ∧
      Configuration.load listAlone (Path.ofText "build.yaml".toList) = .ok {} := by
  have hlist : Libraries.loadYaml "[]".toList = .ok (.list []) := eq_emptyList (by decide +kernel)
  have hfile : listAlone.read (Path.ofText "build.yaml".toList) = .ok "[]".toList := rfl
  obtain ⟨hheader, hload⟩ := (read_root hlist Libraries.lawful_atHand nofun nofun).2 .list
  exact ⟨Libraries.lawful_atHand, hlist, hheader, hload listAlone _ hfile⟩

/-- There are such texts of every class. -/
example : (["false", "0", "0.0", "''", "!!binary ''", "[]", "!!set {}"].all fun t =>
    match Header.read t.toList with
    | .ok h => h = {}
    | .error _ => false) = true := by decide +kernel

end Weave
