import Mathlib.Data.List.Induction
import Mathlib.Data.List.Nodup
import Weave.Session.Options
import Weave.Proofs.Text.Cutting

/-!
# Written options

Every option of a session can be written as one word, its name in front of an equals sign and its
value behind it. Whatever the values are, such words are read as the options that were written: the
values of every kind in their order, and the definitions as a mapping in which the last one of a name
counts. What can go wrong is a definition that has no equals sign, or none behind an identifier.
-/

set_option autoImplicit false

namespace Weave

/-! ### The mapping of a list -/

namespace Dictionary

variable {α : Type}

theorem map_fst_put (name : Text) (v : α) (es : List (Text × α)) :
    (put name v es).map Prod.fst =
      if name ∈ es.map Prod.fst then es.map Prod.fst else es.map Prod.fst ++ [name] := by
  induction es with
  | nil => rfl
  | cons e es ih =>
    obtain ⟨n, w⟩ := e
    by_cases hn : n = name
    · simp [put, hn]
    · have hname : ¬ name = n := fun h => hn h.symm
      simp only [put, hn, if_false, List.map_cons, ih, List.mem_cons, hname, false_or]
      split <;> rfl

theorem nodup_names_set {d : Dictionary α} (hd : d.names.Nodup) (name : Text) (v : α) :
    (d.set name v).names.Nodup := by
  rw [names, set, map_fst_put]
  split
  · exact hd
  · next h => simpa using hd.concat h

theorem ofList_concat (es : List (Text × α)) (e : Text × α) :
    ofList (es ++ [e]) = (ofList es).set e.1 e.2 := by
  simp [ofList]

theorem nodup_names_ofList (es : List (Text × α)) : (ofList es).names.Nodup := by
  induction es using List.reverseRecOn with
  | nil => exact List.nodup_nil
  | append_singleton es e ih =>
    rw [ofList_concat]
    exact nodup_names_set ih e.1 e.2

/-- The last entry of a name counts. -/
theorem get?_ofList_eq_some_iff {es : List (Text × α)} {name : Text} {v : α} :
    (ofList es).get? name = some v ↔
      ∃ before after, es = before ++ (name, v) :: after ∧ ∀ w, (name, w) ∉ after := by
  induction es using List.reverseRecOn with
  | nil => simp [ofList]
  | append_singleton es e ih =>
    obtain ⟨n, w⟩ := e
    rw [ofList_concat, get?_set]
    split
    next h =>
      obtain rfl : n = name := h
      constructor
      · rintro ⟨rfl⟩
        exact ⟨es, [], rfl, fun w => List.not_mem_nil⟩
      · rintro ⟨before, after, heq, hafter⟩
        rcases List.eq_nil_or_concat after with rfl | ⟨after, e, rfl⟩
        · obtain ⟨-, hlast⟩ := List.append_inj' heq rfl
          cases hlast
          rfl
        · rw [List.concat_eq_append, ← List.cons_append, ← List.append_assoc] at heq
          obtain ⟨-, hlast⟩ := List.append_inj' heq rfl
          cases hlast
          exact absurd (by simp) (hafter w)
    next h =>
      rw [ih]
      constructor
      · rintro ⟨before, after, rfl, hafter⟩
        refine ⟨before, after ++ [(n, w)], by simp, fun u hu => ?_⟩
        rcases List.mem_append.mp hu with hu | hu
        · exact hafter u hu
        · exact h (congrArg Prod.fst (List.mem_singleton.mp hu)).symm
      · rintro ⟨before, after, heq, hafter⟩
        rcases List.eq_nil_or_concat after with rfl | ⟨after, e, rfl⟩
        · obtain ⟨-, hlast⟩ := List.append_inj' heq rfl
          exact absurd (congrArg Prod.fst (List.singleton_inj.mp hlast)) h
        · rw [List.concat_eq_append, ← List.cons_append, ← List.append_assoc] at heq
          obtain ⟨hes, -⟩ := List.append_inj' heq rfl
          exact ⟨before, after, hes, fun u hu => hafter u (by simp [hu])⟩

end Dictionary

/-! ### Words -/

namespace SessionOption

def flag : SessionOption → Text
  | .path => "--path".toList
  | .import_ => "--import".toList
  | .define => "--define".toList
  | .load => "--load".toList

def written (o : SessionOption × Text) : Text := o.1.flag ++ '=' :: o.2

def spec (o : SessionOption) : OptionSpec SessionOption := ⟨o, [o.flag], .value⟩

theorem specs_eq : specs = [spec .path, spec .import_, spec .define, spec .load] := rfl

theorem equals_not_mem_flag (o : SessionOption) : '=' ∉ o.flag := by
  cases o <;> decide

theorem named?_flag (o : SessionOption) : Arguments.named? specs o.flag = some o.spec := by
  cases o <;> rfl

theorem named?_written (o : SessionOption × Text) : Arguments.named? specs (written o) = none := by
  rw [Arguments.named?, List.find?_eq_none, specs_eq]
  have hne (k : SessionOption) : written o ≠ k.flag := fun h =>
    k.equals_not_mem_flag (h ▸ List.mem_append_right _ List.mem_cons_self)
  simpa [spec] using ⟨hne .path, hne .import_, hne .define, hne .load⟩

theorem atEquals_written (o : SessionOption × Text) :
    Arguments.atEquals (written o) = (o.1.flag, some o.2) := by
  have hcut : Text.cut? ['='] (written o) = some (o.1.flag, o.2) :=
    Text.cut?_singleton_eq_some_iff.mpr ⟨rfl, o.1.equals_not_mem_flag⟩
  rw [Arguments.atEquals, hcut]

end SessionOption

namespace SessionOptions

open SessionOption

theorem classify_written (o : SessionOption × Text) :
    Arguments.classify specs (written o) = .ok (.option o.1.spec (some o.2)) := by
  obtain ⟨c, r, h⟩ : ∃ c r, written o = '-' :: c :: r := by
    obtain ⟨k, v⟩ := o
    cases k <;> exact ⟨_, _, rfl⟩
  have hnamed := named?_written o
  have hequals := atEquals_written o
  rw [h] at hnamed hequals ⊢
  simp only [Arguments.classify, hnamed, hequals, named?_flag]

theorem classifyAll_written (os : List (SessionOption × Text)) :
    Arguments.classifyAll specs (os.map written) =
      .ok (os.map fun o => .option o.1.spec (some o.2)) := by
  induction os with
  | nil => rfl
  | cons o os ih =>
    have hdashes : written o ≠ ['-', '-'] := by
      intro h
      have hmem : '=' ∈ written o := List.mem_append_right _ List.mem_cons_self
      rw [h] at hmem
      revert hmem
      decide
    rw [List.map_cons, Arguments.classifyAll, if_neg hdashes, classify_written, ih]
    rfl

theorem readFrom_written (free : Nat) (filled : Bool) (a : Arguments SessionOption)
    (os : List (SessionOption × Text)) :
    Arguments.readFrom specs free filled a (os.map fun o => .option o.1.spec (some o.2)) =
      .ok { a with options := a.options ++ os } := by
  induction os generalizing a filled with
  | nil => simp [Arguments.readFrom]
  | cons o os ih =>
    have hadd : a.add o.1.spec o.2 = .ok { a with options := a.options ++ [o] } := rfl
    have hvalue : o.1.spec.demand = .value := rfl
    rw [List.map_cons, Arguments.readFrom, if_pos hvalue, hadd]
    exact (ih ..).trans (by simp)

theorem arguments_written (os : List (SessionOption × Text)) :
    Arguments.read specs 0 (os.map written) = .ok { options := os } := by
  rw [Arguments.read, classifyAll_written]
  exact readFrom_written 0 false {} os

/-! ### Definitions -/

/-- A definition has its name in front of its first equals sign. -/
structure Defines (t name value : Text) : Prop where
  eq : t = name ++ '=' :: value
  clear : '=' ∉ name
  isIdentifier : Unicode.isIdentifier name = true

def IsDefinition (t : Text) : Prop := ∃ name value, Defines t name value

theorem definition_eq_ok_iff {t name value : Text} :
    definition t = .ok (name, value) ↔ Defines t name value := by
  unfold definition
  constructor
  · intro h
    split at h
    next n v hcut =>
      split at h
      next hn =>
        cases h
        obtain ⟨rfl, hclear⟩ := Text.cut?_singleton_eq_some_iff.mp hcut
        exact ⟨rfl, hclear, hn⟩
      next => cases h
    next => cases h
  · rintro ⟨rfl, hclear, hn⟩
    rw [Text.cut?_singleton_eq_some_iff.mpr ⟨rfl, hclear⟩]
    exact if_pos hn

theorem definition_of_not {t : Text} (h : ¬ IsDefinition t) : definition t = .error (.definition t) := by
  cases hd : definition t with
  | ok d => exact absurd ⟨d.1, d.2, definition_eq_ok_iff.mp hd⟩ h
  | error f =>
    unfold definition at hd
    split at hd
    · split at hd
      · cases hd
      · exact hd.symm
    · exact hd.symm

theorem definitions_of_forall {ts : List Text} (h : ∀ t ∈ ts, IsDefinition t) :
    ∃ ds, definitions ts = .ok ds ∧ List.Forall₂ (fun t d => Defines t d.1 d.2) ts ds := by
  induction ts with
  | nil => exact ⟨[], rfl, .nil⟩
  | cons t ts ih =>
    obtain ⟨⟨n, v, ht⟩, hts⟩ := List.forall_mem_cons.mp h
    obtain ⟨ds, hds, hall⟩ := ih hts
    refine ⟨(n, v) :: ds, ?_, .cons ht hall⟩
    rw [definitions, definition_eq_ok_iff.mpr ht, hds]
    rfl

/-- The first text that is no definition is what is complained about. -/
theorem definitions_of_not {ts us : List Text} {t : Text} (h : ∀ t ∈ ts, IsDefinition t)
    (ht : ¬ IsDefinition t) : definitions (ts ++ t :: us) = .error (.definition t) := by
  induction ts with
  | nil =>
    rw [List.nil_append, definitions, definition_of_not ht]
    rfl
  | cons u ts ih =>
    obtain ⟨⟨n, v, hu⟩, hts⟩ := List.forall_mem_cons.mp h
    rw [List.cons_append, definitions, definition_eq_ok_iff.mpr hu, ih hts]
    rfl

/-! ### What is read -/

def given (os : List (SessionOption × Text)) (key : SessionOption) : List Text :=
  os.filterMap fun o => if o.1 = key then some o.2 else none

/-- `o` has the values of every kind in their order, and maps every name to its last definition. -/
structure Holds (os : List (SessionOption × Text)) (o : SessionOptions) : Prop where
  paths : o.paths = given os .path
  imports : o.imports = given os .import_
  loads : o.loads = given os .load
  distinct : o.defines.names.Nodup
  defines (name value : Text) : o.defines.get? name = some value ↔
    '=' ∉ name ∧ ∃ before after, given os .define = before ++ (name ++ '=' :: value) :: after ∧
      ∀ v, name ++ '=' :: v ∉ after

theorem valuesOf_eq (os : List (SessionOption × Text)) (key : SessionOption) :
    Arguments.valuesOf { options := os } key = given os key := by
  induction os with
  | nil => rfl
  | cons o os ih =>
    by_cases h : o.1 = key
    · simpa [Arguments.valuesOf, given, h] using ih
    · simpa [Arguments.valuesOf, given, h] using ih

def joined (d : Text × Text) : Text := d.1 ++ '=' :: d.2

theorem cut?_joined {d : Text × Text} (hd : '=' ∉ d.1) : Text.cut? ['='] (joined d) = some d :=
  Text.cut?_singleton_eq_some_iff.mpr ⟨rfl, hd⟩

theorem joined_inj {d e : Text × Text} (hd : '=' ∉ d.1) (he : '=' ∉ e.1) (h : joined d = joined e) :
    d = e :=
  Option.some.inj (by rw [← cut?_joined hd, h, cut?_joined he])

theorem eq_map_joined {ts : List Text} {ds : List (Text × Text)}
    (h : List.Forall₂ (fun t d => Defines t d.1 d.2) ts ds) :
    ts = ds.map joined ∧ ∀ d ∈ ds, '=' ∉ d.1 := by
  induction h with
  | nil => exact ⟨rfl, fun _ h => absurd h List.not_mem_nil⟩
  | cons ht _ ih =>
    obtain ⟨rfl, hclear⟩ := ih
    exact ⟨by rw [List.map_cons, ht.eq, joined], List.forall_mem_cons.mpr ⟨ht.clear, hclear⟩⟩

/-- The last of some definitions of a name is the last text that has the name in front of an equals
sign. -/
theorem get?_definitions {ds : List (Text × Text)} (hclear : ∀ d ∈ ds, '=' ∉ d.1) (name value : Text) :
    (Dictionary.ofList ds).get? name = some value ↔
      '=' ∉ name ∧ ∃ before after, ds.map joined = before ++ joined (name, value) :: after ∧
        ∀ v, joined (name, v) ∉ after := by
  rw [Dictionary.get?_ofList_eq_some_iff]
  constructor
  · rintro ⟨before, after, rfl, hafter⟩
    have hname : '=' ∉ name := hclear (name, value) (by simp)
    refine ⟨hname, before.map joined, after.map joined, by simp, fun v hv => ?_⟩
    obtain ⟨d, hd, heq⟩ := List.mem_map.mp hv
    have hdv : d = (name, v) := joined_inj (hclear d (by simp [hd])) hname heq
    exact hafter v (hdv ▸ hd)
  · rintro ⟨hname, before, after, heq, hafter⟩
    obtain ⟨bs, rest, rfl, -, hrest⟩ := List.map_eq_append_iff.mp heq
    obtain ⟨d, cs, rfl, hd, rfl⟩ := List.map_eq_cons_iff.mp hrest
    have hdv : d = (name, value) := joined_inj (hclear d (by simp)) hname hd
    refine ⟨bs, cs, by rw [hdv], fun w hw => ?_⟩
    exact hafter w (List.mem_map_of_mem hw)

theorem read_eq (os : List (SessionOption × Text)) :
    read (os.map written) = (do
      let ds ← definitions (given os .define)
      pure ⟨given os .path, given os .import_, Dictionary.ofList ds, given os .load⟩) := by
  rw [read, arguments_written]
  simp only [ofArguments, valuesOf_eq]
  rfl

theorem exists_first_not {ts : List Text} (h : ¬ ∀ t ∈ ts, IsDefinition t) :
    ∃ before t after, ts = before ++ t :: after ∧ (∀ u ∈ before, IsDefinition u) ∧ ¬ IsDefinition t := by
  induction ts with
  | nil => exact absurd (fun _ h => absurd h List.not_mem_nil) h
  | cons t ts ih =>
    by_cases ht : IsDefinition t
    · have hts : ¬ ∀ t ∈ ts, IsDefinition t := fun hts => h (List.forall_mem_cons.mpr ⟨ht, hts⟩)
      obtain ⟨before, u, after, rfl, hbefore, hu⟩ := ih hts
      exact ⟨t :: before, u, after, rfl, List.forall_mem_cons.mpr ⟨ht, hbefore⟩, hu⟩
    · exact ⟨[], t, ts, rfl, fun _ h => absurd h List.not_mem_nil, ht⟩

/-- Options that are written as words, in whatever order and with whatever values, are read as what
was written; they are refused exactly if one of them is to be a definition and is none, and then
because of the first of these. -/
theorem read_written (os : List (SessionOption × Text)) :
    ((∃ f, read (os.map written) = .error f) ↔ ∃ t, (.define, t) ∈ os ∧ ¬ IsDefinition t) ∧
      (∀ f, read (os.map written) = .error f → ∃ before t after,
        given os .define = before ++ t :: after ∧ (∀ u ∈ before, IsDefinition u) ∧
          ¬ IsDefinition t ∧ f = .definition t) ∧
      ∀ o, read (os.map written) = .ok o → Holds os o := by
  have hmem (t : Text) : (.define, t) ∈ os ↔ t ∈ given os .define := by
    simp [given]
  rw [read_eq]
  by_cases hall : ∀ t ∈ given os .define, IsDefinition t
  · obtain ⟨ds, hds, hforall⟩ := definitions_of_forall hall
    obtain ⟨hts, hclear⟩ := eq_map_joined hforall
    rw [hds]
    refine ⟨⟨?_, ?_⟩, ?_, ?_⟩
    · rintro ⟨f, hf⟩
      cases hf
    · rintro ⟨t, ht, hnot⟩
      exact absurd (hall t ((hmem t).mp ht)) hnot
    · rintro f hf
      cases hf
    · rintro o ho
      cases ho
      refine ⟨rfl, rfl, rfl, Dictionary.nodup_names_ofList ds, fun name value => ?_⟩
      rw [hts]
      exact get?_definitions hclear name value
  · obtain ⟨before, t, after, hts, hbefore, ht⟩ := exists_first_not hall
    rw [hts, definitions_of_not hbefore ht]
    refine ⟨⟨fun _ => ⟨t, (hmem t).mpr ?_, ht⟩, fun _ => ⟨_, rfl⟩⟩, ?_, ?_⟩
    · rw [hts]
      exact List.mem_append_right _ List.mem_cons_self
    · rintro f hf
      cases hf
      exact ⟨before, t, after, rfl, hbefore, ht, rfl⟩
    · rintro o ho
      cases ho

end SessionOptions

end Weave
