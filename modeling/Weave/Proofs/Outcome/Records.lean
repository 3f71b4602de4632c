import Mathlib.Data.List.Forall2
import Weave.Outcome.Presentation

/-!
# Records as tables

A non-empty list of records whose keys agree one by one becomes a table with a header for every key
and a row for every record. Objects that are equal have one hash, so keys that agree are found by
look-up whatever their classes are, and no row lacks a cell. What can go wrong is left to the objects:
to compare two keys may raise an exception, and so may writing a key or a value.
-/

set_option autoImplicit false

namespace Weave

/-! ### All or the first exception -/

section

variable {α β ε : Type}

theorem mapM_eq_ok_iff {f : α → Except ε β} {as : List α} {bs : List β} :
    as.mapM f = .ok bs ↔ List.Forall₂ (fun a b => f a = .ok b) as bs := by
  induction as generalizing bs with
  | nil => cases bs <;> simp [pure, Except.pure]
  | cons a as ih =>
    rw [List.mapM_cons]
    cases ha : f a with
    | error x => cases bs <;> simp [bind, Except.bind, ha]
    | ok b =>
      cases has : as.mapM f with
      | error x => cases bs <;> simp [bind, Except.bind, ← ih, has, ha]
      | ok bs' => cases bs <;> simp [bind, Except.bind, pure, Except.pure, ← ih, has, ha]

theorem mapM_eq_some_iff {f : α → Option β} {as : List α} {bs : List β} :
    as.mapM f = some bs ↔ List.Forall₂ (fun a b => f a = some b) as bs := by
  induction as generalizing bs with
  | nil => cases bs <;> simp
  | cons a as ih =>
    rw [List.mapM_cons]
    cases hb : f a with
    | none => cases bs <;> simp [hb]
    | some b =>
      cases bs with
      | nil => cases as.mapM f <;> simp
      | cons b' bs =>
        rw [List.forall₂_cons, ← ih, hb]
        cases as.mapM f <;> simp

theorem exists_of_mapM_eq_error {f : α → Except ε β} {as : List α} {x : ε} (h : as.mapM f = .error x) :
    ∃ a ∈ as, f a = .error x := by
  induction as with
  | nil => cases h
  | cons a as ih =>
    rw [List.mapM_cons] at h
    cases ha : f a with
    | error y =>
      rw [ha] at h
      cases h
      exact ⟨a, List.mem_cons_self, ha⟩
    | ok b =>
      rw [ha] at h
      cases has : as.mapM f with
      | error y =>
        rw [has] at h
        cases h
        obtain ⟨a', hmem, ha'⟩ := ih has
        exact ⟨a', List.mem_cons_of_mem a hmem, ha'⟩
      | ok bs =>
        rw [has] at h
        cases h

theorem exists_of_mem_right {R : α → β → Prop} {as : List α} {bs : List β} (h : List.Forall₂ R as bs)
    {b : β} (hb : b ∈ bs) : ∃ a ∈ as, R a b := by
  induction h with
  | nil => exact absurd hb List.not_mem_nil
  | cons hab _ ih =>
    rcases List.mem_cons.mp hb with rfl | hb
    · exact ⟨_, List.mem_cons_self, hab⟩
    · obtain ⟨a, ha, hab⟩ := ih hb
      exact ⟨a, List.mem_cons_of_mem _ ha, hab⟩

theorem bind_eq_ok_iff {p : Except ε α} {f : α → Except ε β} {b : β} :
    (p >>= f) = .ok b ↔ ∃ a, p = .ok a ∧ f a = .ok b := by
  cases p <;> simp [bind, Except.bind]

theorem bind_eq_error_iff {p : Except ε α} {f : α → Except ε β} {x : ε} :
    (p >>= f) = .error x ↔ p = .error x ∨ ∃ a, p = .ok a ∧ f a = .error x := by
  cases p <;> simp [bind, Except.bind]

end

namespace Objects

variable {ν ε : Type} (O : Objects ν ε)

/-! ### What a table is -/

/-- Two keys are one object, or the one says that it equals the other. -/
def Agree (x y : ν) : Prop := O.same x y = true ∨ O.same x y = false ∧ O.equal x y = .ok true

def AreRecords (v : ν) (records : List (List (Entry ν))) : Prop :=
  ∃ items, O.items? v = some items ∧ List.Forall₂ (fun x r => O.entries? x = some r) items records

/-- A list of records, the first of which has keys that those of every other one agree with in order. -/
structure Records (v : ν) (first : List (Entry ν)) (others : List (List (Entry ν))) : Prop where
  records : O.AreRecords v (first :: others)
  keys : ∀ r ∈ others, List.Forall₂ (fun e f => O.Agree e.key f.key) r first

/-- An entry of a record is found under a key: the first with its hash whose own key agrees with it. -/
structure Found (record : List (Entry ν)) (key : ν) (e : Entry ν) : Prop where
  hashed : O.hash key = .ok e.hash
  agrees : O.Agree e.key key
  first : ∃ before after, record = before ++ e :: after ∧
    ∀ d ∈ before, d.hash = e.hash → O.agree d.key key = .ok false

/-- The cells of a row are the texts of what a record holds under the keys of the first. -/
def RowOf (first record : List (Entry ν)) (row : List Text) : Prop :=
  List.Forall₂ (fun f cell => ∃ e, O.Found record f.key e ∧ O.str e.value = .ok cell) first row

/-- An exception that comes of comparing a key of a record with one of the first, or of writing what a
table holds. -/
inductive Raises (v : ν) (x : ε) : Prop
  | compared {first r : List (Entry ν)} {others : List (List (Entry ν))} {e f : Entry ν}
      (h : O.AreRecords v (first :: others)) (hr : r ∈ first :: others) (he : e ∈ r) (hf : f ∈ first)
      (hsame : O.same e.key f.key = false) (hx : O.equal e.key f.key = .error x)
  | value {first r : List (Entry ν)} {others : List (List (Entry ν))} {e : Entry ν}
      (h : O.Records v first others) (hr : r ∈ first :: others) (he : e ∈ r) (hx : O.str e.value = .error x)
  | key {first : List (Entry ν)} {others : List (List (Entry ν))} {f : Entry ν}
      (h : O.Records v first others) (hf : f ∈ first) (hx : O.str f.key = .error x)

/-- What objects keep to: each is the same as itself, objects that are equal have one hash, and the
hash of a key does not change. -/
structure Lawful : Prop where
  same_refl (x : ν) : O.same x x = true
  hash_of_same {x y : ν} (h : O.same x y = true) : O.hash x = O.hash y
  hash_of_equal {x y : ν} {m n : Int} (h : O.equal x y = .ok true) (hx : O.hash x = .ok m)
    (hy : O.hash y = .ok n) : m = n
  hashed {v : ν} {r : List (Entry ν)} (h : O.entries? v = some r) : ∀ e ∈ r, O.hash e.key = .ok e.hash

variable {O} {x y key v : ν} {xs ys headers : List ν} {first r : List (Entry ν)}
  {others records : List (List (Entry ν))} {e f : Entry ν} {fault : ε}

/-! ### Keys that agree -/

theorem agree_eq_true_iff : O.agree x y = .ok true ↔ O.Agree x y := by
  unfold agree Agree
  cases O.same x y <;> simp

theorem agree_eq_error_iff :
    O.agree x y = .error fault ↔ O.same x y = false ∧ O.equal x y = .error fault := by
  unfold agree
  cases O.same x y <;> simp

theorem agreeEach_eq_true (hlength : xs.length = ys.length) (h : O.agreeEach xs ys = .ok true) :
    List.Forall₂ O.Agree xs ys := by
  induction xs generalizing ys with
  | nil =>
    cases ys with
    | nil => exact .nil
    | cons y ys => cases hlength
  | cons x xs ih =>
    cases ys with
    | nil => cases hlength
    | cons y ys =>
      rw [agreeEach] at h
      obtain ⟨b, hb, h⟩ := bind_eq_ok_iff.mp h
      cases b with
      | false => cases h
      | true => exact .cons (agree_eq_true_iff.mp hb) (ih (Nat.succ.inj hlength) h)

theorem agreeEach_of_forall₂ (h : List.Forall₂ O.Agree xs ys) : O.agreeEach xs ys = .ok true := by
  induction h with
  | nil => rfl
  | cons hxy h ih =>
    rw [agreeEach, agree_eq_true_iff.mpr hxy]
    exact ih

theorem agreeEach_eq_error (h : O.agreeEach xs ys = .error fault) :
    ∃ x ∈ xs, ∃ y ∈ ys, O.agree x y = .error fault := by
  induction xs generalizing ys with
  | nil => cases h
  | cons x xs ih =>
    cases ys with
    | nil => cases h
    | cons y ys =>
      rw [agreeEach] at h
      rcases bind_eq_error_iff.mp h with hxy | ⟨b, -, h⟩
      · exact ⟨x, List.mem_cons_self, y, List.mem_cons_self, hxy⟩
      · cases b with
        | false => cases h
        | true =>
          obtain ⟨x', hx, y', hy, hraised⟩ := ih h
          exact ⟨x', List.mem_cons_of_mem x hx, y', List.mem_cons_of_mem y hy, hraised⟩

theorem agreeLists_eq_true_iff : O.agreeLists xs ys = .ok true ↔ List.Forall₂ O.Agree xs ys := by
  unfold agreeLists
  constructor
  · intro h
    split at h
    · next hlength => exact agreeEach_eq_true hlength h
    · cases h
  · intro h
    rw [if_pos h.length_eq, agreeEach_of_forall₂ h]

theorem agreeLists_eq_error (h : O.agreeLists xs ys = .error fault) :
    ∃ x ∈ xs, ∃ y ∈ ys, O.agree x y = .error fault := by
  unfold agreeLists at h
  split at h
  · exact agreeEach_eq_error h
  · cases h

theorem fit_eq_true_iff : O.fit headers records = .ok true ↔
    ∀ r ∈ records, List.Forall₂ O.Agree (r.map Entry.key) headers := by
  induction records with
  | nil => simp [fit, pure, Except.pure]
  | cons r rs ih =>
    rw [fit, bind_eq_ok_iff, List.forall_mem_cons, ← ih, ← agreeLists_eq_true_iff]
    constructor
    · rintro ⟨b, hb, h⟩
      cases b with
      | false => cases h
      | true => exact ⟨hb, h⟩
    · rintro ⟨hb, h⟩
      exact ⟨true, hb, h⟩

theorem fit_eq_error (h : O.fit headers records = .error fault) :
    ∃ r ∈ records, ∃ e ∈ r, ∃ y ∈ headers, O.agree e.key y = .error fault := by
  induction records with
  | nil => cases h
  | cons r rs ih =>
    rw [fit] at h
    rcases bind_eq_error_iff.mp h with hr | ⟨b, -, h⟩
    · obtain ⟨x, hx, y, hy, hraised⟩ := agreeLists_eq_error hr
      obtain ⟨e, he, rfl⟩ := List.mem_map.mp hx
      exact ⟨r, List.mem_cons_self, e, he, y, hy, hraised⟩
    · cases b with
      | false => cases h
      | true =>
        obtain ⟨r', hr, hraised⟩ := ih h
        exact ⟨r', List.mem_cons_of_mem r hr, hraised⟩

/-! ### Looking a key up -/

theorem find?_eq_some {n : Int} (h : O.find? n key r = .ok (some e)) :
    e.hash = n ∧ O.Agree e.key key ∧ ∃ before after, r = before ++ e :: after ∧
      ∀ d ∈ before, d.hash = n → O.agree d.key key = .ok false := by
  induction r with
  | nil => cases h
  | cons d r ih =>
    rw [find?] at h
    split at h
    · next hash =>
      obtain ⟨b, hb, h⟩ := bind_eq_ok_iff.mp h
      cases b with
      | true =>
        cases h
        exact ⟨hash, agree_eq_true_iff.mp hb, [], r, rfl, by simp⟩
      | false =>
        obtain ⟨he, hagree, before, after, rfl, hbefore⟩ := ih h
        refine ⟨he, hagree, d :: before, after, rfl, ?_⟩
        exact List.forall_mem_cons.mpr ⟨fun _ => hb, hbefore⟩
    · next hash =>
      obtain ⟨he, hagree, before, after, rfl, hbefore⟩ := ih h
      refine ⟨he, hagree, d :: before, after, rfl, ?_⟩
      exact List.forall_mem_cons.mpr ⟨fun hd => absurd hd hash, hbefore⟩

theorem find?_ne_none {n : Int} (he : e ∈ r) (hash : e.hash = n) (h : O.Agree e.key key) :
    O.find? n key r ≠ .ok none := by
  induction r with
  | nil => cases he
  | cons d r ih =>
    intro hnone
    rw [find?] at hnone
    split at hnone
    · obtain ⟨b, hb, hnone⟩ := bind_eq_ok_iff.mp hnone
      cases b with
      | true => cases hnone
      | false =>
        rcases List.mem_cons.mp he with rfl | he
        · rw [agree_eq_true_iff.mpr h] at hb
          cases hb
        · exact ih he hnone
    · next hd =>
      rcases List.mem_cons.mp he with rfl | he
      · exact hd hash
      · exact ih he hnone

theorem find?_eq_error {n : Int} (h : O.find? n key r = .error fault) :
    ∃ e ∈ r, O.agree e.key key = .error fault := by
  induction r with
  | nil => cases h
  | cons d r ih =>
    have hlater : O.find? n key r = .error fault → ∃ e ∈ d :: r, O.agree e.key key = .error fault := by
      intro hr
      obtain ⟨e, he, hraised⟩ := ih hr
      exact ⟨e, List.mem_cons_of_mem d he, hraised⟩
    rw [find?] at h
    split at h
    · rcases bind_eq_error_iff.mp h with hd | ⟨b, -, h⟩
      · exact ⟨d, List.mem_cons_self, hd⟩
      · cases b with
        | true => cases h
        | false => exact hlater h
    · exact hlater h

/-- A key that agrees with one of a record has its hash, and so it is found, unless a comparison
raises an exception. -/
theorem Lawful.lookUp (hO : O.Lawful) (hr : ∀ e ∈ r, O.hash e.key = .ok e.hash)
    (hf : O.hash f.key = .ok f.hash) (he : e ∈ r) (h : O.Agree e.key f.key) :
    (∃ d, O.Found r f.key d ∧ O.lookUp r f.key = .ok d.value) ∨
      ∃ d ∈ r, ∃ x, O.agree d.key f.key = .error x ∧ O.lookUp r f.key = .error x := by
  have hash : e.hash = f.hash := by
    rcases h with hsame | ⟨-, hequal⟩
    · have hsame := hO.hash_of_same hsame
      rw [hr e he, hf] at hsame
      exact Except.ok.inj hsame
    · exact hO.hash_of_equal hequal (hr e he) hf
  cases hfind : O.find? f.hash f.key r with
  | error x =>
    obtain ⟨d, hd, hraised⟩ := find?_eq_error hfind
    refine .inr ⟨d, hd, x, hraised, ?_⟩
    simp only [Objects.lookUp, hf, hfind, bind, Except.bind]
  | ok o =>
    cases o with
    | none => exact absurd hfind (find?_ne_none he hash h)
    | some d =>
      obtain ⟨hd, hagree, hfirst⟩ := find?_eq_some hfind
      refine .inl ⟨d, ⟨hd ▸ hf, hagree, hd ▸ hfirst⟩, ?_⟩
      simp only [Objects.lookUp, hf, hfind, bind, Except.bind]
      rfl

/-! ### Records -/

theorem AreRecords.hashed (hO : O.Lawful) (h : O.AreRecords v records) :
    ∀ r ∈ records, ∀ e ∈ r, O.hash e.key = .ok e.hash := by
  obtain ⟨items, -, hall⟩ := h
  intro r hr
  obtain ⟨i, hi, rfl⟩ := List.getElem_of_mem hr
  exact hO.hashed (hall.get (by rw [hall.length_eq]; exact hi) hi)

theorem areRecords_iff : O.AreRecords v records ↔
    (O.items? v).bind (List.mapM O.entries?) = some records := by
  simp only [Option.bind_eq_some_iff, mapM_eq_some_iff]
  rfl

/-- The first record agrees with itself, since its keys are the same. -/
theorem Records.keys_of_mem (hO : O.Lawful) (h : O.Records v first others) :
    ∀ r ∈ first :: others, List.Forall₂ (fun e f => O.Agree e.key f.key) r first :=
  List.forall_mem_cons.mpr
    ⟨List.forall₂_same.mpr fun e _ => .inl (hO.same_refl e.key), h.keys⟩

theorem Records.lookUp (hO : O.Lawful) (h : O.Records v first others) (hr : r ∈ first :: others)
    (hf : f ∈ first) :
    (∃ d, O.Found r f.key d ∧ O.lookUp r f.key = .ok d.value) ∨
      ∃ d ∈ r, ∃ x, O.agree d.key f.key = .error x ∧ O.lookUp r f.key = .error x := by
  have hashed := h.records.hashed hO
  obtain ⟨e, he, hagree⟩ := exists_of_mem_right (h.keys_of_mem hO r hr) hf
  exact hO.lookUp (hashed r hr) (hashed first List.mem_cons_self f hf) he hagree

theorem Records.fit (hO : O.Lawful) (h : O.AreRecords v (first :: others)) :
    O.fit (first.map Entry.key) (first :: others) = .ok true ↔ O.Records v first others := by
  rw [fit_eq_true_iff]
  simp only [List.forall₂_map_left_iff, List.forall₂_map_right_iff]
  exact ⟨fun hall => ⟨h, (List.forall_mem_cons.mp hall).2⟩, fun hrecords => hrecords.keys_of_mem hO⟩

theorem Records.row_eq_ok (hO : O.Lawful) (h : O.Records v first others) (hr : r ∈ first :: others)
    {row : List Text} (hrow : O.row (first.map Entry.key) r = .ok row) : O.RowOf first r row := by
  rw [Objects.row, mapM_eq_ok_iff, List.forall₂_map_left_iff] at hrow
  refine ((List.forall₂_and_left first row).mpr ⟨fun f hf => hf, hrow⟩).imp ?_
  rintro f cell ⟨hf, hcell⟩
  obtain ⟨w, hlook, hstr⟩ := bind_eq_ok_iff.mp hcell
  rcases h.lookUp hO hr hf with ⟨e, he, hfound⟩ | ⟨d, -, x, -, hfails⟩
  · rw [hfound] at hlook
    cases hlook
    exact ⟨e, he, hstr⟩
  · rw [hfails] at hlook
    cases hlook

theorem Records.row_eq_error (hO : O.Lawful) (h : O.Records v first others) (hr : r ∈ first :: others)
    (hrow : O.row (first.map Entry.key) r = .error fault) : O.Raises v fault := by
  obtain ⟨key, hkey, hraised⟩ := exists_of_mapM_eq_error hrow
  obtain ⟨f, hf, rfl⟩ := List.mem_map.mp hkey
  rcases bind_eq_error_iff.mp hraised with hlook | ⟨w, hlook, hstr⟩
  · rcases h.lookUp hO hr hf with ⟨d, -, hfound⟩ | ⟨d, hd, x, hx, hfails⟩
    · rw [hfound] at hlook
      cases hlook
    · rw [hfails] at hlook
      cases hlook
      obtain ⟨hsame, hequal⟩ := agree_eq_error_iff.mp hx
      exact .compared h.records hr hd hf hsame hequal
  · rcases h.lookUp hO hr hf with ⟨d, hd, hfound⟩ | ⟨d, hd, x, hx, hfails⟩
    · rw [hfound] at hlook
      cases hlook
      obtain ⟨before, after, hr', -⟩ := hd.first
      exact .value h hr (by simp [hr']) hstr
    · rw [hfails] at hlook
      cases hlook

/-! ### Tables -/

theorem tabulate_of_not_records (h : ∀ first others, ¬ O.AreRecords v (first :: others)) :
    O.tabulate v = .ok none := by
  unfold tabulate
  split
  · next first others hrecords => exact absurd (areRecords_iff.mpr hrecords) (h first others)
  · rfl

theorem tabulate_of_records (h : O.AreRecords v (first :: others)) :
    O.tabulate v = O.table? first others := by
  rw [tabulate, areRecords_iff.mp h]

/-- What comes of a list of records: they do not all agree, or they are a table, or an exception is
raised. -/
inductive Tabulated (O : Objects ν ε) (v : ν) : Except ε (Option Block) → Prop
  | refused (h : ¬ ∃ first others, O.Records v first others) : Tabulated O v (.ok none)
  | table {first : List (Entry ν)} {others : List (List (Entry ν))} {headers : List Text}
      {rows : List (List Text)} (h : O.Records v first others)
      (hheaders : List.Forall₂ (fun f t => O.str f.key = .ok t) first headers)
      (hrows : List.Forall₂ (O.RowOf first) (first :: others) rows) :
      Tabulated O v (.ok (some (.table headers rows)))
  | raised {x : ε} (h : O.Raises v x) : Tabulated O v (.error x)

theorem AreRecords.eq {first' : List (Entry ν)} {others' : List (List (Entry ν))}
    (h : O.AreRecords v (first :: others)) (h' : O.AreRecords v (first' :: others')) :
    first = first' ∧ others = others' := by
  have heq := (areRecords_iff.mp h).symm.trans (areRecords_iff.mp h')
  exact List.cons.inj (Option.some.inj heq)

theorem table?_eq (first : List (Entry ν)) (others : List (List (Entry ν))) :
    O.table? first others = O.fit (first.map Entry.key) (first :: others) >>= fun fits =>
      if fits then
        (first :: others).mapM (O.row (first.map Entry.key)) >>= fun rows =>
          (first.map Entry.key).mapM O.str >>= fun texts => pure (some (.table texts rows))
      else pure none := rfl

theorem AreRecords.tabulated (hO : O.Lawful) (h : O.AreRecords v (first :: others)) :
    Tabulated O v (O.table? first others) := by
  rw [table?_eq]
  cases hfit : O.fit (first.map Entry.key) (first :: others) with
  | error x =>
    obtain ⟨r, hr, e, he, key, hkey, hraised⟩ := fit_eq_error hfit
    obtain ⟨f, hf, rfl⟩ := List.mem_map.mp hkey
    obtain ⟨hsame, hequal⟩ := agree_eq_error_iff.mp hraised
    exact .raised (.compared h hr he hf hsame hequal)
  | ok fits =>
    cases fits with
    | false =>
      refine .refused ?_
      rintro ⟨first', others', hrecords⟩
      obtain ⟨rfl, rfl⟩ := h.eq hrecords.records
      rw [(Records.fit hO h).mpr hrecords] at hfit
      cases hfit
    | true =>
      have hrecords := (Records.fit hO h).mp hfit
      show Tabulated O v ((first :: others).mapM (O.row (first.map Entry.key)) >>= _)
      cases hrows : (first :: others).mapM (O.row (first.map Entry.key)) with
      | error x =>
        obtain ⟨r, hr, hrow⟩ := exists_of_mapM_eq_error hrows
        exact .raised (hrecords.row_eq_error hO hr hrow)
      | ok rows =>
        show Tabulated O v ((first.map Entry.key).mapM O.str >>= _)
        cases htexts : (first.map Entry.key).mapM O.str with
        | error x =>
          obtain ⟨key, hkey, hraised⟩ := exists_of_mapM_eq_error htexts
          obtain ⟨f, hf, rfl⟩ := List.mem_map.mp hkey
          exact .raised (.key hrecords hf hraised)
        | ok texts =>
          rw [mapM_eq_ok_iff, List.forall₂_map_left_iff] at htexts
          have hall := (List.forall₂_and_left _ _).mpr ⟨fun r hr => hr, mapM_eq_ok_iff.mp hrows⟩
          exact .table hrecords htexts (hall.imp fun r row h => hrecords.row_eq_ok hO h.1 h.2)

theorem tabulated_tabulate (hO : O.Lawful) (v : ν) : Tabulated O v (O.tabulate v) := by
  by_cases h : ∃ first others, O.AreRecords v (first :: others)
  · obtain ⟨first, others, h⟩ := h
    rw [tabulate_of_records h]
    exact h.tabulated hO
  · rw [tabulate_of_not_records fun first others hrecords => h ⟨first, others, hrecords⟩]
    exact .refused fun ⟨first, others, hrecords⟩ => h ⟨first, others, hrecords.records⟩

/-- Unless an exception is raised by a comparison of two keys or by writing a key or a value, exactly
the records with agreeing keys are tabulated. Of their table, which is rectangular, every cell is the
text of what its record holds under the key of its column. No key is missing from a record. -/
theorem tabulate_outcome (hO : O.Lawful) (v : ν) :
    (∀ x, O.tabulate v = .error x → O.Raises v x) ∧
    (∀ o, O.tabulate v = .ok o → (o = none ↔ ¬ ∃ first others, O.Records v first others)) ∧
    ∀ first others, O.Records v first others →
      (∀ b, O.tabulate v = .ok (some b) → ∃ headers rows, b = .table headers rows ∧
        List.Forall₂ (fun f t => O.str f.key = .ok t) first headers ∧
        List.Forall₂ (O.RowOf first) (first :: others) rows ∧ ∀ row ∈ rows, row.length = headers.length) ∧
      ∀ r ∈ first :: others, ∀ f ∈ first,
        (∃ e, O.Found r f.key e ∧ O.lookUp r f.key = .ok e.value) ∨
          ∃ e ∈ r, ∃ x, O.agree e.key f.key = .error x ∧ O.lookUp r f.key = .error x := by
  have htabulated := tabulated_tabulate hO v
  refine ⟨?_, ?_, fun first others h => ⟨?_, fun r hr f hf => h.lookUp hO hr hf⟩⟩
  · intro x hx
    rw [hx] at htabulated
    cases htabulated with
    | raised h => exact h
  · intro o ho
    rw [ho] at htabulated
    cases htabulated with
    | refused h => simpa using h
    | table h => simpa using ⟨_, _, h⟩
  · intro b hb
    rw [hb] at htabulated
    cases htabulated with
    | @table first' others' headers rows h' hheaders hrows =>
      obtain ⟨rfl, rfl⟩ := h.records.eq h'.records
      refine ⟨headers, rows, rfl, hheaders, hrows, ?_⟩
      intro row hrow
      obtain ⟨r, -, hcells⟩ := exists_of_mem_right hrows hrow
      rw [← hcells.length_eq, hheaders.length_eq]

end Objects

namespace Transformation

theorem parts_lawful : parts.Lawful where
  same_refl a := by simp [parts]
  hash_of_same _ := rfl
  hash_of_equal _ hx hy := by
    cases hx
    cases hy
    rfl
  hashed {a r} h := by
    obtain ⟨place, v⟩ := a
    cases v with
    | dict es =>
      obtain rfl := Option.some.inj h
      intro e he
      obtain ⟨i, hi, rfl⟩ := List.mem_mapIdx.mp he
      rfl
    | _ => cases h

/-- Records whose first keys are equal, but of different classes. -/
def mixedKeys : Part :=
  ⟨[], .list [.dict [(.int 1, .str ['a']), (.str ['k'], .none)],
    .dict [(.bool true, .str ['b']), (.str ['k'], .int 20)]]⟩

theorem tabulate_outcome_mixedKeys :
    parts.Lawful ∧
      parts.tabulate mixedKeys =
        .ok (some (.table [['1'], ['k']] [[['a'], "None".toList], [['b'], ['2', '0']]])) ∧
      ∃ first others, parts.Records mixedKeys first others ∧
        List.Forall₂ (parts.RowOf first) (first :: others)
          [[['a'], "None".toList], [['b'], ['2', '0']]] := by
  have htable : parts.tabulate mixedKeys =
      .ok (some (.table [['1'], ['k']] [[['a'], "None".toList], [['b'], ['2', '0']]])) := by
    have hok : (parts.tabulate mixedKeys).toOption =
        some (some (.table [['1'], ['k']] [[['a'], "None".toList], [['b'], ['2', '0']]])) := by
      decide +kernel
    cases h : parts.tabulate mixedKeys with
    | error x => simp [h, Except.toOption] at hok
    | ok o => simpa [h, Except.toOption] using hok
  obtain ⟨-, haccepted, htabulated⟩ := Objects.tabulate_outcome parts_lawful mixedKeys
  have hrecords : ∃ first others, parts.Records mixedKeys first others := by
    by_contra hnone
    cases (haccepted _ htable).mpr hnone
  obtain ⟨first, others, h⟩ := hrecords
  obtain ⟨headers, rows, hb, -, hrows, -⟩ := (htabulated first others h).1 _ htable
  obtain ⟨rfl, rfl⟩ := Block.table.inj hb
  exact ⟨parts_lawful, htable, first, others, h, hrows⟩

def hugeRecord : Value := .list [.dict [(.str ['n'], .int (Int.ofNat Value.writtenBound))]]

theorem not_tabulated_hugeRecord :
    (∃ first others, parts.Records ⟨[], hugeRecord⟩ first others) ∧
      ∀ b, tabulate (.of hugeRecord) ≠ .ok (some [b]) := by
  constructor
  · exact ⟨_, [], ⟨⟨_, rfl, .cons rfl .nil⟩, nofun⟩⟩
  · intro b h
    have hraised : (parts.tabulate ⟨[], hugeRecord⟩).toOption = none := by decide +kernel
    obtain ⟨o, ho, -⟩ := bind_eq_ok_iff.mp h
    have hok : parts.tabulate ⟨[], hugeRecord⟩ = .ok o := ho
    simp [hok, Except.toOption] at hraised

end Transformation

end Weave
