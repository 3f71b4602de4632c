import Weave.Html

/-!
# Written markup

Markup is text with elements in it, an element having a name, perhaps a class, and markup inside. It
is written with tags around what is inside an element and with all texts escaped. Reading goes the
other way: a text is cut into tags and the texts between them, entities are put back, and a closing
tag ends the element that was opened last. Whatever texts the markup holds, reading what was written
gives it back.
-/

set_option autoImplicit false

namespace Weave.Html

/-- A text, or the text in front of an element, the element, and what follows it. -/
inductive Markup where
  | text (t : Text)
  | element (before name : Text) (cls : Option Text) (inner rest : Markup)
deriving DecidableEq, Repr

/-! ### Writing -/

def classAttribute : Option Text → Text
  | none => []
  | some v => ' ' :: "class=\"".toList ++ escape v ++ ['"']

def Markup.write : Markup → Text
  | .text t => escape t
  | .element before name cls inner rest =>
    escape before ++ '<' :: (name ++ classAttribute cls) ++ '>' :: inner.write
      ++ '<' :: '/' :: name ++ '>' :: rest.write

/-! ### Reading -/

def unescape : Text → Text
  | '&' :: 'a' :: 'm' :: 'p' :: ';' :: r => '&' :: unescape r
  | '&' :: 'l' :: 't' :: ';' :: r => '<' :: unescape r
  | '&' :: 'g' :: 't' :: ';' :: r => '>' :: unescape r
  | '&' :: 'q' :: 'u' :: 'o' :: 't' :: ';' :: r => '"' :: unescape r
  | '&' :: '#' :: 'x' :: '2' :: '7' :: ';' :: r => '\'' :: unescape r
  | c :: r => c :: unescape r
  | [] => []

mutual

/-- The text up to the first tag, and every tag with the text behind it. -/
def pieces? : Text → Option (Text × List (Text × Text))
  | [] => some ([], [])
  | c :: r =>
    if c = '<' then (tagged? false r).map fun p => ([], p)
    else (pieces? r).map fun p => (c :: p.1, p.2)

/-- The same inside a tag, which ends at the first `>` that does not stand in quotation marks. -/
def tagged? (quoted : Bool) : Text → Option (List (Text × Text))
  | [] => none
  | c :: r =>
    if c = '>' ∧ quoted = false then (pieces? r).map fun p => ([], p.1) :: p.2
    else (tagged? (quoted != (c == '"')) r).map (List.modifyHead fun p => (c :: p.1, p.2))

end

inductive Tag where
  | opening (name : Text) (cls : Option Text)
  | closing (name : Text)
deriving DecidableEq, Repr

def class? : Text → Option (Option Text)
  | [] => some none
  | c :: r =>
    match Text.after? (' ' :: "class=\"".toList) (c :: r) with
    | none => none
    | some v =>
      if v = v.takeWhile (· ≠ '"') ++ ['"'] then some (some (unescape (v.takeWhile (· ≠ '"'))))
      else none

def tag? : Text → Option Tag
  | '/' :: name => some (.closing name)
  | body => (class? (body.dropWhile (· ≠ ' '))).map (.opening (body.takeWhile (· ≠ ' ')))

/-- The markup up to the end of the element that is open here; and for each of the elements that are
open, the innermost first, its name and the markup behind it. -/
def grow : Text → List (Text × Text) → Option (Markup × List (Text × Markup))
  | lead, [] => some (.text (unescape lead), [])
  | lead, (body, behind) :: ps =>
    match tag? body, grow behind ps with
    | some (.closing name), some (rest, outer) => some (.text (unescape lead), (name, rest) :: outer)
    | some (.opening name cls), some (inner, (ended, rest) :: outer) =>
      if ended = name then some (.element (unescape lead) name cls inner rest, outer) else none
    | _, _ => none

/-- Reads a text as markup in which every element that is opened is closed. -/
def Markup.read? (t : Text) : Option Markup :=
  match (pieces? t).bind fun p => grow p.1 p.2 with
  | some (m, []) => some m
  | _ => none

/-! ### Escaped texts -/

theorem unescape_cons {c : Char} (h : c ≠ '&') (r : Text) : unescape (c :: r) = c :: unescape r := by
  rw [unescape.eq_def]
  split <;> simp_all

/-- An escaped character is an entity, or one that no entity stands for. -/
theorem escapeChar_cases (c : Char) :
    (escapeChar c = "&amp;".toList ∧ c = '&') ∨ (escapeChar c = "&lt;".toList ∧ c = '<') ∨
      (escapeChar c = "&gt;".toList ∧ c = '>') ∨ (escapeChar c = "&quot;".toList ∧ c = '"') ∨
      (escapeChar c = "&#x27;".toList ∧ c = '\'') ∨
      (escapeChar c = [c] ∧ c ≠ '&' ∧ c ∉ ['<', '>', '"', '\'']) := by
  unfold escapeChar
  by_cases h₁ : c = '&'
  · simp [h₁]
  by_cases h₂ : c = '<'
  · simp [h₂]
  by_cases h₃ : c = '>'
  · simp [h₃]
  by_cases h₄ : c = '"'
  · simp [h₄]
  by_cases h₅ : c = '\''
  · simp [h₅]
  simp [h₁, h₂, h₃, h₄, h₅]

theorem unescape_escape (t : Text) : unescape (escape t) = t := by
  induction t with
  | nil => rfl
  | cons c t ih =>
    have hsplit : escape (c :: t) = escapeChar c ++ escape t := List.flatMap_cons
    rw [hsplit]
    rcases escapeChar_cases c with ⟨h, rfl⟩ | ⟨h, rfl⟩ | ⟨h, rfl⟩ | ⟨h, rfl⟩ | ⟨h, rfl⟩ | ⟨h, hc, -⟩
    · simp [h, unescape, ih]
    · simp [h, unescape, ih]
    · simp [h, unescape, ih]
    · simp [h, unescape, ih]
    · simp [h, unescape, ih]
    · rw [h, List.singleton_append, unescape_cons hc, ih]

def marks : List Char := ['<', '>', '"', '\'']

theorem not_mem_escape {c : Char} (hc : c ∈ marks) (t : Text) : c ∉ escape t := by
  intro h
  obtain ⟨a, -, ha⟩ := List.mem_flatMap.mp h
  have hentities : ∀ d ∈ marks, d ∉ "&amp;".toList ∧ d ∉ "&lt;".toList ∧ d ∉ "&gt;".toList ∧
      d ∉ "&quot;".toList ∧ d ∉ "&#x27;".toList := by
    intro d hd
    simp only [marks, List.mem_cons, List.not_mem_nil, or_false] at hd
    rcases hd with rfl | rfl | rfl | rfl <;> decide
  obtain ⟨hamp, hlt, hgt, hquot, hapos⟩ := hentities c hc
  rcases escapeChar_cases a with ⟨h, -⟩ | ⟨h, -⟩ | ⟨h, -⟩ | ⟨h, -⟩ | ⟨h, -⟩ | ⟨h, -, hmark⟩
  · exact hamp (h ▸ ha)
  · exact hlt (h ▸ ha)
  · exact hgt (h ▸ ha)
  · exact hquot (h ▸ ha)
  · exact hapos (h ▸ ha)
  · rw [h, List.mem_singleton] at ha
    exact hmark (ha ▸ hc)

/-! ### Tags -/

theorem pieces?_append {x : Text} (hx : '<' ∉ x) (u : Text) :
    pieces? (x ++ u) = (pieces? u).map fun p => (x ++ p.1, p.2) := by
  induction x with
  | nil => simp
  | cons c x ih =>
    obtain ⟨hc, hx⟩ := List.ne_and_not_mem_of_not_mem_cons hx
    rw [List.cons_append, pieces?, if_neg (Ne.symm hc), ih hx, Option.map_map]
    rfl

/-- Inside a tag characters are taken up to a quotation mark or, outside of quotation marks, `>`. -/
theorem tagged?_append {x : Text} {quoted : Bool} (hquot : '"' ∉ x) (hgt : '>' ∉ x) (u : Text) :
    tagged? quoted (x ++ u) = (tagged? quoted u).map (List.modifyHead fun p => (x ++ p.1, p.2)) := by
  induction x with
  | nil =>
    simp only [List.nil_append]
    cases tagged? quoted u with
    | none => rfl
    | some ps => cases ps <;> rfl
  | cons c x ih =>
    obtain ⟨hc, hquot⟩ := List.ne_and_not_mem_of_not_mem_cons hquot
    obtain ⟨hc', hgt⟩ := List.ne_and_not_mem_of_not_mem_cons hgt
    have hsame : (quoted != (c == '"')) = quoted := by
      rw [beq_false_of_ne hc.symm, Bool.bne_false]
    rw [List.cons_append, tagged?, if_neg (fun h => hc' h.1.symm), hsame, ih hquot hgt, Option.map_map]
    cases tagged? quoted u with
    | none => rfl
    | some ps => cases ps <;> rfl

theorem tagged?_quote (quoted : Bool) (u : Text) :
    tagged? quoted ('"' :: u) = (tagged? (!quoted) u).map (List.modifyHead fun p => ('"' :: p.1, p.2)) := by
  rw [tagged?, if_neg (by simp)]
  cases quoted <;> rfl

theorem tagged?_end (u : Text) :
    tagged? false ('>' :: u) = (pieces? u).map fun p => ([], p.1) :: p.2 := by
  rw [tagged?, if_pos ⟨rfl, rfl⟩]

def IsTagName (name : Text) : Prop := ∀ c ∈ name, c.isAlpha = true

instance (name : Text) : Decidable (IsTagName name) := List.decidableBAll _ name

theorem IsTagName.not_mem {name : Text} (h : IsTagName name) {c : Char} (hc : c.isAlpha = false) :
    c ∉ name := by
  intro hmem
  rw [h c hmem] at hc
  cases hc

theorem tagged?_name {name : Text} (h : IsTagName name) (u : Text) :
    tagged? false (name ++ u) = (tagged? false u).map (List.modifyHead fun p => (name ++ p.1, p.2)) := by
  have hquot : '"' ∉ name := h.not_mem rfl
  have hgt : '>' ∉ name := h.not_mem rfl
  exact tagged?_append hquot hgt u

theorem tagged?_opening {name : Text} (h : IsTagName name) (cls : Option Text) (u : Text) :
    tagged? false (name ++ classAttribute cls ++ '>' :: u) =
      (pieces? u).map fun p => (name ++ classAttribute cls, p.1) :: p.2 := by
  rw [List.append_assoc, tagged?_name h]
  cases cls with
  | none =>
    rw [classAttribute, List.nil_append, tagged?_end, Option.map_map]
    rfl
  | some v =>
    have hquot : '"' ∉ escape v := not_mem_escape (by decide) v
    have hgt : '>' ∉ escape v := not_mem_escape (by decide) v
    have hsplit : classAttribute (some v) ++ '>' :: u =
        " class=".toList ++ '"' :: (escape v ++ '"' :: '>' :: u) := by
      simp [classAttribute]
    rw [hsplit, tagged?_append (by decide) (by decide), tagged?_quote, tagged?_append hquot hgt,
      tagged?_quote, Bool.not_not, tagged?_end]
    cases pieces? u with
    | none => rfl
    | some p => simp [classAttribute]

theorem tagged?_closing {name : Text} (h : IsTagName name) (u : Text) :
    tagged? false ('/' :: name ++ '>' :: u) = (pieces? u).map fun p => ('/' :: name, p.1) :: p.2 := by
  have hslash : '/' :: name ++ '>' :: u = ['/'] ++ (name ++ '>' :: u) := rfl
  rw [hslash, tagged?_append (by decide) (by decide), tagged?_name h, tagged?_end]
  cases pieces? u with
  | none => rfl
  | some p => simp

theorem class?_classAttribute (cls : Option Text) : class? (classAttribute cls) = some cls := by
  cases cls with
  | none => rfl
  | some v =>
    have hquot : ∀ c ∈ escape v, decide (c ≠ '"') = true := by
      intro c hc
      have hne : c ≠ '"' := fun he => not_mem_escape (by decide) v (he ▸ hc)
      exact decide_eq_true hne
    have hvalue : (escape v ++ ['"']).takeWhile (· ≠ '"') = escape v := by
      rw [List.takeWhile_append_of_pos hquot]
      simp
    have hafter : Text.after? (' ' :: "class=\"".toList) (classAttribute (some v)) =
        some (escape v ++ ['"']) := by
      simp [classAttribute, Text.after?]
    have hcons : ∃ r, classAttribute (some v) = ' ' :: r := ⟨_, rfl⟩
    obtain ⟨r, hr⟩ := hcons
    rw [hr] at hafter ⊢
    rw [class?, hafter]
    simp only [hvalue, if_true, unescape_escape]

theorem tag?_opening {name : Text} (h : IsTagName name) (cls : Option Text) :
    tag? (name ++ classAttribute cls) = some (.opening name cls) := by
  have hspace : ∀ c ∈ name, decide (c ≠ ' ') = true := by
    intro c hc
    have hspace : ' ' ∉ name := h.not_mem rfl
    exact decide_eq_true fun he => hspace (he ▸ hc)
  have hslash : ∀ r, name ++ classAttribute cls ≠ '/' :: r := by
    intro r hr
    have hslash : '/' ∉ name := h.not_mem rfl
    cases name with
    | nil => cases cls <;> simp [classAttribute] at hr
    | cons c name =>
      rw [List.cons_append, List.cons.injEq] at hr
      exact hslash (hr.1 ▸ List.mem_cons_self)
  have hends : (classAttribute cls).takeWhile (· ≠ ' ') = [] ∧
      (classAttribute cls).dropWhile (· ≠ ' ') = classAttribute cls := by
    cases cls <;> simp [classAttribute]
  unfold tag?
  split
  · next r hr => exact absurd hr (hslash r)
  · rw [List.dropWhile_append_of_pos hspace, List.takeWhile_append_of_pos hspace, hends.1, hends.2,
      class?_classAttribute, List.append_nil]
    rfl

/-! ### Reading what was written -/

def Markup.Named : Markup → Prop
  | .text _ => True
  | .element _ name _ inner rest => IsTagName name ∧ inner.Named ∧ rest.Named

/-- Text in front of a closing tag or of the end. -/
theorem grow_text {lead : Text} {ps : List (Text × Text)} {outer : List (Text × Markup)}
    (h : grow [] ps = some (.text [], outer)) : grow lead ps = some (.text (unescape lead), outer) := by
  cases ps with
  | nil =>
    simp only [grow, Option.some.injEq, Prod.mk.injEq] at h ⊢
    exact ⟨trivial, h.2⟩
  | cons p ps =>
    simp only [grow] at h ⊢
    split at h <;> simp_all

/-- Written markup is read up to the closing tag or the end behind it. -/
theorem grow_write {m : Markup} (hm : m.Named) {u : Text} {ps : List (Text × Text)}
    {outer : List (Text × Markup)} (hu : pieces? u = some ([], ps))
    (hg : grow [] ps = some (.text [], outer)) :
    ∃ lead qs, pieces? (m.write ++ u) = some (lead, qs) ∧ grow lead qs = some (m, outer) := by
  induction m generalizing u ps outer with
  | text t =>
    refine ⟨escape t, ps, ?_, ?_⟩
    · rw [Markup.write, pieces?_append (not_mem_escape (by decide) t), hu]
      simp
    · rw [grow_text hg, unescape_escape]
  | element before name cls inner rest ihInner ihRest =>
    obtain ⟨hname, hinner, hrest⟩ := hm
    obtain ⟨lead, qs, hpieces, hgrow⟩ := ihRest hrest hu hg
    have hclosing : pieces? ('<' :: '/' :: name ++ '>' :: (rest.write ++ u)) =
        some ([], ('/' :: name, lead) :: qs) := by
      have htag := tagged?_closing hname (rest.write ++ u)
      rw [hpieces] at htag
      rw [List.cons_append, pieces?, if_pos rfl, htag]
      rfl
    have houter : grow [] (('/' :: name, lead) :: qs) = some (.text [], (name, rest) :: outer) := by
      simp [grow, tag?, hgrow, unescape]
    obtain ⟨lead', qs', hpieces', hgrow'⟩ := ihInner hinner hclosing houter
    refine ⟨escape before, (name ++ classAttribute cls, lead') :: qs', ?_, ?_⟩
    · have htag := tagged?_opening hname cls (inner.write ++ ('<' :: '/' :: name ++ '>' :: (rest.write ++ u)))
      rw [hpieces'] at htag
      have hsplit : (Markup.element before name cls inner rest).write ++ u = escape before ++
          '<' :: (name ++ classAttribute cls ++
            '>' :: (inner.write ++ ('<' :: '/' :: name ++ '>' :: (rest.write ++ u)))) := by
        simp [Markup.write]
      rw [hsplit, pieces?_append (not_mem_escape (by decide) before), pieces?, if_pos rfl, htag]
      simp
    · simp [grow, tag?_opening hname, hgrow', unescape_escape]

theorem read?_write {m : Markup} (hm : m.Named) : Markup.read? m.write = some m := by
  obtain ⟨lead, qs, hpieces, hgrow⟩ := grow_write hm (u := []) rfl rfl
  rw [List.append_nil] at hpieces
  simp [Markup.read?, hpieces, hgrow]

/-! ### How often the characters of tags occur -/

def Markup.size : Markup → Nat
  | .text _ => 0
  | .element _ _ _ inner rest => inner.size + rest.size + 1

def Markup.classes : Markup → Nat
  | .text _ => 0
  | .element _ _ cls inner rest => inner.classes + rest.classes + if cls.isSome then 1 else 0

theorem count_escape {c : Char} (hc : c ∈ marks) (t : Text) : (escape t).count c = 0 :=
  List.count_eq_zero.mpr (not_mem_escape hc t)

theorem IsTagName.count {name : Text} (h : IsTagName name) {c : Char} (hc : c.isAlpha = false) :
    name.count c = 0 :=
  List.count_eq_zero.mpr (h.not_mem hc)

theorem count_classAttribute {c : Char} (hc : c ∈ marks) (cls : Option Text) :
    (classAttribute cls).count c = if c = '"' ∧ cls.isSome then 2 else 0 := by
  cases cls with
  | none => simp [classAttribute]
  | some v =>
    rw [classAttribute, List.count_append, List.count_append, count_escape hc]
    simp only [marks, List.mem_cons, List.not_mem_nil, or_false] at hc
    rcases hc with rfl | rfl | rfl | rfl <;> rfl

/-- An element is written with two tags. -/
theorem count_write {m : Markup} (hm : m.Named) {c : Char} (hc : c = '<' ∨ c = '>') :
    m.write.count c = 2 * m.size := by
  have hmem : c ∈ marks := by
    rcases hc with rfl | rfl <;> decide
  have hne : c ≠ '"' := by
    rcases hc with rfl | rfl <;> decide
  have hpair : ('<' :: '>' :: ([] : Text)).count c = 1 := by
    rcases hc with rfl | rfl <;> rfl
  have hslash : '/' ≠ c := by
    rcases hc with rfl | rfl <;> decide
  have halpha : c.isAlpha = false := by
    rcases hc with rfl | rfl <;> rfl
  simp only [List.count_cons, List.count_nil] at hpair
  induction m with
  | text t => rw [Markup.write, Markup.size, count_escape hmem]
  | element before name cls inner rest ihInner ihRest =>
    obtain ⟨hname, hinner, hrest⟩ := hm
    have hattribute : (classAttribute cls).count c = 0 := by
      rw [count_classAttribute hmem, if_neg fun h => hne h.1]
    simp only [Markup.write, Markup.size, List.count_append, List.count_cons, count_escape hmem,
      hname.count halpha, hattribute, ihInner hinner, ihRest hrest, beq_iff_eq, hslash, if_false] at hpair ⊢
    omega

/-- A quotation mark stands only at either end of a class. -/
theorem count_quote_write {m : Markup} (hm : m.Named) : m.write.count '"' = 2 * m.classes := by
  induction m with
  | text t => rw [Markup.write, Markup.classes, count_escape (by decide)]
  | element before name cls inner rest ihInner ihRest =>
    obtain ⟨hname, hinner, hrest⟩ := hm
    have hattribute := count_classAttribute (c := '"') (by decide) cls
    simp only [Markup.write, Markup.classes, List.count_append, List.count_cons,
      count_escape (c := '"') (by decide), hname.count (c := '"') rfl, hattribute, ihInner hinner,
      ihRest hrest]
    cases cls <;> simp <;> omega

end Weave.Html
