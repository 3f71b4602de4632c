import Mathlib.Logic.Basic
import Weave.Latex
import Weave.Proofs.Latex.Escaping

/-!
# Optional arguments

Behind the end of a row and behind the command of an item, LaTeX skips blanks and newlines; what
stands there is taken as an argument of the command if it begins like one. In the text that is
written, each character is marked by where it comes from. An argument is taken from a given text
exactly where the first cell of a row behind another row, or an item, begins like an argument.
-/

set_option autoImplicit false

namespace Weave.Latex

/-! ### Marked texts -/

/-- A character belongs to the commands around the given texts, or is written for a given text. -/
inductive Origin where
  | own
  | given
deriving DecidableEq, Repr

abbrev Marked := List (Char × Origin)

def own (t : Text) : Marked := t.map fun c => (c, .own)

def given (t : Text) : Marked := t.map fun c => (c, .given)

def erase (m : Marked) : Text := m.map Prod.fst

def markedRow (cells : List Text) : Marked :=
  List.intercalate (own " & ".toList) (cells.map fun t => given (escape t)) ++ own " \\\\\n".toList

def markedTable (headers : List Text) (rows : List (List Text)) : Marked :=
  own (apply "begin" "tabular".toList)
    ++ own ('{' :: List.replicate headers.length 'l' ++ ['}', '\n']) ++ own rule ++ markedRow headers
    ++ own rule ++ rows.flatMap markedRow ++ own rule ++ own (apply "end" "tabular".toList)

def markedApply (name : String) (argument : Marked) : Marked :=
  own ('\\' :: name.toList) ++ own ['{'] ++ argument ++ own ['}']

def Span.marked : Span → Marked
  | .plain t => given (escape t)
  | .code t => markedApply "texttt" (given (escape t))
  | .strong t => markedApply "textbf" (given (escape t))
  | .emphasis t => markedApply "emph" (given (escape t))

def markedInline (t : Text) : Marked := (spans t).flatMap Span.marked

def markedEnvironment (name : String) (body : Marked) : Marked :=
  own (apply "begin" name.toList) ++ own ['\n'] ++ body ++ own ['\n'] ++ own (apply "end" name.toList)

def markedItem (t : Text) : Marked := own "  \\item ".toList ++ markedInline t

def Piece.marked : Piece → Marked
  | .heading level title => markedApply (sectionCommand level) (markedInline title)
  | .paragraph lines => markedInline (Text.join [' '] lines)
  | .items xs => markedEnvironment "itemize" (List.intercalate (own ['\n']) (xs.map markedItem))
  | .listing lines => markedEnvironment "verbatim" (given (Text.join ['\n'] lines))

def markedProse (t : Text) : Marked :=
  List.intercalate (own ['\n', '\n']) ((pieces t).map Piece.marked)

@[simp] theorem erase_own (t : Text) : erase (own t) = t := by simp [erase, own, Function.comp_def]

@[simp] theorem erase_given (t : Text) : erase (given t) = t := by
  simp [erase, given, Function.comp_def]

@[simp] theorem erase_append (m m' : Marked) : erase (m ++ m') = erase m ++ erase m' := List.map_append

theorem erase_flatMap {α : Type} (f : α → Marked) (xs : List α) :
    erase (xs.flatMap f) = xs.flatMap fun x => erase (f x) := List.map_flatMap

theorem erase_intercalate (m : Marked) (ms : List Marked) :
    erase (List.intercalate m ms) = Text.join (erase m) (ms.map erase) := by
  induction ms with
  | nil => rfl
  | cons m' ms ih =>
    cases ms with
    | nil => simp [Text.join]
    | cons m'' ms =>
      rw [List.intercalate_cons_cons, erase_append, erase_append, ih]
      simp [Text.join, List.intercalate_cons_cons]

theorem erase_markedRow (cells : List Text) : erase (markedRow cells) = row cells := by
  rw [markedRow, erase_append, erase_intercalate, List.map_map, erase_own, erase_own, row]
  simp [Function.comp_def]

theorem erase_markedTable (headers : List Text) (rows : List (List Text)) :
    erase (markedTable headers rows) = table headers rows := by
  simp [markedTable, table, erase_markedRow, erase_flatMap]

theorem erase_markedApply (name : String) (m : Marked) :
    erase (markedApply name m) = apply name (erase m) := by
  simp [markedApply, apply]

theorem Span.erase_marked (s : Span) : erase s.marked = s.write := by
  cases s <;> simp [Span.marked, Span.write, erase_markedApply]

theorem erase_markedInline (t : Text) : erase (markedInline t) = inline t := by
  simp [markedInline, inline, erase_flatMap, Span.erase_marked]

theorem erase_markedEnvironment (name : String) (body : Marked) :
    erase (markedEnvironment name body) = environment name (erase body) := by
  simp [markedEnvironment, environment]

theorem Piece.erase_marked (p : Piece) : erase p.marked = p.write := by
  cases p with
  | heading level title => simp [Piece.marked, Piece.write, erase_markedApply, erase_markedInline]
  | paragraph lines => simp [Piece.marked, Piece.write, erase_markedInline]
  | items xs =>
    simp [Piece.marked, Piece.write, erase_markedEnvironment, erase_intercalate, markedItem,
      erase_markedInline, Function.comp_def]
  | listing lines => simp [Piece.marked, Piece.write, erase_markedEnvironment]

theorem erase_markedProse (t : Text) : erase (markedProse t) = prose t := by
  simp [markedProse, prose, erase_intercalate, Piece.erase_marked, Function.comp_def]

/-! ### Arguments taken from given texts -/

def isSkipped (c : Char) : Bool := c = ' ' || c = '\t' || c = '\n'

/-- The first character that is not skipped is one of `opens`. -/
def Begins (opens : List Char) (t : Text) : Prop := ∃ c ∈ opens, (t.dropWhile isSkipped).head? = some c

instance (opens : List Char) (t : Text) : Decidable (Begins opens t) := List.decidableBEx _ _

/-- The first character that is not skipped is one of `opens`, and comes from a given text. -/
def Offers (opens : List Char) (m : Marked) : Prop :=
  ∃ c ∈ opens, (m.dropWhile fun p => isSkipped p.1).head? = some (c, .given)

/-- The command stands at the front, and behind it a given text begins like an argument. -/
def Takes (name : Text) (opens : List Char) (m : Marked) : Prop :=
  ∃ rest, m = own name ++ rest ∧ Offers opens rest

/-- Somewhere the command takes a given text for its argument. -/
def TakesGiven (name : Text) (opens : List Char) (m : Marked) : Prop :=
  ∃ q, q <:+ m ∧ Takes name opens q

def rowEnd : Text := ['\\', '\\']

/-- Behind the end of a row a star or an argument in brackets may stand. -/
def rowOptions : List Char := ['[', '*']

def itemCommand : Text := ['\\', 'i', 't', 'e', 'm']

def itemOptions : List Char := ['[']

section

variable {opens : List Char} {name : Text} {m y : Marked}

theorem takes_nil : Takes [] opens m ↔ Offers opens m := by simp [Takes, own]

theorem takes_cons {c : Char} {p : Char × Origin} :
    Takes (c :: name) opens (p :: m) ↔ p = (c, .own) ∧ Takes name opens m := by
  simp [Takes, own, and_assoc]

theorem not_takesGiven_iff (hname : name ≠ []) :
    ¬ TakesGiven name opens m ↔ ClearOf (Takes name opens) m [] := by
  simp only [TakesGiven, ClearOf, List.append_nil, not_exists, not_and]
  constructor
  · intro h q hq _
    exact h q hq
  · intro h q hq htakes
    refine h q hq ?_ htakes
    rintro rfl
    obtain ⟨rest, heq, -⟩ := htakes
    have hnil : own name = [] := (List.append_eq_nil_iff.mp heq.symm).1
    exact hname (List.map_eq_nil_iff.mp hnil)

/-! ### Where no command stands -/

theorem given_append (t u : Text) : given (t ++ u) = given t ++ given u := List.map_append

theorem neverIn_given (c : Char) (t : Text) : NeverIn (Takes (c :: name) opens) (given t) := by
  intro y
  induction t with
  | nil => exact clearOf_nil y
  | cons d t ih =>
    refine clearOf_cons.mpr ⟨?_, ih⟩
    intro h
    cases (takes_cons.mp h).1

theorem neverIn_own_of_not_mem {c : Char} {t : Text} (h : c ∉ t) :
    NeverIn (Takes (c :: name) opens) (own t) := by
  intro y
  induction t with
  | nil => exact clearOf_nil y
  | cons d t ih =>
    obtain ⟨hd, ht⟩ := List.ne_and_not_mem_of_not_mem_cons h
    refine clearOf_cons.mpr ⟨?_, ih ht⟩
    intro htakes
    exact hd (Prod.mk.inj (takes_cons.mp htakes).1).1.symm

/-- The second character tells a command from the one looked for. -/
theorem neverIn_own_command {c d e : Char} {t : Text} (hd : d ≠ e) (h : c ∉ d :: t) :
    NeverIn (Takes (c :: e :: name) opens) (own (c :: d :: t)) := by
  intro y
  refine clearOf_cons.mpr ⟨?_, neverIn_own_of_not_mem h y⟩
  intro htakes
  have hsecond := (takes_cons.mp (takes_cons.mp htakes).2).1
  exact hd (Prod.mk.inj hsecond).1

/-! ### What begins like an argument -/

theorem not_begins_nil : ¬ Begins opens [] := by simp [Begins]

theorem begins_cons (c : Char) (t : Text) :
    Begins opens (c :: t) ↔ if isSkipped c then Begins opens t else c ∈ opens := by
  by_cases hc : isSkipped c = true
  · simp [Begins, hc]
  · simp [Begins, hc]

theorem offers_cons (p : Char × Origin) :
    Offers opens (p :: m) ↔
      if isSkipped p.1 then Offers opens m else p.1 ∈ opens ∧ p.2 = .given := by
  obtain ⟨c, o⟩ := p
  by_cases hc : isSkipped c = true
  · simp [Offers, hc]
  · simp only [Offers, List.dropWhile_cons, hc, Bool.false_eq_true, if_false, List.head?_cons,
      Option.some.injEq, Prod.mk.injEq]
    constructor
    · rintro ⟨d, hd, rfl, ho⟩
      exact ⟨hd, ho⟩
    · rintro ⟨hc, ho⟩
      exact ⟨c, hc, rfl, ho⟩

theorem offers_own_of_skipped {t : Text} (h : t.all isSkipped = true) :
    Offers opens (own t ++ m) ↔ Offers opens m := by
  induction t with
  | nil => rfl
  | cons c t ih =>
    obtain ⟨hc, ht⟩ : isSkipped c = true ∧ t.all isSkipped = true := by simpa using h
    have hcons : own (c :: t) ++ m = (c, .own) :: (own t ++ m) := rfl
    rw [hcons, offers_cons, if_pos hc, ih ht]

theorem not_offers_own {t : Text} (h : t.all isSkipped = false) : ¬ Offers opens (own t ++ m) := by
  induction t with
  | nil => cases h
  | cons c t ih =>
    have hcons : own (c :: t) ++ m = (c, .own) :: (own t ++ m) := rfl
    rw [hcons, offers_cons]
    by_cases hc : isSkipped c = true
    · rw [if_pos hc]
      exact ih (by simpa [hc] using h)
    · rw [if_neg hc]
      rintro ⟨-, ho⟩
      cases ho

/-- An escaped character begins an argument only as itself. -/
theorem offers_escapeChar (hopens : ∀ c ∈ opens, c ∉ special) (c : Char) :
    Offers opens (given (escapeChar c) ++ m) ↔ if isSkipped c then Offers opens m else c ∈ opens := by
  by_cases hc : c ∈ special
  · have hall : ∀ d ∈ special, isSkipped d = false ∧ (escapeChar d).head? = some '\\' := by decide
    obtain ⟨hskip, hback⟩ := hall c hc
    obtain ⟨w, hw⟩ : ∃ w, escapeChar c = '\\' :: w := List.head?_eq_some_iff.mp hback
    have hcons : given (escapeChar c) ++ m = ('\\', .given) :: (given w ++ m) := by
      rw [hw]
      rfl
    have hback : '\\' ∉ opens := fun h => hopens _ h (by decide)
    have hc : c ∉ opens := fun h => hopens c h hc
    rw [hcons, offers_cons, if_neg (by decide), if_neg (by simp [hskip])]
    simp [hback, hc]
  · rcases escapeChar_cases c with ⟨hsymbol, -⟩ | hnamed | ⟨-, h⟩
    · exact absurd (List.mem_append_left _ hsymbol) hc
    · exact absurd (List.mem_append_right _ (List.mem_map_of_mem hnamed)) hc
    · have hcons : given (escapeChar c) ++ m = (c, .given) :: m := by
        rw [h]
        rfl
      rw [hcons, offers_cons]
      simp

theorem offers_escape (hopens : ∀ c ∈ opens, c ∉ special) (hm : ¬ Offers opens m) (t : Text) :
    Offers opens (given (escape t) ++ m) ↔ Begins opens t := by
  induction t with
  | nil => exact iff_of_false hm not_begins_nil
  | cons c t ih =>
    rw [escape_cons, given_append, List.append_assoc, offers_escapeChar hopens, begins_cons, ih]

end

/-! ### Tables -/

theorem rowOptions_not_special : ∀ c ∈ rowOptions, c ∉ special := by decide

theorem clearOf_markedRow (cells : List Text) (y : Marked) :
    ClearOf (Takes rowEnd rowOptions) (markedRow cells) y ↔ ¬ Offers rowOptions y := by
  have hcells : NeverIn (Takes rowEnd rowOptions)
      (List.intercalate (own " & ".toList) (cells.map fun t => given (escape t))) := by
    refine NeverIn.intercalate (neverIn_own_of_not_mem (by decide)) fun m hm => ?_
    obtain ⟨t, -, rfl⟩ := List.mem_map.mp hm
    exact neverIn_given _ (escape t)
  have hend : ClearOf (Takes rowEnd rowOptions) (own " \\\\\n".toList) y ↔ ¬ Offers rowOptions y := by
    simp [own, clearOf_cons, clearOf_nil, rowEnd, takes_cons, takes_nil, offers_cons, isSkipped]
  rw [markedRow, clearOf_append, hend, and_iff_right (hcells _)]

theorem offers_markedRow (cells : List Text) (y : Marked) :
    Offers rowOptions (markedRow cells ++ y) ↔ Begins rowOptions (cells.headD []) := by
  have hend (m : Marked) : ¬ Offers rowOptions (own " \\\\\n".toList ++ m) := not_offers_own (by decide)
  have hamp (m : Marked) : ¬ Offers rowOptions (own " & ".toList ++ m) := not_offers_own (by decide)
  cases cells with
  | nil => exact iff_of_false (hend y) not_begins_nil
  | cons t ts =>
    cases ts with
    | nil =>
      rw [markedRow, List.map_singleton, List.intercalate_singleton, List.append_assoc]
      exact offers_escape rowOptions_not_special (hend y) t
    | cons t' ts =>
      rw [markedRow, List.map_cons, List.map_cons, List.intercalate_cons_cons, List.append_assoc,
        List.append_assoc, List.append_assoc]
      exact offers_escape rowOptions_not_special (hamp _) t

theorem clearOf_markedRows (rows : List (List Text)) {y : Marked} (hy : ¬ Offers rowOptions y) :
    ClearOf (Takes rowEnd rowOptions) (rows.flatMap markedRow) y ↔
      ∀ r ∈ rows.tail, ¬ Begins rowOptions (r.headD []) := by
  induction rows with
  | nil => simpa using clearOf_nil y
  | cons r rows ih =>
    rw [List.flatMap_cons, clearOf_append, clearOf_markedRow, ih, List.tail_cons]
    cases rows with
    | nil => simpa using hy
    | cons r' rows =>
      rw [List.flatMap_cons, List.append_assoc, offers_markedRow, List.tail_cons, List.forall_mem_cons]

/-- In a table, the first cell of any row but the first is taken for an argument if it begins like
one. -/
theorem takesGiven_markedTable (hs : List Text) (rs : List (List Text)) :
    TakesGiven rowEnd rowOptions (markedTable hs rs) ↔
      ∃ r ∈ rs.tail, Begins rowOptions (r.headD []) := by
  have hrule : NeverIn (Takes rowEnd rowOptions) (own rule) :=
    neverIn_own_command (by decide) (by decide)
  have hbegin : NeverIn (Takes rowEnd rowOptions) (own (apply "begin" "tabular".toList)) :=
    neverIn_own_command (by decide) (by decide)
  have hcolumns : NeverIn (Takes rowEnd rowOptions)
      (own ('{' :: List.replicate hs.length 'l' ++ ['}', '\n'])) :=
    neverIn_own_of_not_mem (by simp)
  have hend : NeverIn (Takes rowEnd rowOptions) (own (apply "end" "tabular".toList)) :=
    neverIn_own_command (by decide) (by decide)
  have hvisible {m : Marked} : ¬ Offers rowOptions (own rule ++ m) := not_offers_own (by decide)
  rw [← not_iff_not, not_takesGiven_iff (by decide)]
  simp only [markedTable, clearOf_append, List.append_assoc, hrule _, hbegin _, hcolumns _, hend _,
    clearOf_markedRow, clearOf_markedRows rs hvisible, hvisible]
  simp

/-! ### Prose -/

theorem neverIn_markedApply {name : String} {m : Marked} {d : Char} {ds : Text}
    (hname : name.toList = d :: ds) (hd : d ≠ 'i') (hback : '\\' ∉ name.toList)
    (h : NeverIn (Takes itemCommand itemOptions) m) :
    NeverIn (Takes itemCommand itemOptions) (markedApply name m) := by
  have hcommand : NeverIn (Takes itemCommand itemOptions) (own ('\\' :: name.toList)) := by
    rw [hname] at hback ⊢
    exact neverIn_own_command hd hback
  have hopen : NeverIn (Takes itemCommand itemOptions) (own ['{']) := neverIn_own_of_not_mem (by decide)
  have hclose : NeverIn (Takes itemCommand itemOptions) (own ['}']) := neverIn_own_of_not_mem (by decide)
  exact ((hcommand.append hopen).append h).append hclose

theorem neverIn_markedInline (t : Text) :
    NeverIn (Takes itemCommand itemOptions) (markedInline t) := by
  refine NeverIn.flatMap fun s _ => ?_
  have hgiven (t : Text) : NeverIn (Takes itemCommand itemOptions) (given (escape t)) :=
    neverIn_given _ (escape t)
  cases s with
  | plain t => exact hgiven t
  | code t => exact neverIn_markedApply rfl (by decide) (by decide) (hgiven t)
  | strong t => exact neverIn_markedApply rfl (by decide) (by decide) (hgiven t)
  | emphasis t => exact neverIn_markedApply rfl (by decide) (by decide) (hgiven t)

/-- What is marked in a line begins with a mark, and is written as a command. -/
theorem span?_cons {c : Char} {r rest : Text} {s : Span} (h : span? (c :: r) = some (s, rest)) :
    (c = '\x60' ∨ c = '*') ∧ ∃ name m, s.marked = markedApply name m := by
  unfold span? at h
  split at h
  · next heq =>
    cases heq
    obtain ⟨_, -, heq⟩ := Option.map_eq_some_iff.mp h
    cases heq
    exact ⟨.inl rfl, _, _, rfl⟩
  · next heq =>
    cases heq
    obtain ⟨_, -, heq⟩ := Option.map_eq_some_iff.mp h
    cases heq
    exact ⟨.inr rfl, _, _, rfl⟩
  · next heq =>
    cases heq
    obtain ⟨_, -, heq⟩ := Option.map_eq_some_iff.mp h
    cases heq
    exact ⟨.inr rfl, _, _, rfl⟩
  · cases h

theorem flatMap_addPlain (c : Char) (ss : List Span) :
    (addPlain c ss).flatMap Span.marked = given (escapeChar c) ++ ss.flatMap Span.marked := by
  cases ss with
  | nil => simp [addPlain, Span.marked, escape]
  | cons s ss =>
    cases s with
    | plain t => simp [addPlain, Span.marked, escape_cons, given_append]
    | _ => simp [addPlain, Span.marked, escape]

theorem spans_eq (t : Text) :
    spans t = match span? t, t with
      | some (s, rest), _ => s :: spans rest
      | none, [] => []
      | none, c :: r => addPlain c (spans r) := by
  rw [spans]
  split
  · next h => rw [h]
  · next h =>
    cases t with
    | nil => rfl
    | cons c r => simp only [h]

theorem markedInline_nil : markedInline [] = [] := by
  rw [markedInline, spans_eq]
  rfl

theorem markedInline_plain {c : Char} {r : Text} (h : span? (c :: r) = none) :
    markedInline (c :: r) = given (escapeChar c) ++ markedInline r := by
  rw [markedInline, spans_eq, h]
  exact flatMap_addPlain c (spans r)

theorem markedInline_span {t rest : Text} {s : Span} (h : span? t = some (s, rest)) :
    markedInline t = s.marked ++ markedInline rest := by
  rw [markedInline, spans_eq, h]
  exact List.flatMap_cons

theorem itemOptions_not_special : ∀ c ∈ itemOptions, c ∉ special := by decide

theorem offers_markedInline {y : Marked} (hy : ¬ Offers itemOptions y) (t : Text) :
    Offers itemOptions (markedInline t ++ y) ↔ Begins itemOptions t := by
  induction t with
  | nil =>
    rw [markedInline_nil]
    exact iff_of_false hy not_begins_nil
  | cons c r ih =>
    cases hspan : span? (c :: r) with
    | none =>
      rw [markedInline_plain hspan, List.append_assoc, offers_escapeChar itemOptions_not_special, ih,
        begins_cons]
    | some found =>
      obtain ⟨s, rest⟩ := found
      obtain ⟨hmark, name, m, hs⟩ := span?_cons hspan
      have hmarks : ∀ d ∈ ['\x60', '*'], isSkipped d = false ∧ d ∉ itemOptions := by decide
      obtain ⟨hskip, hopens⟩ := hmarks c (by simpa using hmark)
      have hbegins : ¬ Begins itemOptions (c :: r) := by
        rw [begins_cons, if_neg (by simp [hskip])]
        exact hopens
      refine iff_of_false ?_ hbegins
      rw [markedInline_span hspan, hs, markedApply]
      simp only [List.append_assoc]
      exact not_offers_own rfl

theorem clearOf_markedItem (t : Text) (y : Marked) :
    ClearOf (Takes itemCommand itemOptions) (markedItem t) y ↔
      ¬ Offers itemOptions (markedInline t ++ y) := by
  have hcommand (m : Marked) : ClearOf (Takes itemCommand itemOptions) (own "  \\item ".toList) m ↔
      ¬ Offers itemOptions m := by
    simp [own, clearOf_cons, clearOf_nil, itemCommand, takes_cons, takes_nil, offers_cons, isSkipped]
  rw [markedItem, clearOf_append, hcommand, and_iff_left (neverIn_markedInline t y)]

theorem Piece.neverIn_marked {p : Piece} (hp : ∀ xs, p ≠ .items xs) :
    NeverIn (Takes itemCommand itemOptions) p.marked := by
  cases p with
  | heading level title =>
    have htitle := neverIn_markedInline title
    rw [Piece.marked, sectionCommand]
    split
    · exact neverIn_markedApply rfl (by decide) (by decide) htitle
    split
    · exact neverIn_markedApply rfl (by decide) (by decide) htitle
    · exact neverIn_markedApply rfl (by decide) (by decide) htitle
  | paragraph lines => exact neverIn_markedInline _
  | items xs => exact absurd rfl (hp xs)
  | listing lines =>
    have hbegin : NeverIn (Takes itemCommand itemOptions) (own (apply "begin" "verbatim".toList)) :=
      neverIn_own_command (by decide) (by decide)
    have hend : NeverIn (Takes itemCommand itemOptions) (own (apply "end" "verbatim".toList)) :=
      neverIn_own_command (by decide) (by decide)
    have hnewline : NeverIn (Takes itemCommand itemOptions) (own ['\n']) :=
      neverIn_own_of_not_mem (by decide)
    exact (((hbegin.append hnewline).append (neverIn_given _ _)).append hnewline).append hend

theorem clearOf_markedItems (xs : List Text) (y : Marked) :
    ClearOf (Takes itemCommand itemOptions) (Piece.items xs).marked y ↔
      ∀ i ∈ xs, ¬ Begins itemOptions i := by
  have hbegin : NeverIn (Takes itemCommand itemOptions) (own (apply "begin" "itemize".toList)) :=
    neverIn_own_command (by decide) (by decide)
  have hend : NeverIn (Takes itemCommand itemOptions) (own (apply "end" "itemize".toList)) :=
    neverIn_own_command (by decide) (by decide)
  have hnewline : NeverIn (Takes itemCommand itemOptions) (own ['\n']) :=
    neverIn_own_of_not_mem (by decide)
  have hnext (t : Text) (m : Marked) : ¬ Offers itemOptions (own ['\n'] ++ (markedItem t ++ m)) := by
    rw [offers_own_of_skipped rfl, markedItem, List.append_assoc]
    exact not_offers_own rfl
  have hlast : ¬ Offers itemOptions (own ['\n'] ++ (own (apply "end" "itemize".toList) ++ y)) := by
    rw [offers_own_of_skipped rfl]
    exact not_offers_own rfl
  have hitems := clearOf_intercalate_map (R := fun m => ¬ Offers itemOptions m)
    (Q := fun t => ¬ Begins itemOptions t) hnewline hnext
    (fun t m hm => by rw [clearOf_markedItem, offers_markedInline hm]) xs hlast
  simp only [Piece.marked, markedEnvironment, clearOf_append, List.append_assoc, hbegin _, hnewline _,
    hend _, hitems]
  simp

theorem Piece.clearOf_marked (p : Piece) (y : Marked) :
    ClearOf (Takes itemCommand itemOptions) p.marked y ↔
      ∀ xs, p = .items xs → ∀ i ∈ xs, ¬ Begins itemOptions i := by
  by_cases hp : ∃ xs, p = .items xs
  · obtain ⟨xs, rfl⟩ := hp
    rw [clearOf_markedItems]
    constructor
    · rintro h _ heq
      cases heq
      exact h
    · intro h
      exact h xs rfl
  · have hp : ∀ xs, p ≠ .items xs := fun xs hxs => hp ⟨xs, hxs⟩
    exact iff_of_true (Piece.neverIn_marked hp y) fun xs hxs => absurd hxs (hp xs)

/-- In prose, the items that begin like an argument are taken for one. -/
theorem takesGiven_markedProse (t : Text) :
    TakesGiven itemCommand itemOptions (markedProse t) ↔
      ∃ xs, .items xs ∈ pieces t ∧ ∃ i ∈ xs, Begins itemOptions i := by
  have hseparator : NeverIn (Takes itemCommand itemOptions) (own ['\n', '\n']) :=
    neverIn_own_of_not_mem (by decide)
  have hpieces := clearOf_intercalate_map (R := fun _ => True) (y := []) hseparator
    (fun _ _ => trivial) (fun p y _ => p.clearOf_marked y) (pieces t) trivial
  rw [← not_iff_not, not_takesGiven_iff (by decide), markedProse, hpieces]
  simp only [not_exists, not_and]
  constructor
  · intro h xs hxs
    exact h _ hxs xs rfl
  · rintro h _ hp xs rfl
    exact h xs hp

/-- What is written for tables and prose is the marked text. The end of a row takes an argument from a
given text exactly if the first cell of a row behind the first one begins like an argument; the
command of an item does exactly if an item begins so. -/
theorem takesGiven_iff (hs : List Text) (rs : List (List Text)) (t : Text) :
    (block (.table hs rs) = .ok (erase (markedTable hs rs)) ∧
      (TakesGiven rowEnd rowOptions (markedTable hs rs) ↔
        ∃ r ∈ rs.tail, Begins rowOptions (r.headD []))) ∧
      block (.prose t) = .ok (erase (markedProse t)) ∧
        (TakesGiven itemCommand itemOptions (markedProse t) ↔
          ∃ xs, .items xs ∈ pieces t ∧ ∃ i ∈ xs, Begins itemOptions i) := by
  refine ⟨⟨?_, takesGiven_markedTable hs rs⟩, ?_, takesGiven_markedProse t⟩
  · rw [erase_markedTable, block]
  · rw [erase_markedProse, block]

/-- A list in the second row of a table and a box in front of an item are taken. -/
theorem takesGiven_listCell :
    TakesGiven rowEnd rowOptions (markedTable ["v".toList] [["1".toList], ["[1, 2]".toList]]) ∧
      TakesGiven itemCommand itemOptions (markedProse "- [x] done".toList) := by
  obtain ⟨⟨-, htable⟩, -, hprose⟩ :=
    takesGiven_iff ["v".toList] [["1".toList], ["[1, 2]".toList]] "- [x] done".toList
  refine ⟨htable.mpr (by decide), hprose.mpr ⟨["[x] done".toList], ?_, by decide⟩⟩
  decide +kernel

end Weave.Latex
