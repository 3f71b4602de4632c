import Mathlib.Data.List.TakeWhile
import Weave.Proofs.Latex.Options
import Weave.Proofs.Latex.Verbatim

/-!
# Marked lines

Inside a line of prose the marked spans are found from the left: the first place at which one begins,
then the first place behind its end, and so on. Each is written as a command around its text. Taking
these commands away and undoing the escapes gives the line back without the marks of its spans.
Whatever the line holds, the braces of what is written pair up, and the other characters with a
meaning of their own stand behind a backslash only.
-/

set_option autoImplicit false

namespace Weave.Latex

/-! ### Marked spans -/

/-- A marked span at the front of a text and what follows it. What stands between the marks is not empty
and lacks their character. -/
inductive SpanAt : Text → Span → Text → Prop
  | code {x r : Text} (hne : x ≠ []) (hx : '\x60' ∉ x) :
      SpanAt ('\x60' :: (x ++ '\x60' :: r)) (.code x) r
  | strong {x r : Text} (hne : x ≠ []) (hx : '*' ∉ x) :
      SpanAt ('*' :: '*' :: (x ++ '*' :: '*' :: r)) (.strong x) r
  | emphasis {x r : Text} (hne : x ≠ []) (hx : '*' ∉ x) :
      SpanAt ('*' :: (x ++ '*' :: r)) (.emphasis x) r

def StartsSpan (t : Text) : Prop := ∃ s r, SpanAt t s r

/-- The marked spans of a text, each with what stands between the one before and it, and what stands
behind the last one. -/
inductive Scanned : Text → List (Text × Span) → Text → Prop
  | done {t : Text} (h : ClearOf StartsSpan t []) : Scanned t [] t
  | found {x y r tail : Text} {s : Span} {ms : List (Text × Span)} (hx : ClearOf StartsSpan x y)
      (hy : SpanAt y s r) (h : Scanned r ms tail) : Scanned (x ++ y) ((x, s) :: ms) tail

def Span.content : Span → Text
  | .plain t | .code t | .strong t | .emphasis t => t

def Span.source : Span → Text
  | .plain t => t
  | .code t => '\x60' :: (t ++ ['\x60'])
  | .strong t => '*' :: '*' :: (t ++ ['*', '*'])
  | .emphasis t => '*' :: (t ++ ['*'])

def withMarks (ms : List (Text × Span)) (tail : Text) : Text :=
  ms.flatMap (fun m => m.1 ++ m.2.source) ++ tail

def withoutMarks (ms : List (Text × Span)) (tail : Text) : Text :=
  ms.flatMap (fun m => m.1 ++ m.2.content) ++ tail

theorem enclosed?_eq_some_iff {mark : Char} {closing t x r : Text} :
    enclosed? mark (mark :: closing) t = some (x, r) ↔
      x ≠ [] ∧ mark ∉ x ∧ t = x ++ (mark :: closing ++ r) := by
  simp only [enclosed?]
  constructor
  · intro h
    split at h
    · cases h
    next hne =>
      simp only [Option.map_eq_some_iff, Prod.mk.injEq] at h
      obtain ⟨rest, hrest, rfl, rfl⟩ := h
      refine ⟨by simpa using hne, ?_, ?_⟩
      · intro hmem
        have hmark := List.mem_takeWhile_imp hmem
        simp at hmark
      · rw [← Text.eq_append_of_after? hrest, List.takeWhile_append_dropWhile]
  · rintro ⟨hne, hx, rfl⟩
    rw [List.cons_append, Text.takeWhile_ne_append hx, Text.dropWhile_ne_append hx, ← List.cons_append,
      Text.after?_append]
    simp [hne]

theorem span?_eq_some_iff {t r : Text} {s : Span} : span? t = some (s, r) ↔ SpanAt t s r := by
  constructor
  · intro h
    unfold span? at h
    split at h
    · obtain ⟨⟨x, rest⟩, henclosed, heq⟩ := Option.map_eq_some_iff.mp h
      cases heq
      obtain ⟨hne, hx, rfl⟩ := enclosed?_eq_some_iff.mp henclosed
      exact .code hne hx
    · obtain ⟨⟨x, rest⟩, henclosed, heq⟩ := Option.map_eq_some_iff.mp h
      cases heq
      obtain ⟨hne, hx, rfl⟩ := enclosed?_eq_some_iff.mp henclosed
      exact .strong hne hx
    · obtain ⟨⟨x, rest⟩, henclosed, heq⟩ := Option.map_eq_some_iff.mp h
      cases heq
      obtain ⟨hne, hx, rfl⟩ := enclosed?_eq_some_iff.mp henclosed
      exact .emphasis hne hx
    · cases h
  · intro h
    cases h with
    | @code x _ hne hx =>
      have henclosed : enclosed? '\x60' ['\x60'] (x ++ '\x60' :: r) = some (x, r) :=
        enclosed?_eq_some_iff.mpr ⟨hne, hx, rfl⟩
      simp [span?, henclosed]
    | @strong x _ hne hx =>
      have henclosed : enclosed? '*' ['*', '*'] (x ++ '*' :: '*' :: r) = some (x, r) :=
        enclosed?_eq_some_iff.mpr ⟨hne, hx, rfl⟩
      simp [span?, henclosed]
    | @emphasis x _ hne hx =>
      have henclosed : enclosed? '*' ['*'] (x ++ '*' :: r) = some (x, r) :=
        enclosed?_eq_some_iff.mpr ⟨hne, hx, rfl⟩
      -- what stands between the marks does not begin with one, so this is not the form with two
      obtain ⟨c, x, rfl⟩ := List.exists_cons_of_ne_nil hne
      have hc : c ≠ '*' := fun h => hx (h ▸ List.mem_cons_self)
      rw [List.cons_append] at henclosed ⊢
      simp [span?, hc, henclosed]

theorem SpanAt.eq_append {t r : Text} {s : Span} (h : SpanAt t s r) : t = s.source ++ r := by
  cases h <;> simp [Span.source]

theorem SpanAt.ne_nil {t r : Text} {s : Span} (h : SpanAt t s r) : t ≠ [] := by
  cases h <;> simp

theorem span?_eq_none_iff {t : Text} : span? t = none ↔ ¬ StartsSpan t := by
  rw [Option.eq_none_iff_forall_ne_some]
  constructor
  · rintro hnone ⟨s, r, h⟩
    exact hnone (s, r) (span?_eq_some_iff.mpr h)
  · rintro hnone ⟨s, r⟩ h
    exact hnone ⟨s, r, span?_eq_some_iff.mp h⟩

theorem Scanned.exists (t : Text) : ∃ ms tail, Scanned t ms tail := by
  induction hn : t.length using Nat.strongRecOn generalizing t with
  | ind n ih =>
    subst hn
    obtain ⟨x, y, rfl, hx, hy⟩ := exists_first StartsSpan t
    rcases hy with rfl | ⟨s, r, hy⟩
    · rw [List.append_nil]
      exact ⟨[], x, .done hx⟩
    · have hlen : r.length < (x ++ y).length := by
        have hspan := span?_length_lt (span?_eq_some_iff.mpr hy)
        rw [List.length_append]
        omega
      obtain ⟨ms, tail, h⟩ := ih r.length hlen r rfl
      exact ⟨(x, s) :: ms, tail, .found hx hy h⟩

/-- Of two cuts at a first place neither is behind the other. -/
theorem append_inj_of_clear {p : Text → Prop} {x y x' y' : Text} (hx : ClearOf p x y) (hy : p y)
    (hx' : ClearOf p x' y') (hy' : p y') (h : x ++ y = x' ++ y') : x = x' ∧ y = y' := by
  have hsame : ∀ {x y x' y' z : Text}, ClearOf p x' y' → p y → x' = x ++ z → y = z ++ y' →
      z = [] := by
    intro x y x' y' z hclear hp hxz hyz
    cases z with
    | nil => rfl
    | cons c z =>
      refine absurd hp ?_
      rw [hyz]
      exact hclear (c :: z) ⟨x, hxz.symm⟩ (List.cons_ne_nil c z)
  rcases List.append_eq_append_iff.mp h with ⟨z, hxz, hyz⟩ | ⟨z, hxz, hyz⟩
  · obtain rfl := hsame hx' hy hxz hyz
    simp_all
  · obtain rfl := hsame hx hy' hxz hyz
    simp_all

theorem Scanned.unique {t tail tail' : Text} {ms ms' : List (Text × Span)} (h : Scanned t ms tail)
    (h' : Scanned t ms' tail') : ms' = ms ∧ tail' = tail := by
  have hnone : ∀ {x y : Text}, ClearOf StartsSpan (x ++ y) [] → ¬ StartsSpan y := by
    rintro x y hclear ⟨s, r, hy⟩
    refine hclear y (List.suffix_append x y) hy.ne_nil ?_
    rw [List.append_nil]
    exact ⟨s, r, hy⟩
  induction h generalizing ms' with
  | @done t hclear =>
    generalize ht : t = u at h'
    cases h' with
    | done =>
      subst ht
      exact ⟨rfl, rfl⟩
    | found _ hy _ =>
      subst ht
      exact absurd ⟨_, _, hy⟩ (hnone hclear)
  | @found x y r tail s ms hx hy _ ih =>
    generalize ht : x ++ y = u at h'
    cases h' with
    | done hclear =>
      subst ht
      exact absurd ⟨_, _, hy⟩ (hnone hclear)
    | @found x' y' r' _ s' ms' hx' hy' h' =>
      obtain ⟨rfl, rfl⟩ := append_inj_of_clear hx ⟨s, r, hy⟩ hx' ⟨s', r', hy'⟩ ht
      have hspan := (span?_eq_some_iff.mpr hy).symm.trans (span?_eq_some_iff.mpr hy')
      simp only [Option.some.injEq, Prod.mk.injEq] at hspan
      obtain ⟨rfl, rfl⟩ := hspan
      obtain ⟨rfl, rfl⟩ := ih h'
      exact ⟨rfl, rfl⟩

theorem Scanned.withMarks_eq {t tail : Text} {ms : List (Text × Span)} (h : Scanned t ms tail) :
    withMarks ms tail = t := by
  induction h with
  | done => rfl
  | found _ hy _ ih =>
    rw [withMarks] at ih ⊢
    rw [List.flatMap_cons, List.append_assoc, ih, List.append_assoc, ← hy.eq_append]

/-! ### What is written for a line -/

theorem inline_nil : inline [] = [] := by
  rw [← erase_markedInline, markedInline_nil]
  rfl

theorem inline_plain {c : Char} {r : Text} (h : span? (c :: r) = none) :
    inline (c :: r) = escapeChar c ++ inline r := by
  rw [← erase_markedInline, markedInline_plain h, erase_append, erase_given, erase_markedInline]

theorem inline_span {t r : Text} {s : Span} (h : span? t = some (s, r)) :
    inline t = s.write ++ inline r := by
  rw [← erase_markedInline, markedInline_span h, erase_append, Span.erase_marked, erase_markedInline]

theorem inline_append_of_clear {x y : Text} (h : ClearOf StartsSpan x y) :
    inline (x ++ y) = escape x ++ inline y := by
  induction x with
  | nil => rfl
  | cons c x ih =>
    obtain ⟨hc, hx⟩ := clearOf_cons.mp h
    rw [List.cons_append, inline_plain (span?_eq_none_iff.mpr hc), ih hx, escape_cons, List.append_assoc]

theorem Scanned.inline_eq {t tail : Text} {ms : List (Text × Span)} (h : Scanned t ms tail) :
    inline t = ms.flatMap (fun m => escape m.1 ++ m.2.write) ++ escape tail := by
  induction h with
  | @done t h =>
    have hinline := inline_append_of_clear h
    rw [List.append_nil, inline_nil, List.append_nil] at hinline
    exact hinline
  | found hx hy _ ih =>
    rw [inline_append_of_clear hx, inline_span (span?_eq_some_iff.mpr hy), ih, List.flatMap_cons]
    simp only [List.append_assoc]

/-! ### Reading it back -/

def openings : List Text := ["\\texttt\x7b".toList, "\\textbf\x7b".toList, "\\emph\x7b".toList]

def opening? (t : Text) : Option Text := openings.findSome? (Text.after? · t)

/-- What follows the next end of a command: its beginning outside of one, and the closing brace
inside. -/
def edge? (isInside : Bool) (t : Text) : Option Text :=
  if isInside then Text.after? ['}'] t else opening? t

theorem length_lt_of_edge? {isInside : Bool} {t r : Text} (h : edge? isInside t = some r) :
    r.length < t.length := by
  have hlt : ∀ {start : Text}, start ≠ [] → Text.after? start t = some r → r.length < t.length := by
    intro start hne hafter
    have hpos := List.length_pos_iff.mpr hne
    rw [Text.eq_append_of_after? hafter, List.length_append]
    omega
  cases isInside with
  | true => exact hlt (by decide) h
  | false =>
    obtain ⟨start, hmem, hafter⟩ := List.exists_of_findSome?_eq_some h
    have hall : ∀ start ∈ openings, start ≠ [] := by decide
    exact hlt (hall start hmem) hafter

/-- The text of a written line: the commands of spans are taken away, not one within another, and the
escapes are undone. -/
def unmark? (isInside : Bool) (t : Text) : Option Text :=
  if t = [] then if isInside then none else some []
  else match _he : edge? isInside t with
    | some r => unmark? (!isInside) r
    | none =>
      match _hc : unescapeChar? t with
      | some (c, r) => (unmark? isInside r).map (c :: ·)
      | none => none
termination_by t.length
decreasing_by
  · exact length_lt_of_edge? _he
  · exact length_lt_of_unescapeChar? _hc

theorem unmark?_edge {isInside : Bool} {t r : Text} (h : edge? isInside t = some r) :
    unmark? isInside t = unmark? (!isInside) r := by
  have hne : t ≠ [] := by
    rintro rfl
    exact absurd (length_lt_of_edge? h) (Nat.not_lt_zero _)
  rw [unmark?, if_neg hne]
  split
  · next he =>
    cases h.symm.trans he
    rfl
  · next he => cases h.symm.trans he

theorem unmark?_char {isInside : Bool} {t r : Text} {c : Char} (he : edge? isInside t = none)
    (hc : unescapeChar? t = some (c, r)) : unmark? isInside t = (unmark? isInside r).map (c :: ·) := by
  have hne : t ≠ [] := by
    rintro rfl
    cases hc
  rw [unmark?, if_neg hne]
  split
  · next h => cases he.symm.trans h
  · split
    · next h =>
      cases hc.symm.trans h
      rfl
    · next h => cases hc.symm.trans h

theorem edge?_escapeChar (isInside : Bool) (c : Char) (y : Text) :
    edge? isInside (escapeChar c ++ y) = none := by
  rcases escapeChar_cases c with ⟨hc, h⟩ | h | ⟨hc, h⟩
  · rw [h]
    have hall : ∀ d ∈ symbols, d ≠ 't' ∧ d ≠ 'e' := by decide
    obtain ⟨ht, he⟩ := hall c hc
    cases isInside with
    | true => rfl
    | false => simp [edge?, opening?, openings, Text.after?, ht.symm, he.symm]
  · simp only [named, List.mem_cons, Prod.mk.injEq, List.not_mem_nil, or_false] at h
    rcases h with ⟨h, -⟩ | ⟨h, -⟩ | ⟨h, -⟩ <;>
    · rw [h]
      cases isInside <;> rfl
  · rw [h, List.singleton_append]
    have hback : '\\' ≠ c := fun h => hc (h ▸ by decide)
    have hbrace : '}' ≠ c := fun h => hc (h ▸ by decide)
    cases isInside with
    | true => simp [edge?, Text.after?, hbrace]
    | false => simp [edge?, opening?, openings, Text.after?, hback]

theorem unmark?_escape (isInside : Bool) (t y : Text) :
    unmark? isInside (escape t ++ y) = (unmark? isInside y).map (t ++ ·) := by
  induction t with
  | nil =>
    rw [escape, List.flatMap_nil, List.nil_append]
    cases unmark? isInside y <;> rfl
  | cons c t ih =>
    rw [escape_cons, List.append_assoc,
      unmark?_char (edge?_escapeChar isInside c _) (unescapeChar?_escapeChar c _), ih, Option.map_map]
    rfl

theorem unmark?_apply {name : String}
    (hname : ∀ y, edge? false ('\\' :: (name.toList ++ '{' :: y)) = some y) (t y : Text) :
    unmark? false (apply name (escape t) ++ y) = (unmark? false y).map (t ++ ·) := by
  have hclose : edge? true ('}' :: y) = some y := rfl
  have happly : apply name (escape t) ++ y = '\\' :: (name.toList ++ '{' :: (escape t ++ '}' :: y)) := by
    simp [Latex.apply]
  rw [happly, unmark?_edge (hname _), Bool.not_false, unmark?_escape, unmark?_edge hclose]
  rfl

theorem unmark?_write (s : Span) (y : Text) :
    unmark? false (s.write ++ y) = (unmark? false y).map (s.content ++ ·) := by
  cases s with
  | plain t => exact unmark?_escape false t y
  | code t => exact unmark?_apply (fun _ => rfl) t y
  | strong t => exact unmark?_apply (fun _ => rfl) t y
  | emphasis t => exact unmark?_apply (fun _ => rfl) t y

theorem unmark?_spans (ms : List (Text × Span)) (tail : Text) :
    unmark? false (ms.flatMap (fun m => escape m.1 ++ m.2.write) ++ escape tail) =
      some (withoutMarks ms tail) := by
  induction ms with
  | nil =>
    have hread := unmark?_escape false tail []
    rw [List.append_nil] at hread
    rw [List.flatMap_nil, List.nil_append, hread]
    simp [unmark?, withoutMarks]
  | cons m ms ih =>
    rw [List.flatMap_cons, List.append_assoc, List.append_assoc, unmark?_escape, unmark?_write, ih]
    simp [withoutMarks]

/-! ### Braces and other characters with a meaning -/

/-- The braces pair up, and every character with a meaning of its own stands behind a backslash. -/
inductive Sound : Text → Prop
  | nil : Sound []
  | plain {c : Char} {t : Text} (hc : c ∉ special) (h : Sound t) : Sound (c :: t)
  | symbol {c : Char} {t : Text} (hc : c ∈ symbols) (h : Sound t) : Sound ('\\' :: c :: t)
  | command {c : Char} {t : Text} (hc : c.isAlpha) (h : Sound t) : Sound ('\\' :: c :: t)
  | group {u t : Text} (hu : Sound u) (h : Sound t) : Sound ('{' :: (u ++ '}' :: t))

namespace Sound

variable {t u : Text}

theorem append (ht : Sound t) (hu : Sound u) : Sound (t ++ u) := by
  induction ht with
  | nil => exact hu
  | plain hc _ ih => exact .plain hc ih
  | symbol hc _ ih => exact .symbol hc ih
  | command hc _ ih => exact .command hc ih
  | group hv _ _ ih =>
    rw [List.cons_append, List.append_assoc, List.cons_append]
    exact .group hv ih

theorem ofPlain (h : ∀ c ∈ t, c ∉ special) (hu : Sound u) : Sound (t ++ u) := by
  induction t with
  | nil => exact hu
  | cons c t ih =>
    obtain ⟨hc, ht⟩ := List.forall_mem_cons.mp h
    exact .plain hc (ih ht)

theorem flatMap {α : Type} {f : α → Text} {xs : List α} (h : ∀ a ∈ xs, Sound (f a)) :
    Sound (xs.flatMap f) := by
  induction xs with
  | nil => exact .nil
  | cons a xs ih =>
    obtain ⟨ha, hxs⟩ := List.forall_mem_cons.mp h
    rw [List.flatMap_cons]
    exact ha.append (ih hxs)

theorem join {sep : Text} {ts : List Text} (hsep : Sound sep) (h : ∀ t ∈ ts, Sound t) :
    Sound (Text.join sep ts) := by
  induction ts with
  | nil => exact .nil
  | cons t ts ih =>
    obtain ⟨ht, hts⟩ := List.forall_mem_cons.mp h
    cases ts with
    | nil => simpa [Text.join] using ht
    | cons u us =>
      rw [Text.join_cons_cons]
      exact ht.append (hsep.append (ih hts))

theorem apply {name : String} {c : Char} {cs : Text} (hname : name.toList = c :: cs) (hc : c.isAlpha)
    (hcs : ∀ d ∈ cs, d ∉ special) (h : Sound t) : Sound (apply name t) := by
  have hgroup : Sound ('{' :: (t ++ '}' :: [])) := .group h .nil
  rw [Latex.apply, hname, List.append_assoc]
  exact .command hc (ofPlain hcs hgroup)

theorem environment {name : String} (hname : ∀ d ∈ name.toList, d ∉ special) (h : Sound t) :
    Sound (environment name t) := by
  have hplain : Sound name.toList := by simpa using ofPlain hname .nil
  have hbegin : Sound (Latex.apply "begin" name.toList) := apply rfl (by decide) (by decide) hplain
  have hend : Sound (Latex.apply "end" name.toList) := apply rfl (by decide) (by decide) hplain
  have hbody : Sound ('\n' :: (t ++ '\n' :: Latex.apply "end" name.toList)) :=
    .plain (by decide) (h.append (.plain (by decide) hend))
  rw [Latex.environment, List.append_assoc]
  exact hbegin.append hbody

end Sound

theorem sound_escape (t : Text) : Sound (escape t) := by
  apply Sound.flatMap
  intro c _
  rcases escapeChar_cases c with ⟨hc, h⟩ | h | ⟨hc, h⟩
  · rw [h]
    exact .symbol hc .nil
  · have hnamed : ∀ p ∈ named, ∃ c cs, p.1 = '\\' :: c :: (cs ++ ['{', '}']) ∧ c.isAlpha ∧
        ∀ d ∈ cs, d ∉ special := by
      simp only [named, List.forall_mem_cons, List.not_mem_nil, false_implies, implies_true, and_true]
      refine ⟨⟨'t', "extbackslash".toList, rfl, by decide, by decide⟩,
        ⟨'t', "extasciitilde".toList, rfl, by decide, by decide⟩,
        ⟨'t', "extasciicircum".toList, rfl, by decide, by decide⟩⟩
    obtain ⟨d, ds, hd, halpha, hds⟩ := hnamed _ h
    have hgroup : Sound ['{', '}'] := .group .nil .nil
    dsimp only at hd
    rw [hd]
    exact .command halpha (.ofPlain hds hgroup)
  · rw [h]
    exact .plain hc .nil

theorem sound_inline (t : Text) : Sound (inline t) := by
  apply Sound.flatMap
  intro s _
  cases s with
  | plain t => exact sound_escape t
  | code t => exact .apply rfl (by decide) (by decide) (sound_escape t)
  | strong t => exact .apply rfl (by decide) (by decide) (sound_escape t)
  | emphasis t => exact .apply rfl (by decide) (by decide) (sound_escape t)

theorem Piece.sound_write {p : Piece} (hp : p.listing? = none) : Sound p.write := by
  cases p with
  | listing ls => cases hp
  | paragraph ls => exact sound_inline _
  | heading level title =>
    rw [Piece.write, sectionCommand]
    split
    · exact .apply rfl (by decide) (by decide) (sound_inline title)
    split
    · exact .apply rfl (by decide) (by decide) (sound_inline title)
    · exact .apply rfl (by decide) (by decide) (sound_inline title)
  | items xs =>
    apply Sound.environment (by decide)
    apply Sound.join (.plain (by decide) .nil)
    intro t ht
    obtain ⟨i, -, rfl⟩ := List.mem_map.mp ht
    have hitem : Sound (['t', 'e', 'm', ' '] ++ inline i) := .ofPlain (by decide) (sound_inline i)
    have hcommand : Sound ('\\' :: 'i' :: (['t', 'e', 'm', ' '] ++ inline i)) := .command (by decide) hitem
    exact .plain (by decide) (.plain (by decide) hcommand)

/-- A written line without the commands of its spans and without the escapes is the line without the
marks of its spans. The line and every piece of prose but the listings are written soundly. -/
theorem inline_unmarked_and_sound (t : Text) :
    (∃ ms tail, (∀ ns u, Scanned t ns u ↔ ns = ms ∧ u = tail) ∧ withMarks ms tail = t ∧
      unmark? false (inline t) = some (withoutMarks ms tail)) ∧
    Sound (inline t) ∧ ∀ p ∈ pieces t, p.listing? = none → Sound p.write := by
  obtain ⟨ms, tail, h⟩ := Scanned.exists t
  refine ⟨⟨ms, tail, ?_, h.withMarks_eq, ?_⟩, sound_inline t, fun p _ hp => p.sound_write hp⟩
  · intro ns u
    constructor
    · exact h.unique
    · rintro ⟨rfl, rfl⟩
      exact h
  · rw [h.inline_eq, unmark?_spans]

/-- The star in the code begins no span, and the brace in the emphasis needs no other. -/
theorem inline_unmarked_and_sound_star :
    Scanned ['\x60', '*', '\x60', ' ', '*', '\x7b', '*', 'c']
        [([], .code ['*']), ([' '], .emphasis ['\x7b'])] ['c'] ∧
      unmark? false (inline ['\x60', '*', '\x60', ' ', '*', '\x7b', '*', 'c']) =
        some ['*', ' ', '\x7b', 'c'] ∧
      ∃ p ∈ pieces ['\x60', '*', '\x60', ' ', '*', '\x7b', '*', 'c'],
        p.listing? = none ∧ Sound p.write := by
  obtain ⟨⟨ms, tail, hall, -, hread⟩, -, hsound⟩ :=
    inline_unmarked_and_sound ['\x60', '*', '\x60', ' ', '*', '\x7b', '*', 'c']
  have hclear {c : Char} {y : Text} (h : span? (c :: y) = none) : ClearOf StartsSpan [c] y :=
    clearOf_cons.mpr ⟨span?_eq_none_iff.mp h, clearOf_nil y⟩
  have hcode : SpanAt ['\x60', '*', '\x60', ' ', '*', '\x7b', '*', 'c'] (.code ['*'])
      [' ', '*', '\x7b', '*', 'c'] := span?_eq_some_iff.mp rfl
  have hemphasis : SpanAt ['*', '\x7b', '*', 'c'] (.emphasis ['\x7b']) ['c'] :=
    span?_eq_some_iff.mp rfl
  have hscanned := Scanned.found (clearOf_nil _) hcode
    (.found (hclear rfl) hemphasis (.done (hclear rfl)))
  obtain ⟨rfl, rfl⟩ := (hall _ _).mp hscanned
  have hpiece : Piece.paragraph [['\x60', '*', '\x60', ' ', '*', '\x7b', '*', 'c']] ∈
      pieces ['\x60', '*', '\x60', ' ', '*', '\x7b', '*', 'c'] := by decide +kernel
  exact ⟨hscanned, hread, _, hpiece, rfl, hsound _ hpiece rfl⟩

end Weave.Latex
