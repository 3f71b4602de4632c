import Weave.Proofs.Latex.Escaping

/-!
# Lexemes of escaped texts

LaTeX reads a backslash and the letters behind it, as far as they go, as a command, a backslash and
any other character as a control symbol, and every other character by itself. In an escaped text read
like this braces stand by themselves only as the empty group behind a command that stands for a
character. No two texts are escaped alike: the escape of one character is never the beginning of that
of another.
-/

set_option autoImplicit false

namespace Weave.Latex

/-! ### Lexemes -/

inductive Lexeme where
  /-- The letters behind a backslash. -/
  | command (name : Text)
  | symbol (c : Char)
  | char (c : Char)
  /-- A backslash at the end of a text. -/
  | backslash
deriving DecidableEq, Repr

def Lexeme.source : Lexeme → Text
  | .command name => '\\' :: name
  | .symbol c => ['\\', c]
  | .char c => [c]
  | .backslash => ['\\']

/-- How a text is read. A command takes all the letters there are. -/
def lexemes : Text → List Lexeme
  | [] => []
  | ['\\'] => [.backslash]
  | '\\' :: c :: r =>
    if c.isAlpha then
      .command (c :: r.takeWhile Char.isAlpha) :: lexemes (r.dropWhile Char.isAlpha)
    else .symbol c :: lexemes r
  | c :: r => .char c :: lexemes r
termination_by t => t.length
decreasing_by
  · have hle := (List.dropWhile_sublist (l := r) Char.isAlpha).length_le
    simp only [List.length_cons]
    omega
  · simp only [List.length_cons]
    omega
  · simp

theorem source_lexemes (t : Text) : (lexemes t).flatMap Lexeme.source = t := by
  induction t using lexemes.induct with
  | case1 => simp [lexemes]
  | case2 => simp [lexemes, Lexeme.source]
  | case3 c r hc ih =>
    rw [lexemes, if_pos hc, List.flatMap_cons, ih]
    simp [Lexeme.source]
  | case4 c r hc ih =>
    rw [lexemes, if_neg hc, List.flatMap_cons, ih]
    simp [Lexeme.source]
  | case5 c r hend hback ih =>
    rw [lexemes, List.flatMap_cons, ih]
    · rfl
    · exact hend
    · exact hback

theorem lexemes_command {c : Char} {cs y : Text} (hc : c.isAlpha) (hcs : ∀ d ∈ cs, d.isAlpha)
    (hy : ∀ d ∈ y.head?, ¬ d.isAlpha) :
    lexemes ('\\' :: c :: (cs ++ y)) = .command (c :: cs) :: lexemes y := by
  have hbehind : y.takeWhile Char.isAlpha = [] ∧ y.dropWhile Char.isAlpha = y := by
    cases y with
    | nil => exact ⟨rfl, rfl⟩
    | cons d y =>
      have hd : ¬ d.isAlpha := hy d rfl
      simp [hd]
  rw [lexemes, if_pos hc, List.takeWhile_append_of_pos hcs, List.dropWhile_append_of_pos hcs, hbehind.1,
    hbehind.2, List.append_nil]

theorem lexemes_symbol {c : Char} (hc : ¬ c.isAlpha) (r : Text) :
    lexemes ('\\' :: c :: r) = .symbol c :: lexemes r := by
  rw [lexemes, if_neg hc]

theorem lexemes_char {c : Char} (hc : c ≠ '\\') (r : Text) :
    lexemes (c :: r) = .char c :: lexemes r := by
  rw [lexemes]
  · intro h
    exact absurd h hc
  · intro d r' h
    exact absurd h hc

/-! ### Escaped texts -/

def names : List Text :=
  ["textbackslash".toList, "textasciitilde".toList, "textasciicircum".toList]

/-- Characters without a meaning of their own, control symbols for those that have one, and commands,
each with an empty group. -/
inductive Escaped : List Lexeme → Prop
  | nil : Escaped []
  | char {c : Char} {ls : List Lexeme} (hc : c ∉ special) (h : Escaped ls) : Escaped (.char c :: ls)
  | symbol {c : Char} {ls : List Lexeme} (hc : c ∈ symbols) (h : Escaped ls) :
      Escaped (.symbol c :: ls)
  | command {name : Text} {ls : List Lexeme} (hname : name ∈ names) (h : Escaped ls) :
      Escaped (.command name :: .char '{' :: .char '}' :: ls)

theorem exists_name {c : Char} {name : Text} (h : (name, c) ∈ named) :
    ∃ d ds, d :: ds ∈ names ∧ name = '\\' :: d :: (ds ++ ['{', '}']) ∧ d.isAlpha ∧
      ∀ e ∈ ds, e.isAlpha := by
  simp only [named, List.mem_cons, Prod.mk.injEq, List.not_mem_nil, or_false] at h
  rcases h with ⟨rfl, -⟩ | ⟨rfl, -⟩ | ⟨rfl, -⟩
  · exact ⟨'t', "extbackslash".toList, by decide, rfl, by decide, by decide⟩
  · exact ⟨'t', "extasciitilde".toList, by decide, rfl, by decide, by decide⟩
  · exact ⟨'t', "extasciicircum".toList, by decide, rfl, by decide, by decide⟩

theorem escaped_escapeChar (c : Char) {u : Text} (hu : Escaped (lexemes u)) :
    Escaped (lexemes (escapeChar c ++ u)) := by
  rcases escapeChar_cases c with ⟨hc, h⟩ | h | ⟨hc, h⟩
  · have halpha : ∀ d ∈ symbols, ¬ d.isAlpha := by decide
    rw [h, List.cons_append, List.singleton_append, lexemes_symbol (halpha c hc)]
    exact .symbol hc hu
  · obtain ⟨d, ds, hname, hd, halpha, hds⟩ := exists_name h
    have hbrace : ∀ e ∈ ('{' :: '}' :: u).head?, ¬ e.isAlpha := by
      rintro e ⟨⟩
      decide
    have hsplit : escapeChar c ++ u = '\\' :: d :: (ds ++ '{' :: '}' :: u) := by
      rw [hd]
      simp
    rw [hsplit, lexemes_command halpha hds hbrace, lexemes_char (by decide), lexemes_char (by decide)]
    exact .command hname hu
  · have hback : c ≠ '\\' := by
      rintro rfl
      exact hc (by decide)
    rw [h, List.singleton_append, lexemes_char hback]
    exact .char hc hu

theorem escaped_escape (t : Text) : Escaped (lexemes (escape t)) := by
  induction t with
  | nil =>
    rw [escape, List.flatMap_nil, lexemes]
    exact .nil
  | cons c t ih =>
    rw [escape_cons]
    exact escaped_escapeChar c ih

/-- Between the two parts lies the beginning of a group or its inside. -/
inductive CutsGroup (xs ys : List Lexeme) : Prop
  | opening {name : Text} (hname : name ∈ names) (hxs : [.command name] <:+ xs)
      (hys : [.char '{', .char '}'] <+: ys) : CutsGroup xs ys
  | closing {name : Text} (hname : name ∈ names) (hxs : [.command name, .char '{'] <:+ xs)
      (hys : [.char '}'] <+: ys) : CutsGroup xs ys

theorem CutsGroup.append_left {xs ys : List Lexeme} (h : CutsGroup xs ys) (us : List Lexeme) :
    CutsGroup (us ++ xs) ys := by
  cases h with
  | opening hname hxs hys => exact .opening hname (hxs.trans (List.suffix_append us xs)) hys
  | closing hname hxs hys => exact .closing hname (hxs.trans (List.suffix_append us xs)) hys

/-- The second part of an escaped text is escaped, too, unless the cut goes through a group. -/
theorem Escaped.cut {xs ys : List Lexeme} (h : Escaped (xs ++ ys)) : Escaped ys ∨ CutsGroup xs ys := by
  generalize hls : xs ++ ys = ls at h
  induction h generalizing xs with
  | nil =>
    rw [(List.append_eq_nil_iff.mp hls).2]
    exact .inl .nil
  | @char c ls hc h ih =>
    cases xs with
    | nil =>
      rw [List.nil_append] at hls
      exact .inl (hls ▸ .char hc h)
    | cons x xs =>
      have hrest := ih (List.cons.inj hls).2
      exact hrest.imp_right fun hcut => hcut.append_left [x]
  | @symbol c ls hc h ih =>
    cases xs with
    | nil =>
      rw [List.nil_append] at hls
      exact .inl (hls ▸ .symbol hc h)
    | cons x xs =>
      have hrest := ih (List.cons.inj hls).2
      exact hrest.imp_right fun hcut => hcut.append_left [x]
  | @command name ls hname h ih =>
    rcases xs with _ | ⟨x, _ | ⟨x', _ | ⟨x'', xs⟩⟩⟩ <;>
      simp only [List.nil_append, List.cons_append, List.cons.injEq] at hls
    · exact .inl (hls ▸ .command hname h)
    · obtain ⟨rfl, rfl⟩ := hls
      exact .inr (.opening hname List.suffix_rfl ⟨ls, rfl⟩)
    · obtain ⟨rfl, rfl, rfl⟩ := hls
      exact .inr (.closing hname List.suffix_rfl ⟨ls, rfl⟩)
    · obtain ⟨-, -, -, hls⟩ := hls
      exact (ih hls).imp_right fun hcut => hcut.append_left [x, x', x'']

/-- Of the characters with a meaning of their own only braces stand by themselves: one that opens a group
directly behind a command that stands for a character, and one that closes it directly behind the first.
There are no other commands, and no control symbols but those of such characters. -/
structure OnlyEmptyGroups (ls : List Lexeme) : Prop where
  opening : ∀ xs ys, ls = xs ++ .char '{' :: ys →
    (∃ name ∈ names, [.command name] <:+ xs) ∧ [.char '}'] <+: ys
  closing : ∀ xs ys, ls = xs ++ .char '}' :: ys →
    ∃ name ∈ names, [.command name, .char '{'] <:+ xs
  command : ∀ xs ys name, ls = xs ++ .command name :: ys →
    name ∈ names ∧ [.char '{', .char '}'] <+: ys
  bare : ∀ c ∈ ['&', '%', '$', '#', '_', '~', '^', '\\'], .char c ∉ ls
  symbol : ∀ c, .symbol c ∈ ls → c ∈ symbols
  backslash : .backslash ∉ ls

/-- From any of its lexemes on a text is escaped, except from the braces of a group. -/
theorem Escaped.from_mem {ls : List Lexeme} (h : Escaped ls) {l : Lexeme} (hl : l ∈ ls) :
    (∃ ys, Escaped (l :: ys)) ∨ l = .char '{' ∨ l = .char '}' := by
  obtain ⟨xs, ys, rfl⟩ := List.append_of_mem hl
  rcases h.cut with h | hcut
  · exact .inl ⟨ys, h⟩
  · cases hcut with
    | opening _ _ hys => exact .inr (.inl (List.cons_prefix_cons.mp hys).1.symm)
    | closing _ _ hys => exact .inr (.inr (List.cons_prefix_cons.mp hys).1.symm)

theorem Escaped.not_char {c : Char} {ys : List Lexeme} (hc : c ∈ special) : ¬ Escaped (.char c :: ys) := by
  intro h
  cases h with
  | char hnot _ => exact hnot hc

theorem Escaped.onlyEmptyGroups {ls : List Lexeme} (h : Escaped ls) : OnlyEmptyGroups ls where
  opening := by
    rintro xs ys rfl
    rcases h.cut with h | hcut
    · exact absurd h (Escaped.not_char (by decide))
    · cases hcut with
      | @opening name hname hxs hys => exact ⟨⟨name, hname, hxs⟩, (List.cons_prefix_cons.mp hys).2⟩
      | closing _ _ hys => exact absurd (List.cons_prefix_cons.mp hys).1 (by decide)
  closing := by
    rintro xs ys rfl
    rcases h.cut with h | hcut
    · exact absurd h (Escaped.not_char (by decide))
    · cases hcut with
      | opening _ _ hys => exact absurd (List.cons_prefix_cons.mp hys).1 (by decide)
      | @closing name hname hxs hys => exact ⟨name, hname, hxs⟩
  command := by
    rintro xs ys name rfl
    rcases h.cut with h | hcut
    · cases h with
      | @command _ ls hname _ => exact ⟨hname, ls, rfl⟩
    · cases hcut with
      | opening _ _ hys => cases (List.cons_prefix_cons.mp hys).1
      | closing _ _ hys => cases (List.cons_prefix_cons.mp hys).1
  bare := by
    intro c hc hmem
    have hall : ∀ d ∈ ['&', '%', '$', '#', '_', '~', '^', '\\'],
        d ∈ special ∧ d ≠ '{' ∧ d ≠ '}' := by decide
    obtain ⟨hspecial, hopen, hclose⟩ := hall c hc
    rcases h.from_mem hmem with ⟨ys, h⟩ | heq | heq
    · exact Escaped.not_char hspecial h
    · exact hopen (Lexeme.char.inj heq)
    · exact hclose (Lexeme.char.inj heq)
  symbol := by
    intro c hmem
    rcases h.from_mem hmem with ⟨ys, h⟩ | heq | heq
    · cases h with
      | symbol hc _ => exact hc
    · cases heq
    · cases heq
  backslash := by
    intro hmem
    rcases h.from_mem hmem with ⟨ys, h⟩ | heq | heq
    · cases h
    · cases heq
    · cases heq

/-! ### Reading back -/

theorem escapeChar_of_mem_named {c : Char} {name : Text} (h : (name, c) ∈ named) :
    escapeChar c = name := by
  have hall : ∀ p ∈ named, escapeChar p.2 = p.1 := by decide
  exact hall _ h

/-- A character is read only from its own escape. -/
theorem eq_escapeChar_append {t rest : Text} {c : Char} (h : unescapeChar? t = some (c, rest)) :
    t = escapeChar c ++ rest := by
  have hnamed : ∀ {u : Text}, named? u = some (c, rest) → u = escapeChar c ++ rest := by
    intro u hu
    obtain ⟨⟨name, d⟩, hmem, hafter⟩ := List.exists_of_findSome?_eq_some hu
    simp only [Option.map_eq_some_iff, Prod.mk.injEq] at hafter
    obtain ⟨r, hr, rfl, rfl⟩ := hafter
    rw [escapeChar_of_mem_named hmem]
    exact Text.eq_append_of_after? hr
  have hsymbols : ∀ d ∈ symbols, escapeChar d = ['\\', d] := by decide
  unfold unescapeChar? at h
  split at h
  · cases h
  · split at h
    · next d r hd =>
      cases h
      rw [hsymbols c hd]
      rfl
    · exact hnamed h
  · split at h
    · cases h
    · next d r _ hd =>
      cases h
      rcases escapeChar_cases c with ⟨hc, -⟩ | hc | ⟨-, hc⟩
      · exact absurd (List.mem_append_left _ hc) hd
      · exact absurd (List.mem_append_right _ (List.mem_map_of_mem hc)) hd
      · rw [hc]
        rfl

theorem unescape?_eq_some_iff {s t : Text} : unescape? s = some t ↔ s = escape t := by
  constructor
  · intro h
    induction s using unescape?.induct generalizing t with
    | case1 =>
      rw [unescape?, if_pos rfl] at h
      cases h
      rfl
    | case2 s hs hnone =>
      rw [unescape?, if_neg hs] at h
      split at h
      · cases h
      · next hsome => cases hnone.symm.trans hsome
    | case3 s hs c rest hsome ih =>
      rw [unescape?_eq_map hsome] at h
      obtain ⟨u, hu, rfl⟩ := Option.map_eq_some_iff.mp h
      rw [eq_escapeChar_append hsome, ih hu, escape_cons]
  · rintro rfl
    exact unescape?_escape t

/-- Only what escaping writes for a text is read as this text, so no two texts are escaped alike. What
is written for two texts in a row is written for one and then for the other. All of it is lexemes of
which braces close commands and the other characters have no meaning of their own. -/
theorem escape_decodable (t : Text) :
    (∀ s, unescape? s = some t ↔ s = escape t) ∧ (∀ u, escape u = escape t ↔ u = t) ∧
      (∀ u, escape (t ++ u) = escape t ++ escape u) ∧
      (lexemes (escape t)).flatMap Lexeme.source = escape t ∧
      OnlyEmptyGroups (lexemes (escape t)) := by
  refine ⟨fun s => unescape?_eq_some_iff, ?_, ?_, source_lexemes _, (escaped_escape t).onlyEmptyGroups⟩
  · intro u
    constructor
    · intro h
      have hread : some u = some t := by
        rw [← unescape?_escape u, h, unescape?_escape]
      exact Option.some.inj hread
    · rintro rfl
      rfl
  · intro u
    exact List.flatMap_append

/-- The letters behind the group are none of the command's, and the braces of the text are written as
control symbols. -/
example : lexemes (escape ['~', 'a', '{']) =
    [.command "textasciitilde".toList, .char '{', .char '}', .char 'a', .symbol '{'] := by
  cbv

end Weave.Latex
