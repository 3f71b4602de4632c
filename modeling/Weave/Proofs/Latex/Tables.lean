import Weave.Latex
import Weave.Proofs.Latex.Escaping

/-!
# Tables read back

A tabular is read from the left, as LaTeX does it: a backslash takes the character behind it, two
backslashes end a row and an ampersand by itself ends a cell. A cell is an escaped text with a blank at
either side. Whatever the cells of a table hold, its rows and rules are found again.
-/

set_option autoImplicit false

namespace Weave.Latex

/-! ### Reading -/

def behind (x : Text) (row : List Text × Text) : List Text × Text := (row.1.modifyHead (x ++ ·), row.2)

/-- The cells of the row at the front as they are written, and what follows the end of the row. -/
def row? : Text → Option (List Text × Text)
  | [] => none
  | ['\\'] => none
  | '\\' :: c :: r => if c = '\\' then some ([[]], r) else (row? r).map (behind ['\\', c])
  | c :: r =>
    if c = '&' then (row? r).map fun row => ([] :: row.1, row.2)
    else (row? r).map (behind [c])

def unpad? : Text → Option Text
  | ' ' :: t => if t.getLast? = some ' ' then some t.dropLast else none
  | _ => none

/-- The texts of the row at the front, and what follows. A blank is put in front of the first cell, which
has only the one behind it. -/
def cells? (t : Text) : Option (List Text × Text) :=
  (row? (' ' :: t)).bind fun row =>
    (row.1.mapM fun cell => (unpad? cell).bind unescape?).map fun ts => (ts, row.2)

inductive TableLine where
  | rule
  | row (cells : List Text)
deriving DecidableEq, Repr

/-- The rule or the row at the front, and the lines behind it. -/
def tableLine? (t : Text) : Option (TableLine × Text) :=
  match Text.after? rule t with
  | some rest => some (.rule, rest)
  | none =>
    (cells? t).bind fun row => (Text.after? ['\n'] row.2).map fun rest => (.row row.1, rest)

theorem length_lt_of_row? {t : Text} {row : List Text × Text} (h : row? t = some row) :
    row.2.length < t.length := by
  fun_induction row? t generalizing row with
  | case1 => cases h
  | case2 => cases h
  | case3 r =>
    cases h
    simp only [List.length_cons]
    omega
  | case4 c r hc ih =>
    obtain ⟨row', hrow, rfl⟩ := Option.map_eq_some_iff.mp h
    have := ih hrow
    simp only [behind, List.length_cons]
    omega
  | case5 r _ _ ih =>
    obtain ⟨row', hrow, rfl⟩ := Option.map_eq_some_iff.mp h
    have := ih hrow
    simp only [List.length_cons]
    omega
  | case6 c r _ _ _ ih =>
    obtain ⟨row', hrow, rfl⟩ := Option.map_eq_some_iff.mp h
    have := ih hrow
    simp only [behind, List.length_cons]
    omega

theorem length_lt_of_tableLine? {t rest : Text} {l : TableLine} (h : tableLine? t = some (l, rest)) :
    rest.length < t.length := by
  unfold tableLine? at h
  split at h
  · next r hr =>
    cases h
    have hrule : 0 < rule.length := by decide
    rw [Text.eq_append_of_after? hr, List.length_append]
    omega
  · simp only [cells?, Option.bind_eq_some_iff, Option.map_eq_some_iff, Prod.mk.injEq] at h
    obtain ⟨_, ⟨row, hrow, ts, -, rfl⟩, r, hr, -, rfl⟩ := h
    have hlt := length_lt_of_row? hrow
    rw [Text.eq_append_of_after? hr] at hlt
    simp only [List.length_append, List.length_cons, List.length_nil] at hlt
    omega

def tableLines? (t : Text) : Option (List TableLine) :=
  match _h : tableLine? t with
  | some (l, rest) => (tableLines? rest).map (l :: ·)
  | none => if t = apply "end" "tabular".toList then some [] else none
termination_by t.length
decreasing_by exact length_lt_of_tableLine? _h

def tabular? (t : Text) : Option (Text × List TableLine) :=
  (Text.after? (apply "begin" "tabular".toList ++ ['{']) t).bind fun inner =>
    (Text.cut? ['}', '\n'] inner).bind fun (columns, body) =>
      (tableLines? body).map fun ls => (columns, ls)

/-! ### Rows -/

theorem row?_plain {c : Char} (hback : c ≠ '\\') (hamp : c ≠ '&') (u : Text) :
    row? (c :: u) = (row? u).map (behind [c]) := by
  rw [row?.eq_def]
  split <;> simp_all

theorem behind_behind (x y : Text) : behind x ∘ behind y = behind (x ++ y) := by
  funext row
  obtain ⟨cells, rest⟩ := row
  cases cells <;> simp [behind]

theorem row?_append {x : Text} (h : ∀ c ∈ x, c ≠ '\\' ∧ c ≠ '&') (u : Text) :
    row? (x ++ u) = (row? u).map (behind x) := by
  induction x with
  | nil =>
    have hid : behind [] = id := by
      funext row
      obtain ⟨cells, rest⟩ := row
      cases cells <;> rfl
    rw [hid, Option.map_id]
    rfl
  | cons c x ih =>
    obtain ⟨⟨hback, hamp⟩, hx⟩ := List.forall_mem_cons.mp h
    rw [List.cons_append, row?_plain hback hamp, ih hx, Option.map_map, behind_behind]
    rfl

theorem row?_backslash {c : Char} (hc : c ≠ '\\') (u : Text) :
    row? ('\\' :: c :: u) = (row? u).map (behind ['\\', c]) := by
  rw [row?, if_neg hc]

theorem row?_escapeChar (c : Char) (u : Text) :
    row? (escapeChar c ++ u) = (row? u).map (behind (escapeChar c)) := by
  rcases escapeChar_cases c with ⟨hc, h⟩ | h | ⟨hc, h⟩
  · have hback : c ≠ '\\' := by
      rintro rfl
      exact absurd hc (by decide)
    rw [h]
    exact row?_backslash hback u
  · -- the name of a command holds neither mark
    have hnamed : ∀ p ∈ named, ∃ d x, p.1 = '\\' :: d :: x ∧ d ≠ '\\' ∧ ∀ c ∈ x, c ≠ '\\' ∧ c ≠ '&' := by
      simp only [named, List.forall_mem_cons, List.not_mem_nil, false_implies, implies_true, and_true]
      exact ⟨⟨_, _, rfl, by decide, by decide⟩, ⟨_, _, rfl, by decide, by decide⟩,
        ⟨_, _, rfl, by decide, by decide⟩⟩
    obtain ⟨d, x, hcommand, hd, hx⟩ := hnamed _ h
    dsimp only at hcommand
    rw [hcommand, List.cons_append, List.cons_append, row?_backslash hd, row?_append hx,
      Option.map_map, behind_behind]
    rfl
  · rw [h]
    refine row?_plain ?_ ?_ u
    · rintro rfl
      exact hc (by decide)
    · rintro rfl
      exact hc (by decide)

/-- An escaped text ends neither a cell nor a row. -/
theorem row?_escape (t u : Text) : row? (escape t ++ u) = (row? u).map (behind (escape t)) := by
  induction t with
  | nil =>
    have hnil : escape [] = [] := rfl
    rw [hnil]
    exact row?_append (by simp) u
  | cons c t ih =>
    rw [escape_cons, List.append_assoc, row?_escapeChar, ih, Option.map_map, behind_behind]

def pad (t : Text) : Text := ' ' :: escape t ++ [' ']

theorem row?_pad (t u : Text) : row? (pad t ++ u) = (row? u).map (behind (pad t)) := by
  have hblank : ∀ u, row? (' ' :: u) = (row? u).map (behind [' ']) := fun u =>
    row?_plain (by decide) (by decide) u
  rw [pad, List.cons_append, List.cons_append, List.append_assoc, hblank, row?_escape,
    List.singleton_append, hblank]
  simp only [Option.map_map, behind_behind]
  rfl

theorem row?_cells (t : Text) (ts : List Text) (u : Text) :
    row? (' ' :: (Text.join " & ".toList ((t :: ts).map escape) ++ ' ' :: '\\' :: '\\' :: u)) =
      some ((t :: ts).map pad, u) := by
  induction ts generalizing t with
  | nil =>
    have hend : row? ('\\' :: '\\' :: u) = some ([[]], u) := rfl
    have hcell := row?_pad t ('\\' :: '\\' :: u)
    rw [hend] at hcell
    simpa [pad, Text.join, behind] using hcell
  | cons t' ts ih =>
    have hamp : ∀ r, row? ('&' :: r) = (row? r).map fun row => ([] :: row.1, row.2) := fun r => rfl
    have hcell := row?_pad t ('&' :: (' ' ::
      (Text.join " & ".toList ((t' :: ts).map escape) ++ ' ' :: '\\' :: '\\' :: u)))
    rw [hamp, ih t'] at hcell
    simpa [pad, Text.join, behind] using hcell

theorem unpad?_pad (t : Text) : unpad? (pad t) = some (escape t) := by
  simp [unpad?, pad]

theorem mapM_pad (ts : List Text) :
    ((ts.map pad).mapM fun cell => (unpad? cell).bind unescape?) = some ts := by
  induction ts with
  | nil => rfl
  | cons t ts ih => simp [List.mapM_cons, unpad?_pad, unescape?_escape, ih]

theorem cells?_row {ts : List Text} (hts : ts ≠ []) (u : Text) :
    cells? (row ts ++ u) = some (ts, '\n' :: u) := by
  obtain ⟨t, ts, rfl⟩ := List.exists_cons_of_ne_nil hts
  have hrow : row (t :: ts) ++ u =
      Text.join " & ".toList ((t :: ts).map escape) ++ ' ' :: '\\' :: '\\' :: '\n' :: u := by
    simp [row]
  rw [cells?, hrow, row?_cells, Option.bind_some, mapM_pad, Option.map_some]

/-! ### Lines -/

/-- What is written for a character begins with no letter behind a backslash but a `t`. -/
theorem escapeChar_ne_command {c d : Char} (hd : d ∉ 't' :: symbols) (x u : Text) :
    escapeChar c ++ u ≠ '\\' :: d :: x := by
  intro h
  rcases escapeChar_cases c with ⟨hc, hesc⟩ | hesc | ⟨hc, hesc⟩
  · rw [hesc, List.cons_append, List.singleton_append, List.cons.injEq, List.cons.injEq] at h
    exact hd (List.mem_cons_of_mem _ (h.2.1 ▸ hc))
  · have hnamed : ∀ p ∈ named, p.1[1]? = some 't' := by decide
    have hsecond := hnamed _ hesc
    have hlen : 1 < (escapeChar c).length := (List.getElem?_eq_some_iff.mp hsecond).1
    have := congrArg (·[1]?) h
    dsimp only at this hsecond
    rw [List.getElem?_append_left hlen, hsecond] at this
    obtain rfl : 't' = d := by simpa using this
    exact hd List.mem_cons_self
  · rw [hesc] at h
    obtain rfl : c = '\\' := by simpa using congrArg List.head? h
    exact hc (by decide)

/-- No row begins like a rule. -/
theorem after?_rule_row {ts : List Text} (hts : ts ≠ []) (u : Text) :
    Text.after? rule (row ts ++ u) = none := by
  obtain ⟨t, ts, rfl⟩ := List.exists_cons_of_ne_nil hts
  rw [Option.eq_none_iff_forall_ne_some]
  intro rest hrest
  have heq : row (t :: ts) ++ u = '\\' :: 'h' :: ("line\n".toList ++ rest) :=
    Text.eq_append_of_after? hrest
  obtain ⟨v, hv⟩ : ∃ v, row (t :: ts) ++ u = escape t ++ ' ' :: v := by
    cases ts with
    | nil => exact ⟨_, by simp [row, Text.join]; rfl⟩
    | cons t' ts => exact ⟨_, by simp [row, Text.join]; rfl⟩
  rw [hv] at heq
  cases t with
  | nil => cases heq
  | cons c t =>
    rw [escape_cons, List.append_assoc] at heq
    exact escapeChar_ne_command (by decide) _ _ heq

theorem tableLine?_rule (u : Text) : tableLine? (rule ++ u) = some (.rule, u) := by
  rw [tableLine?, Text.after?_append]

theorem tableLine?_row {ts : List Text} (hts : ts ≠ []) (u : Text) :
    tableLine? (row ts ++ u) = some (.row ts, u) := by
  rw [tableLine?, after?_rule_row hts]
  simp [cells?_row hts, Text.after?]

theorem tableLines?_eq_map {t rest : Text} {l : TableLine} (h : tableLine? t = some (l, rest)) :
    tableLines? t = (tableLines? rest).map (l :: ·) := by
  rw [tableLines?]
  split
  · next hsome =>
    cases hsome.symm.trans h
    rfl
  · next hnone => cases hnone.symm.trans h

theorem tableLines?_end : tableLines? (apply "end" "tabular".toList) = some [] := by
  have hnone : tableLine? (apply "end" "tabular".toList) = none := by decide
  rw [tableLines?]
  split
  · next hsome => cases hsome.symm.trans hnone
  · rw [if_pos rfl]

theorem tableLines?_rows {rs : List (List Text)} (hrs : ∀ r ∈ rs, r ≠ []) (u : Text) :
    tableLines? (rs.flatMap row ++ u) = (tableLines? u).map (rs.map TableLine.row ++ ·) := by
  induction rs with
  | nil => simp
  | cons r rs ih =>
    obtain ⟨hr, hrs⟩ := List.forall_mem_cons.mp hrs
    rw [List.flatMap_cons, List.append_assoc, tableLines?_eq_map (tableLine?_row hr _), ih hrs,
      Option.map_map]
    rfl

theorem tableLines?_rule (u : Text) :
    tableLines? (rule ++ u) = (tableLines? u).map (TableLine.rule :: ·) :=
  tableLines?_eq_map (tableLine?_rule u)

def tableLines (headers : List Text) (rows : List (List Text)) : List TableLine :=
  [.rule, .row headers, .rule] ++ rows.map .row ++ [.rule]

theorem cut?_columns (n : Nat) (u : Text) :
    Text.cut? ['}', '\n'] (List.replicate n 'l' ++ ('}' :: '\n' :: u)) =
      some (List.replicate n 'l', u) := by
  have hclear : ∀ y, ClearOf (['}', '\n'] <+: ·) (List.replicate n 'l') y := by
    intro y
    induction n with
    | zero => exact clearOf_nil y
    | succ n ih =>
      refine clearOf_cons.mpr ⟨?_, ih⟩
      intro h
      exact absurd (List.cons_prefix_cons.mp h).1 (by decide)
  have hmark := Text.cut?_append_self (List.cons_ne_nil '}' ['\n']) u
  rw [List.cons_append, List.singleton_append] at hmark
  rw [Text.cut?_append_of_clear (hclear _), hmark, Option.map_some]
  simp only [List.append_nil]

theorem tabular?_table {hs : List Text} {rs : List (List Text)} (hhs : hs ≠ [])
    (hrs : ∀ r ∈ rs, r ≠ []) :
    tabular? (table hs rs) = some (List.replicate hs.length 'l', tableLines hs rs) := by
  have htable : table hs rs = (apply "begin" "tabular".toList ++ ['{']) ++
      (List.replicate hs.length 'l' ++ ('}' :: '\n' :: (rule ++ ([hs].flatMap row ++ (rule ++
        (rs.flatMap row ++ (rule ++ apply "end" "tabular".toList))))))) := by
    simp [table]
  have hlines : tableLines? (rule ++ ([hs].flatMap row ++ (rule ++ (rs.flatMap row ++ (rule ++
      apply "end" "tabular".toList))))) = some (tableLines hs rs) := by
    rw [tableLines?_rule, tableLines?_rows (by simpa using hhs), tableLines?_rule, tableLines?_rows hrs,
      tableLines?_rule, tableLines?_end]
    simp [tableLines]
  rw [htable, tabular?, Text.after?_append, Option.bind_some, cut?_columns, Option.bind_some]
  simp only [hlines, Option.map_some]

/-- A table of which every row has a cell for each header is read back as it is: it has a column for each
header, and its rows and rules are those that were written. -/
theorem block_table_readable {hs : List Text} {rs : List (List Text)} (hhs : hs ≠ [])
    (hrs : ∀ r ∈ rs, r.length = hs.length) :
    ∃ w, block (.table hs rs) = .ok w ∧
      tabular? w = some (List.replicate hs.length 'l',
        [.rule, .row hs, .rule] ++ rs.map .row ++ [.rule]) := by
  refine ⟨table hs rs, rfl, tabular?_table hhs fun r hr => ?_⟩
  have hlen : 0 < r.length := hrs r hr ▸ List.length_pos_iff.mpr hhs
  exact List.ne_nil_of_length_pos hlen

/-- A table whose cells hold row ends, ampersands, rules and blanks. -/
theorem block_table_readable_marks :
    let headers := ["&".toList, " \\\\\n\\hline\n".toList]
    let rows := [["\\".toList, " & ".toList], [[], "\\\\ \\end\x7btabular\x7d".toList]]
    ∃ w, block (.table headers rows) = .ok w ∧
      tabular? w = some (['l', 'l'], [.rule, .row headers, .rule] ++ rows.map .row ++ [.rule]) :=
  block_table_readable (List.cons_ne_nil _ _) (by decide)

end Weave.Latex
