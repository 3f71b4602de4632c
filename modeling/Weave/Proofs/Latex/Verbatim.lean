import Weave.Latex
import Weave.Proofs.Latex.Drafts
import Weave.Proofs.Text.Cutting

/-!
# Listings in LaTeX

A listing is written as it is between the commands that begin and end a verbatim environment. LaTeX
takes it up to the first command that ends one, be it part of the listing, and so reads it back as it
was exactly if the listing does not hold that command. Nothing else that prose is written as begins
such an environment.
-/

set_option autoImplicit false

namespace Weave.Latex

/-! ### Reading verbatim environments -/

def verbatimStart : Text := apply "begin" "verbatim".toList ++ ['\n']

def verbatimEnd : Text := apply "end" "verbatim".toList

def withoutNewline (t : Text) : Text := if t.getLast? = some '\n' then t.dropLast else t

/-- The text of the first verbatim environment, from the newline behind the command that begins it up to
the first command that ends one, less the newline before that; and what follows. -/
def verbatim? (t : Text) : Option (Text × Text) :=
  (Text.cut? verbatimStart t).bind fun (_, inner) =>
    (Text.cut? verbatimEnd inner).map fun (body, rest) => (withoutNewline body, rest)

theorem length_lt_of_verbatim? {t body rest : Text} (h : verbatim? t = some (body, rest)) :
    rest.length < t.length := by
  simp only [verbatim?, Option.bind_eq_some_iff, Option.map_eq_some_iff, Prod.mk.injEq] at h
  obtain ⟨⟨before, inner⟩, hs, ⟨b, r⟩, he, -, rfl⟩ := h
  have hstart : 0 < verbatimStart.length := by decide
  have hinner : inner.length + verbatimStart.length ≤ t.length := Text.length_le_of_cut? hs
  have hrest : r.length + verbatimEnd.length ≤ inner.length := Text.length_le_of_cut? he
  dsimp only
  omega

def verbatims (t : Text) : List Text :=
  match _h : verbatim? t with
  | none => []
  | some (body, rest) => body :: verbatims rest
termination_by t.length
decreasing_by exact length_lt_of_verbatim? _h

theorem verbatims_eq (t : Text) :
    verbatims t = match verbatim? t with
      | none => []
      | some (body, rest) => body :: verbatims rest := by
  rw [verbatims]
  split
  · next h => rw [h]
  · next h => rw [h]

theorem verbatims_nil : verbatims [] = [] := by
  rw [verbatims_eq]
  rfl

/-! ### What begins no environment -/

/-- No environment begins within the text, whatever follows. -/
def Plain (x : Text) : Prop := ∀ y, ClearOf (verbatimStart <+: ·) x y

theorem Plain.verbatims_append {x : Text} (h : Plain x) (y : Text) :
    verbatims (x ++ y) = verbatims y := by
  have hsame : verbatim? (x ++ y) = verbatim? y := by
    rw [verbatim?, Text.cut?_append_of_clear (h y), Option.bind_map]
    rfl
  rw [verbatims_eq, hsame, ← verbatims_eq]

theorem plain_nil : Plain [] := fun y => clearOf_nil y

theorem Plain.append {x x' : Text} (h : Plain x) (h' : Plain x') : Plain (x ++ x') :=
  NeverIn.append h h'

theorem Plain.flatMap {α : Type} {f : α → Text} {xs : List α} (h : ∀ a ∈ xs, Plain (f a)) :
    Plain (xs.flatMap f) :=
  NeverIn.flatMap h

theorem Plain.cons {c : Char} {x : Text} (hc : c ≠ '\\') (h : Plain x) : Plain (c :: x) := by
  intro y
  refine clearOf_cons.mpr ⟨?_, h y⟩
  intro hstart
  exact hc (List.cons_prefix_cons.mp hstart).1.symm

theorem plain_of_not_mem {x : Text} (h : '\\' ∉ x) : Plain x := by
  induction x with
  | nil => exact plain_nil
  | cons c x ih =>
    obtain ⟨hc, hx⟩ : '\\' ≠ c ∧ '\\' ∉ x := by simpa using h
    exact (ih hx).cons hc.symm

/-- The name of a command tells it from the one that begins an environment. -/
theorem Plain.command {c : Char} {x : Text} (hc : c ≠ 'b') (h : Plain (c :: x)) :
    Plain ('\\' :: c :: x) := by
  intro y
  refine clearOf_cons.mpr ⟨?_, h y⟩
  intro hstart
  obtain ⟨-, hname⟩ := List.cons_prefix_cons.mp hstart
  exact hc (List.cons_prefix_cons.mp hname).1.symm

theorem Plain.apply {name : String} {c : Char} {cs t : Text} (hname : name.toList = c :: cs)
    (hc : c ≠ 'b') (hcs : '\\' ∉ name.toList) (h : Plain t) : Plain (apply name t) := by
  have htail : Plain (name.toList ++ ('{' :: t ++ ['}'])) :=
    (plain_of_not_mem hcs).append ((h.cons (by decide)).append (plain_of_not_mem (by decide)))
  rw [hname] at htail
  rw [Latex.apply, hname, List.append_assoc]
  exact htail.command hc

theorem plain_escape (t : Text) : Plain (escape t) := by
  refine Plain.flatMap fun c _ => ?_
  have hnamed : ∀ name ∈ ["textbackslash", "textasciitilde", "textasciicircum"],
      Plain (command name) := by
    simp only [List.forall_mem_cons, List.not_mem_nil, false_implies, implies_true, and_true]
    refine ⟨?_, ?_, ?_⟩ <;>
      exact Plain.command (by decide) (plain_of_not_mem (by decide))
  unfold escapeChar
  split
  · exact hnamed _ (by simp)
  split
  · exact hnamed _ (by simp)
  split
  · exact hnamed _ (by simp)
  next hback _ _ =>
    split
    · next hsymbol =>
      refine Plain.command ?_ (plain_nil.cons hback)
      rintro rfl
      simp at hsymbol
    · exact plain_nil.cons hback

theorem plain_inline (t : Text) : Plain (inline t) := by
  refine Plain.flatMap fun s _ => ?_
  cases s with
  | plain t => exact plain_escape t
  | code t => exact (plain_escape t).apply rfl (by decide) (by decide)
  | strong t => exact (plain_escape t).apply rfl (by decide) (by decide)
  | emphasis t => exact (plain_escape t).apply rfl (by decide) (by decide)

theorem Plain.join {sep : Text} {ts : List Text} (hsep : Plain sep) (h : ∀ t ∈ ts, Plain t) :
    Plain (Text.join sep ts) :=
  NeverIn.intercalate hsep h

theorem plain_itemize {body : Text} (h : Plain body) : Plain (environment "itemize" body) := by
  have hbegin : Plain (apply "begin" "itemize".toList) := by
    intro y
    refine clearOf_cons.mpr ⟨?_, plain_of_not_mem (by decide) y⟩
    simp [verbatimStart, Latex.apply, List.cons_prefix_cons]
  have hend : Plain (apply "end" "itemize".toList) :=
    (plain_of_not_mem (by decide)).apply rfl (by decide) (by decide)
  have hbody : Plain ('\n' :: body ++ '\n' :: apply "end" "itemize".toList) :=
    (h.cons (by decide)).append (hend.cons (by decide))
  rw [environment, List.append_assoc]
  exact hbegin.append hbody

def Piece.listing? : Piece → Option (List Text)
  | .listing ls => some ls
  | _ => none

theorem Piece.plain_write {p : Piece} (h : p.listing? = none) : Plain p.write := by
  cases p with
  | listing ls => simp [Piece.listing?] at h
  | paragraph ls => exact plain_inline _
  | heading level title =>
    rw [Piece.write, sectionCommand]
    split
    · exact (plain_inline title).apply rfl (by decide) (by decide)
    split
    · exact (plain_inline title).apply rfl (by decide) (by decide)
    · exact (plain_inline title).apply rfl (by decide) (by decide)
  | items xs =>
    refine plain_itemize (Plain.join (plain_of_not_mem (by decide)) fun t ht => ?_)
    obtain ⟨i, -, rfl⟩ := List.mem_map.mp ht
    have hbullet : Plain "  \\item ".toList :=
      ((Plain.command (by decide) (plain_of_not_mem (by decide))).cons (by decide)).cons (by decide)
    exact hbullet.append (plain_inline i)

/-! ### Environments read back -/

theorem length_withoutNewline_le (t : Text) : (withoutNewline t).length ≤ t.length := by
  unfold withoutNewline
  split
  · exact (List.dropLast_sublist t).length_le
  · exact Nat.le_refl _

theorem withoutNewline_append_newline (t : Text) : withoutNewline (t ++ ['\n']) = t := by
  simp [withoutNewline]

theorem environment_verbatim (text : Text) :
    environment "verbatim" text = verbatimStart ++ (text ++ '\n' :: verbatimEnd) := by
  simp [environment, verbatimStart, verbatimEnd]

theorem verbatim?_environment (text y : Text) :
    verbatim? (environment "verbatim" text ++ y) =
      (Text.cut? verbatimEnd (text ++ '\n' :: (verbatimEnd ++ y))).map
        fun (body, rest) => (withoutNewline body, rest) := by
  have hstart : Text.cut? verbatimStart (environment "verbatim" text ++ y) =
      some ([], text ++ '\n' :: (verbatimEnd ++ y)) := by
    rw [environment_verbatim, List.append_assoc, List.append_assoc]
    exact Text.cut?_append_self (by decide) _
  rw [verbatim?, hstart]
  rfl

/-- A listing without the command that ends it is read back as it is. -/
theorem verbatims_environment {text : Text} (h : ¬ verbatimEnd <:+: text) (y : Text) :
    verbatims (environment "verbatim" text ++ y) = text :: verbatims y := by
  -- the command lacks the newline behind the listing, so none starts in the listing and ends behind it
  have hnewline : '\n' ∉ verbatimEnd := by decide
  have hclear : ClearOf (verbatimEnd <+: ·) (text ++ ['\n']) (verbatimEnd ++ y) := by
    refine clearOf_append.mpr ⟨clearOf_of_not_isInfix hnewline h _, ?_⟩
    refine clearOf_cons.mpr ⟨?_, clearOf_nil _⟩
    intro hend
    exact absurd (List.cons_prefix_cons.mp hend).1 (by decide)
  have hcut : Text.cut? verbatimEnd (text ++ '\n' :: (verbatimEnd ++ y)) =
      some (text ++ ['\n'], y) := by
    have hfound := Text.cut?_append_of_clear hclear
    rw [Text.cut?_append_self (by decide), List.append_assoc] at hfound
    simpa using hfound
  have hfirst : verbatim? (environment "verbatim" text ++ y) = some (text, y) := by
    rw [verbatim?_environment, hcut]
    simp only [Option.map_some, withoutNewline_append_newline]
  rw [verbatims_eq, hfirst]

/-- Otherwise the environment ends within the listing. -/
theorem verbatims_environment_of_isInfix {text : Text} (h : verbatimEnd <:+: text) (y : Text) :
    ∃ body rest, verbatims (environment "verbatim" text ++ y) = body :: rest ∧
      body.length < text.length := by
  obtain ⟨before, rest, hcut, hlen⟩ :=
    Text.exists_cut?_of_isInfix (by decide) h ('\n' :: (verbatimEnd ++ y))
  have hfirst : verbatim? (environment "verbatim" text ++ y) =
      some (withoutNewline before, rest) := by
    rw [verbatim?_environment, hcut, Option.map_some]
  refine ⟨withoutNewline before, verbatims rest, ?_, ?_⟩
  · rw [verbatims_eq, hfirst]
  · exact Nat.lt_of_le_of_lt (length_withoutNewline_le before) hlen

theorem verbatims_environment_iff (text y : Text) (ts : List Text) :
    verbatims (environment "verbatim" text ++ y) = text :: ts ↔
      ¬ verbatimEnd <:+: text ∧ verbatims y = ts := by
  constructor
  · intro hread
    have hend : ¬ verbatimEnd <:+: text := by
      intro h
      obtain ⟨body, rest, heq, hlen⟩ := verbatims_environment_of_isInfix h y
      rw [heq, List.cons.injEq] at hread
      rw [hread.1] at hlen
      exact Nat.lt_irrefl _ hlen
    rw [verbatims_environment hend, List.cons.injEq] at hread
    exact ⟨hend, hread.2⟩
  · rintro ⟨hend, rfl⟩
    exact verbatims_environment hend y

/-! ### Listings of prose -/

def Piece.listed (ps : List Piece) : List Text :=
  (ps.filterMap Piece.listing?).map (Text.join ['\n'])

theorem verbatims_join_cons (w : Text) (ws : List Text) :
    ∃ y, Text.join ['\n', '\n'] (w :: ws) = w ++ y ∧
      verbatims y = verbatims (Text.join ['\n', '\n'] ws) := by
  cases ws with
  | nil => exact ⟨[], by simp [Text.join], by simp [Text.join]⟩
  | cons u us =>
    have hsep : Plain ['\n', '\n'] := plain_of_not_mem (by decide)
    exact ⟨_, Text.join_cons_cons .., hsep.verbatims_append _⟩

theorem verbatims_pieces (ps : List Piece) :
    verbatims (Text.join ['\n', '\n'] (ps.map Piece.write)) = Piece.listed ps ↔
      ∀ t ∈ Piece.listed ps, ¬ verbatimEnd <:+: t := by
  induction ps with
  | nil => simp [Piece.listed, Text.join, verbatims_nil]
  | cons p ps ih =>
    obtain ⟨y, hjoin, hy⟩ := verbatims_join_cons p.write (ps.map Piece.write)
    rw [List.map_cons, hjoin]
    cases hp : p.listing? with
    | none =>
      have hlisted : Piece.listed (p :: ps) = Piece.listed ps := by simp [Piece.listed, hp]
      rw [hlisted, (p.plain_write hp).verbatims_append, hy]
      exact ih
    | some ls =>
      have hlisted : Piece.listed (p :: ps) = Text.join ['\n'] ls :: Piece.listed ps := by
        simp [Piece.listed, hp]
      obtain rfl : p = .listing ls := by cases p <;> simp_all [Piece.listing?]
      rw [hlisted, Piece.write, verbatims_environment_iff, hy, ih, List.forall_mem_cons]

/-! ### Fences -/

/-- The lines between each line that starts with a fence mark and the next such line, or the end. -/
def fences : List Text → List (List Text)
  | [] => []
  | t :: ts =>
    if Text.startsWith t fenceMark then
      ts.takeWhile (!Text.startsWith · fenceMark)
        :: fences (ts.dropWhile (!Text.startsWith · fenceMark)).tail
    else fences ts
termination_by ts => ts.length
decreasing_by
  · have h := (List.dropWhile_sublist (fun l => !Text.startsWith l fenceMark) (l := ts)).length_le
    simp only [List.length_tail, List.length_cons]
    omega
  · simp

/-- The contents of the fences among some lines, of which the first are in the middle of a piece. -/
def Open.fences : Open → List Text → List (List Text)
  | .listing ls, ts =>
    (ls.reverse ++ ts.takeWhile (!Text.startsWith · fenceMark))
      :: Latex.fences (ts.dropWhile (!Text.startsWith · fenceMark)).tail
  | _, ts => Latex.fences ts

theorem classify_eq_fence_iff {t : Text} :
    classify t = .fence ↔ Text.startsWith t fenceMark = true := by
  constructor
  · intro h
    unfold classify at h
    split at h
    · assumption
    · repeat' split at h
      all_goals cases h
  · intro h
    rw [classify, if_pos h]

theorem fences_cons (t : Text) (ts : List Text) :
    fences (t :: ts) =
      if classify t = .fence then Open.fences (.listing []) ts else fences ts := by
  rw [fences]
  by_cases h : Text.startsWith t fenceMark = true
  · rw [if_pos h, if_pos (classify_eq_fence_iff.mpr h)]
    rfl
  · rw [if_neg h, if_neg (fun hc => h (classify_eq_fence_iff.mp hc))]

/-- Outside a listing, what is in the middle of a piece does not matter. -/
theorem Open.fences_eq {o : Open} (h : ∀ ls, o = .listing ls → False) (ts : List Text) :
    o.fences ts = Latex.fences ts := by
  cases o with
  | listing ls => exact (h ls rfl).elim
  | _ => rfl

theorem Open.listings_close {o : Open} (h : ∀ ls, o = .listing ls → False) :
    o.close.filterMap Piece.listing? = [] := by
  cases o with
  | listing ls => exact (h ls rfl).elim
  | _ => rfl

/-- A line of any other kind leaves the fences to those behind it. -/
theorem Open.fences_cons {o : Open} {t : Text} (ho : ∀ ls, o = .listing ls → False)
    (ht : classify t ≠ .fence) (ts : List Text) : o.fences (t :: ts) = Latex.fences ts := by
  rw [Open.fences_eq ho, Latex.fences_cons, if_neg ht]

theorem listings_piecesFrom (o : Open) (ts : List Text) :
    (piecesFrom o ts).filterMap Piece.listing? = o.fences ts := by
  fun_induction piecesFrom o ts with
  | case1 o => cases o <;> simp [Open.close, Open.fences, fences, Piece.listing?]
  | case2 ls t ts ht ih => simp [Piece.listing?, ih, Open.fences, ht]
  | case3 ls t ts ht ih => simp [ih, Open.fences, ht]
  | case4 t ts o hline ho ih =>
    rw [List.filterMap_append, Open.listings_close ho, ih, Open.fences_eq ho, fences_cons, if_pos hline]
    rfl
  | case5 t ts level title o hline ho ih =>
    rw [List.filterMap_append, Open.listings_close ho, Open.fences_cons ho (by simp [hline])]
    exact ih
  | case6 t ts i xs hline ho ih =>
    rw [ih, Open.fences_cons ho (by simp [hline])]
    rfl
  | case7 t ts i o _ hline ho ih =>
    rw [List.filterMap_append, Open.listings_close ho, ih, Open.fences_cons ho (by simp [hline])]
    rfl
  | case8 t ts o hline ho ih =>
    rw [List.filterMap_append, Open.listings_close ho, ih, Open.fences_cons ho (by simp [hline])]
    rfl
  | case9 t ts p ps hline ho ih =>
    rw [ih, Open.fences_cons ho (by simp [hline])]
    rfl
  | case10 t ts p o _ hline ho ih =>
    rw [List.filterMap_append, Open.listings_close ho, ih, Open.fences_cons ho (by simp [hline])]
    rfl

def fenced (t : Text) : List Text := (fences (Text.lines t)).map (Text.join ['\n'])

theorem listed_pieces (t : Text) : Piece.listed (pieces t) = fenced t := by
  rw [Piece.listed, pieces_eq_piecesFrom, listings_piecesFrom]
  rfl

/-- What is written for a listing, and for the fences of prose, is read back as it was exactly if no
listing holds the command that ends one. -/
theorem verbatims_written (text lang t : Text) :
    (∃ w, block (.code text lang) = .ok w ∧ (verbatims w = [text] ↔ ¬ verbatimEnd <:+: text)) ∧
      ∃ w, block (.prose t) = .ok w ∧
        (verbatims w = fenced t ↔ ∀ u ∈ fenced t, ¬ verbatimEnd <:+: u) := by
  constructor
  · refine ⟨environment "verbatim" text, rfl, ?_⟩
    have hread := verbatims_environment_iff text [] []
    rw [List.append_nil] at hread
    simpa [verbatims_nil] using hread
  · refine ⟨prose t, rfl, ?_⟩
    rw [prose, ← listed_pieces]
    exact verbatims_pieces (pieces t)

/-- A listing of nothing but that command is not read back. -/
theorem not_verbatims_verbatimEnd :
    ∃ w, block (.code verbatimEnd []) = .ok w ∧ verbatims w ≠ [verbatimEnd] := by
  obtain ⟨⟨w, hw, hread⟩, -⟩ := verbatims_written verbatimEnd [] []
  refine ⟨w, hw, ?_⟩
  intro h
  exact hread.mp h List.infix_rfl

end Weave.Latex
