import Mathlib.Algebra.Group.Nat.Even
import Mathlib.Data.List.Chain
import Mathlib.Data.List.DropRight
import Mathlib.Data.Nat.Find
import Weave.Proofs.Document.Closing

/-!
# Embedded snippets in bodies

Opening braces are taken in pairs from the left. So a word in double braces embeds a snippet exactly if
its opening braces end a run of an even number of them; all other braces are text. A body ends at the
first newline in front of closing braces and cannot be read without one.
-/

set_option autoImplicit false

namespace Weave

def Rule.IsText : Rule → Prop
  | .text _ => True
  | .embed _ => False

namespace Document

variable {rules : List Rule} {p t u v x s y z : Text} {a : Char}

/-! ### Where snippets are embedded -/

/-- Among rules with `rest` behind them, an embedded snippet is written as `s` between `x` and `y`. -/
def Embeds (rules : List Rule) (rest x s y : Text) : Prop :=
  ∃ before name after, rules = before ++ .embed name :: after ∧
    written before = x ∧ (Rule.embed name).written = s ∧ written after ++ rest = y

theorem embeds_concat {rule : Rule} {rest : Text} :
    Embeds (rules ++ [rule]) rest x s y ↔
      Embeds rules (rule.written ++ rest) x s y ∨
        ∃ name, rule = .embed name ∧ written rules = x ∧ (Rule.embed name).written = s ∧ rest = y := by
  constructor
  · rintro ⟨before, name, after, hrules, hx, hs, hy⟩
    rcases List.eq_nil_or_concat' after with rfl | ⟨after, last, rfl⟩
    · obtain ⟨rfl, hlast⟩ := List.append_inj' hrules rfl
      have hrule : rule = .embed name := List.head_eq_of_cons_eq hlast
      exact .inr ⟨name, hrule, hx, hs, by simpa using hy⟩
    · rw [← List.cons_append, ← List.append_assoc] at hrules
      obtain ⟨hinit, hlast⟩ := List.append_inj' hrules rfl
      have hrule : rule = last := List.head_eq_of_cons_eq hlast
      subst hrule
      refine .inl ⟨before, name, after, hinit, hx, hs, ?_⟩
      rw [← hy, written_append]
      simp
  · rintro (⟨before, name, after, rfl, hx, hs, hy⟩ | ⟨name, rfl, hx, hs, hy⟩)
    · refine ⟨before, name, after ++ [rule], by simp, hx, hs, ?_⟩
      rw [← hy, written_append]
      simp
    · exact ⟨rules, name, [], rfl, hx, hs, hy⟩

theorem embeds_concat_text {rest : Text} :
    Embeds (rules ++ [.text t]) rest x s y ↔ Embeds rules (t ++ rest) x s y := by
  rw [embeds_concat]
  constructor
  · rintro (h | ⟨name, h, -⟩)
    · exact h
    · cases h
  · exact .inl

theorem embeds_addText {rest : Text} :
    Embeds (addText t rules).reverse rest x s y ↔ Embeds rules.reverse (t ++ rest) x s y := by
  cases rules with
  | nil =>
    show Embeds ([] ++ [.text t]) rest x s y ↔ _
    exact embeds_concat_text
  | cons rule rules =>
    cases rule with
    | text u =>
      rw [addText, List.reverse_cons, List.reverse_cons, embeds_concat_text, embeds_concat_text,
        List.append_assoc]
    | embed name =>
      rw [addText, List.reverse_cons, embeds_concat_text]
      intro u rules' h
      cases h

/-! ### Runs of opening braces -/

def openRun (x : Text) : Nat := (x.rtakeWhile (· = '{')).length

theorem openRun_brace (x : Text) : openRun (x ++ ['{']) = openRun x + 1 := by
  rw [openRun, List.rtakeWhile_concat_pos _ _ _ (by simp), List.length_append]
  rfl

theorem openRun_of_ne (h : a ≠ '{') (x : Text) : openRun (x ++ [a]) = 0 := by
  rw [openRun, List.rtakeWhile_concat_neg _ _ _ (by simpa using h)]
  rfl

/-- Behind `x`, `s` is a word in double braces, of which the opening ones end a run of an even
number. -/
def Paired (x s : Text) : Prop :=
  ∃ name, IsWord name ∧ s = '{' :: '{' :: name ++ closing ∧ Even (openRun (x ++ ['{', '{']))

theorem even_openRun_braces : Even (openRun (x ++ ['{', '{'])) ↔ Even (openRun x) := by
  have hsplit : x ++ ['{', '{'] = (x ++ ['{']) ++ ['{'] := by simp
  rw [hsplit, openRun_brace, openRun_brace, Nat.even_add_one, Nat.even_add_one, not_not]

theorem Paired.even (h : Paired x s) : Even (openRun x) := by
  obtain ⟨-, -, -, heven⟩ := h
  exact even_openRun_braces.mp heven

theorem Paired.opens (h : Paired x s) (y : Text) : Opens (s ++ y) := by
  obtain ⟨name, -, rfl, -⟩ := h
  exact ⟨name ++ closing ++ y, by simp⟩

/-- Behind `p`, the text `t` is such a word `s` between others; `x` is all in front of it. -/
def PairedIn (p t x s y : Text) : Prop :=
  ∃ x', x = p ++ x' ∧ t = x' ++ s ++ y ∧ Paired x s

theorem not_pairedIn_nil : ¬ PairedIn p [] x s y := by
  rintro ⟨x', -, ht, h⟩
  obtain ⟨r, hr⟩ := h.opens y
  rw [List.append_assoc, ← hr] at ht
  simp at ht

theorem pairedIn_cons : PairedIn p (a :: u) x s y ↔
    (p = x ∧ a :: u = s ++ y ∧ Paired p s) ∨ PairedIn (p ++ [a]) u x s y := by
  constructor
  · rintro ⟨x', rfl, ht, h⟩
    cases x' with
    | nil =>
      rw [List.append_nil] at h ⊢
      exact .inl ⟨rfl, ht, h⟩
    | cons b x' =>
      simp only [List.cons_append, List.cons.injEq] at ht
      obtain ⟨rfl, ht⟩ := ht
      exact .inr ⟨x', by simp, ht, h⟩
  · rintro (⟨rfl, ht, h⟩ | ⟨x', rfl, rfl, h⟩)
    · exact ⟨[], by simp, ht, h⟩
    · exact ⟨a :: x', by simp, by simp, h⟩

theorem pairedIn_cons_of_not_opens (h : ¬ Opens (a :: u)) :
    PairedIn p (a :: u) x s y ↔ PairedIn (p ++ [a]) u x s y := by
  rw [pairedIn_cons, or_iff_right]
  rintro ⟨-, hu, hpaired⟩
  exact h (hu ▸ hpaired.opens y)

theorem pairedIn_append_of_not_mem (h : '{' ∉ z) :
    PairedIn p (z ++ u) x s y ↔ PairedIn (p ++ z) u x s y := by
  induction z generalizing p with
  | nil => rw [List.nil_append, List.append_nil]
  | cons a z ih =>
    obtain ⟨ha, hz⟩ := List.ne_and_not_mem_of_not_mem_cons h
    have hopens : ¬ Opens (a :: (z ++ u)) := by
      intro ho
      exact ha (List.cons_prefix_cons.mp ho).1
    rw [List.cons_append, pairedIn_cons_of_not_opens hopens, ih hz, List.append_assoc,
      List.singleton_append]

/-- Behind an even run, of two more braces only the first may start such a word. -/
theorem pairedIn_braces (hp : Even (openRun p)) :
    PairedIn p ('{' :: '{' :: u) x s y ↔
      (p = x ∧ '{' :: '{' :: u = s ++ y ∧ Paired p s) ∨ PairedIn (p ++ ['{', '{']) u x s y := by
  have hodd : ¬ Paired (p ++ ['{']) s := by
    intro h
    have heven := h.even
    rw [openRun_brace, Nat.even_add_one] at heven
    exact heven hp
  rw [pairedIn_cons, pairedIn_cons, or_iff_right (a := _ ∧ _ ∧ _) fun h => hodd h.2.2]
  simp

theorem pairedIn_of_embedAt?_none (hp : Even (openRun p)) (hu : embedAt? u = none) :
    PairedIn p ('{' :: '{' :: u) x s y ↔ PairedIn (p ++ ['{', '{']) u x s y := by
  rw [pairedIn_braces hp, or_iff_right]
  rintro ⟨-, hs, name, hname, rfl, -⟩
  have hsome : embedAt? u = some (name, y) :=
    embedAt?_eq_some_iff.mpr ⟨hname, by simpa using hs⟩
  rw [hu] at hsome
  cases hsome

theorem brace_not_mem_of_isWord {name : Text} (h : IsWord name) : '{' ∉ name ++ closing := by
  intro hm
  rcases List.mem_append.mp hm with hm | hm
  · simpa [TokenKind.ofChar?] using h.2 _ hm
  · simp [closing] at hm

theorem pairedIn_of_embedAt? {name : Text} (hp : Even (openRun p))
    (hu : embedAt? u = some (name, v)) :
    PairedIn p ('{' :: '{' :: u) x s y ↔
      (p = x ∧ (Rule.embed name).written = s ∧ v = y) ∨
        PairedIn (p ++ (Rule.embed name).written) v x s y := by
  obtain ⟨hname, rfl⟩ := embedAt?_eq_some_iff.mp hu
  have hrest : PairedIn (p ++ ['{', '{']) (name ++ closing ++ v) x s y ↔
      PairedIn (p ++ (Rule.embed name).written) v x s y := by
    rw [pairedIn_append_of_not_mem (brace_not_mem_of_isWord hname), List.append_assoc]
    rfl
  rw [pairedIn_braces hp, hrest]
  refine or_congr_left (and_congr_right fun _ => ?_)
  constructor
  · rintro ⟨hs, name', hname', rfl, -⟩
    have hsame : embedAt? (name ++ closing ++ v) = some (name', y) :=
      embedAt?_eq_some_iff.mpr ⟨hname', by simpa using hs⟩
    rw [hu] at hsame
    cases hsame
    exact ⟨rfl, rfl⟩
  · rintro ⟨rfl, rfl⟩
    exact ⟨by simp [Rule.written], name, hname, rfl, even_openRun_braces.mpr hp⟩

/-! ### The rules of a text -/

/-- Behind the rules so far, or in the rest of the text where braces are paired. -/
theorem embeds_rulesFrom (h : Even (openRun (written rules.reverse)) ∨ ¬ ['{'] <+: t) :
    Embeds (rulesFrom rules t).reverse [] x s y ↔
      Embeds rules.reverse t x s y ∨ PairedIn (written rules.reverse) t x s y := by
  induction rules, t using rulesFrom.induct with
  | case1 rules =>
    rw [rulesFrom_nil, or_iff_left not_pairedIn_nil]
  | case2 rules u name v hu ih =>
    have heven : Even (openRun (written rules.reverse)) := h.resolve_right fun hn => hn ⟨_, rfl⟩
    have hwritten : written (Rule.embed name :: rules).reverse =
        written rules.reverse ++ (Rule.embed name).written := by
      simp [written_append]
    have hlast : openRun (written (Rule.embed name :: rules).reverse) = 0 := by
      have hend : written rules.reverse ++ (Rule.embed name).written =
          (written rules.reverse ++ '{' :: '{' :: name ++ ['}']) ++ ['}'] := by
        simp [Rule.written, closing]
      rw [hwritten, hend]
      exact openRun_of_ne (by decide) _
    obtain ⟨-, hfound⟩ := embedAt?_eq_some_iff.mp hu
    have hrest : '{' :: '{' :: u = (Rule.embed name).written ++ v := by
      rw [hfound]
      simp [Rule.written]
    rw [rulesFrom_embed hu, ih (.inl (hlast ▸ Even.zero)), hwritten, List.reverse_cons,
      embeds_concat, pairedIn_of_embedAt? heven hu, hrest]
    simp only [Rule.embed.injEq, exists_eq_left', or_assoc]
  | case3 rules u hu ih =>
    have heven : Even (openRun (written rules.reverse)) := h.resolve_right fun hn => hn ⟨_, rfl⟩
    have hrun : Even (openRun (written (addText ['{', '{'] rules).reverse)) := by
      rw [written_addText]
      exact even_openRun_braces.mpr heven
    rw [rulesFrom_braces hu, ih (.inl hrun), embeds_addText, written_addText,
      pairedIn_of_embedAt?_none heven hu]
    rfl
  | case4 rules a u hne ih =>
    have hopens : ¬ Opens (a :: u) := not_opens_cons hne
    have hrun : Even (openRun (written (addText [a] rules).reverse)) ∨ ¬ ['{'] <+: u := by
      rw [written_addText]
      by_cases ha : a = '{'
      · right
        rintro ⟨w, rfl⟩
        exact hopens ⟨w, by rw [ha]; rfl⟩
      · left
        rw [openRun_of_ne ha]
        exact Even.zero
    rw [rulesFrom_cons hopens, ih hrun, embeds_addText, written_addText,
      pairedIn_cons_of_not_opens hopens]
    rfl

/-- A text embeds a snippet exactly where a word stands in paired braces. -/
theorem embeds_rulesOf (b : Text) :
    Embeds (rulesOf b) [] x s y ↔ b = x ++ s ++ y ∧ Paired x s := by
  have hnone : ¬ Embeds ([] : List Rule).reverse b x s y := by
    rintro ⟨before, name, after, hnil, -⟩
    simp at hnil
  rw [rulesOf, embeds_rulesFrom (.inl Even.zero), or_iff_right hnone]
  constructor
  · rintro ⟨x', rfl, hb, hpaired⟩
    exact ⟨hb, hpaired⟩
  · rintro ⟨hb, hpaired⟩
    exact ⟨x, rfl, hb, hpaired⟩

/-- No text among the rules is empty or stands next to another one. -/
structure Merged (rules : List Rule) : Prop where
  text_ne_nil : .text [] ∉ rules
  apart : rules.IsChain fun r r' => ¬ (r.IsText ∧ r'.IsText)

theorem Merged.addText (h : Merged rules) (ht : t ≠ []) : Merged (addText t rules) := by
  have hne : ∀ u : Text, .text [] ≠ Rule.text (u ++ t) := by
    intro u hu
    exact ht (List.append_eq_nil_iff.mp (Rule.text.inj hu).symm).2
  cases rules with
  | nil => exact ⟨by simpa [Document.addText] using hne [], by simp [Document.addText]⟩
  | cons rule rules =>
    obtain ⟨hnil, hchain⟩ := h
    obtain ⟨hrule, hrules⟩ := List.ne_and_not_mem_of_not_mem_cons hnil
    cases rule with
    | text u =>
      refine ⟨List.not_mem_cons_of_ne_of_not_mem (hne u) hrules, ?_⟩
      exact List.isChain_cons.mpr (List.isChain_cons.mp hchain)
    | embed name =>
      refine ⟨List.not_mem_cons_of_ne_of_not_mem (hne []) hnil, ?_⟩
      exact List.isChain_cons_cons.mpr ⟨fun hboth => hboth.2, hchain⟩

theorem Merged.embed (h : Merged rules) (name : Text) : Merged (.embed name :: rules) := by
  refine ⟨List.not_mem_cons_of_ne_of_not_mem (by simp) h.text_ne_nil, ?_⟩
  exact List.isChain_cons.mpr ⟨fun r _ hboth => hboth.1, h.apart⟩

theorem Merged.reverse (h : Merged rules) : Merged rules.reverse := by
  refine ⟨fun hm => h.text_ne_nil (List.mem_reverse.mp hm), ?_⟩
  rw [List.isChain_reverse]
  exact h.apart.imp fun r r' hr hboth => hr hboth.symm

theorem merged_rulesFrom (h : Merged rules) (t : Text) : Merged (rulesFrom rules t) := by
  induction rules, t using rulesFrom.induct with
  | case1 rules =>
    rw [rulesFrom_nil]
    exact h
  | case2 rules u name v hu ih =>
    rw [rulesFrom_embed hu]
    exact ih (h.embed name)
  | case3 rules u hu ih =>
    rw [rulesFrom_braces hu]
    exact ih (h.addText (by simp))
  | case4 rules a u hne ih =>
    rw [rulesFrom_cons (not_opens_cons hne)]
    exact ih (h.addText (by simp))

theorem merged_rulesOf (b : Text) : Merged (rulesOf b) :=
  (merged_rulesFrom ⟨by simp, by simp⟩ b).reverse

/-! ### Bodies -/

/-- From `c` on, the first newline directly in front of closing braces is `nl`, at `e`. -/
structure FirstClose (t : Text) (c e : Nat) (nl : Text) : Prop where
  le : c ≤ e
  newline : nl ∈ TokenKind.newline.spellings
  closes : nl ++ closing <+: t.drop e
  first : ∀ k, c ≤ k → k < e → ¬ LineClose (t.drop k)

theorem exists_firstClose {c : Nat} (h : ∃ e, c ≤ e ∧ LineClose (t.drop e)) :
    ∃ e nl, FirstClose t c e nl := by
  classical
  obtain ⟨hle, nl, hnl, hcloses⟩ := Nat.find_spec h
  refine ⟨Nat.find h, nl, hle, hnl, hcloses, ?_⟩
  intro k hk hlt hclose
  exact Nat.find_min h hlt ⟨hk, hclose⟩

/-- The source of a body, and what stands behind the braces that close it. -/
theorem FirstClose.split {c e : Nat} {nl : Text} (h : FirstClose t c e nl) :
    (t.drop c).take (e - c) ++ (nl ++ closing ++ t.drop (e + (nl ++ closing).length)) = t.drop c ∧
      ((t.drop c).take (e - c)).length = e - c := by
  obtain ⟨r, hr⟩ := h.closes
  have hrest : t.drop (e + (nl ++ closing).length) = r := by
    rw [← List.drop_drop, ← hr, List.drop_left]
  have hdrop : (t.drop c).drop (e - c) = t.drop e := by
    rw [List.drop_drop, Nat.add_sub_cancel' h.le]
  have hlen : e ≤ t.length := by
    by_contra hlt
    rw [List.drop_eq_nil_of_le (by omega)] at hr
    simp [closing] at hr
  constructor
  · rw [hrest, hr, ← hdrop, List.take_append_drop]
  · rw [List.length_take, List.length_drop]
    omega

theorem FirstClose.clear {c e : Nat} {nl : Text} (h : FirstClose t c e nl) :
    ClearOf LineClose ((t.drop c).take (e - c))
      (nl ++ closing ++ t.drop (e + (nl ++ closing).length)) := by
  intro q hq hne hclose
  obtain ⟨z, hz⟩ := hq
  obtain ⟨hsplit, hlen⟩ := h.split
  have hpos : 0 < q.length := List.length_pos_iff.mpr hne
  have hz' : z.length + q.length = e - c := by rw [← hlen, ← hz, List.length_append]
  refine h.first (c + z.length) (by omega) (by omega) ?_
  rw [← List.drop_drop, ← hsplit, ← hz, List.append_assoc, List.drop_left]
  exact hclose

theorem FirstClose.body_eq {c e : Nat} {nl : Text} (h : FirstClose t c e nl) :
    body (Cursor.ofText t c) = (.ok (rulesOf ((t.drop c).take (e - c))),
      Cursor.ofText t (e + (nl ++ closing).length
        + (frontNewline (t.drop (e + (nl ++ closing).length))).length)) := by
  obtain ⟨hsplit, hlen⟩ := h.split
  have hbody := body_of_lineClose (c := Cursor.ofText t c) h.newline hsplit.symm h.clear
  rw [hbody, Cursor.skip_ofText, hlen, @List.length_append _ (nl ++ closing), ← Nat.add_assoc,
    ← Nat.add_assoc, Nat.add_sub_cancel' h.le]

theorem body_of_no_lineClose {c : Nat} (hc : c ≤ t.length)
    (h : ¬ ∃ e, c ≤ e ∧ LineClose (t.drop e)) :
    body (Cursor.ofText t c) = (.error (.unclosed t.length), Cursor.ofText t t.length) := by
  have hclear : ClearOf LineClose (Cursor.ofText t c).rest [] := by
    intro q hq _ hclose
    obtain ⟨z, hz⟩ := hq
    refine h ⟨c + z.length, Nat.le_add_right c _, ?_⟩
    have hdrop : t.drop (c + z.length) = q := by
      rw [← List.drop_drop, ← @List.drop_left _ z q, hz]
      rfl
    rw [hdrop]
    simpa using hclose
  have hend : c + (Cursor.ofText t c).rest.length = t.length := by
    simp only [Cursor.ofText, List.length_drop]
    omega
  have hbody := body_of_clear hclear
  rw [Cursor.skip_ofText] at hbody
  rw [hbody, hend]
  show (Except.error (Fault.unclosed (c + (Cursor.ofText t c).rest.length)), _) = _
  rw [hend]

/-- A body can be read from a place exactly if a newline in front of closing braces follows. The first
one closes it, with a newline behind the braces if there is one, and the rules are written as the text
in front of it: no text among them is empty or stands next to another one, and snippets are embedded
exactly where a word stands in paired braces. -/
theorem body_outcome (t : Text) {c : Nat} (hc : c ≤ t.length) :
    ((∃ rules d, body (Cursor.ofText t c) = (.ok rules, d)) ↔
        ∃ e, c ≤ e ∧ LineClose (t.drop e)) ∧
      ((¬ ∃ e, c ≤ e ∧ LineClose (t.drop e)) →
        body (Cursor.ofText t c) = (.error (.unclosed t.length), Cursor.ofText t t.length)) ∧
      ∀ e nl, FirstClose t c e nl → ∃ rules,
        body (Cursor.ofText t c) = (.ok rules, Cursor.ofText t (e + (nl ++ closing).length
          + (frontNewline (t.drop (e + (nl ++ closing).length))).length)) ∧
        written rules = (t.drop c).take (e - c) ∧ Merged rules ∧
        ∀ x s y, (t.drop c).take (e - c) = x ++ s ++ y → (Embeds rules [] x s y ↔ Paired x s) := by
  refine ⟨⟨?_, ?_⟩, body_of_no_lineClose hc, ?_⟩
  · rintro ⟨rules, d, hbody⟩
    by_contra h
    rw [body_of_no_lineClose hc h] at hbody
    cases hbody
  · intro h
    obtain ⟨e, nl, hfirst⟩ := exists_firstClose h
    exact ⟨_, _, hfirst.body_eq⟩
  · intro e nl hfirst
    refine ⟨_, hfirst.body_eq, written_rulesOf _, merged_rulesOf _, ?_⟩
    intro x s y hsplit
    rw [embeds_rulesOf]
    exact and_iff_right hsplit

def bracesBody : Text :=
  '{' :: written [.embed ['a'], .embed ['b'], .text ['{', '{'], .embed ['c']]

def bracesText : Text := '#' :: bracesBody ++ ['\r', '\n'] ++ closing ++ ['\n', '#']

theorem firstClose_bracesText : FirstClose bracesText 1 19 ['\r', '\n'] := by
  refine ⟨by decide, by decide, by decide, ?_⟩
  have hnone : ∀ k < 19, ¬ ∃ nl ∈ TokenKind.newline.spellings,
      nl ++ closing <+: bracesText.drop k := by decide
  intro k _ hk
  exact hnone k hk

theorem body_bracesText : ∃ rules,
    body (Cursor.ofText bracesText 1) = (.ok rules, Cursor.ofText bracesText 24) ∧
      written rules = bracesBody ∧ Merged rules ∧
      ¬ Embeds rules [] ['{'] (Rule.embed ['a']).written (bracesBody.drop 6) ∧
      Embeds rules [] (bracesBody.take 6) (Rule.embed ['b']).written (bracesBody.drop 11) ∧
      Embeds rules [] (bracesBody.take 13) (Rule.embed ['c']).written [] := by
  obtain ⟨-, -, hfirst⟩ := body_outcome bracesText (c := 1) (by decide)
  obtain ⟨rules, hbody, hwritten, hmerged, hembeds⟩ := hfirst 19 _ firstClose_bracesText
  refine ⟨rules, hbody, hwritten, hmerged, ?_, ?_, ?_⟩
  · intro h
    have heven := ((hembeds _ _ _ (by decide)).mp h).even
    exact absurd heven (by decide)
  · exact (hembeds _ _ _ (by decide)).mpr ⟨['b'], by decide, by decide, by decide⟩
  · exact (hembeds _ _ _ (by decide)).mpr ⟨['c'], by decide, by decide, by decide⟩

end Document

end Weave
