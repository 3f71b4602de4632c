import Mathlib.Data.List.Find
import Weave.Proofs.Document.Scan

/-!
# Taking tokens

What the basic readers take from a text that is spelled out: sequences of delimiters, words, and the
close of a command with the newlines that belong to it.
-/

set_option autoImplicit false

namespace Weave

def IsWord (w : Text) : Prop := w ≠ [] ∧ ∀ a ∈ w, TokenKind.ofChar? a = none

instance (w : Text) : Decidable (IsWord w) :=
  haveI : Decidable (∀ a ∈ w, TokenKind.ofChar? a = none) := List.decidableBAll _ w
  instDecidableAnd

namespace Token

theorem ofChar?_of_mem_wordAt {u : Text} : ∀ a ∈ wordAt u, TokenKind.ofChar? a = none := by
  induction u with
  | nil => simp [wordAt]
  | cons c r ih =>
    rw [wordAt]
    split
    · simp
    · next h =>
      intro a ha
      rcases List.mem_cons.mp ha with rfl | ha
      · simp only [Bool.not_eq_true, Option.isSome_eq_false_iff, Option.isNone_iff_eq_none] at h
        unfold TokenKind.delimiter? at h
        split at h
        · next he => simp at he
        · simp at h
        · next he =>
          obtain ⟨rfl, rfl⟩ := List.cons.inj he
          simpa using h
      · exact ih a ha

theorem delimiter?_eq_none {a : Char} {w y : Text} (hw : ∀ b ∈ a :: w, TokenKind.ofChar? b = none)
    (h : Boundary (a :: w) y) : TokenKind.delimiter? (a :: w ++ y) = none := by
  have ha := hw a List.mem_cons_self
  cases hd : TokenKind.delimiter? (a :: w ++ y) with
  | none => rfl
  | some kd =>
    obtain ⟨k, d⟩ := kd
    exfalso
    obtain ⟨hmem, hpre⟩ := TokenKind.mem_spellings_of_delimiter? hd
    cases k <;> simp [TokenKind.spellings] at hmem
    case newline =>
      rcases hmem with rfl | rfl
      · rw [List.cons_append, List.cons_prefix_cons] at hpre
        obtain ⟨rfl, -⟩ := hpre
        simp [TokenKind.ofChar?] at ha
      · rw [List.cons_append, List.cons_prefix_cons] at hpre
        obtain ⟨rfl, hpre⟩ := hpre
        cases w with
        | nil =>
          rcases h with rfl | ⟨-, hr⟩
          · simp at hpre
          · exact hr ⟨List.suffix_rfl, hpre⟩
        | cons b w =>
          rw [List.cons_append, List.cons_prefix_cons] at hpre
          have hb := hw b (by simp)
          rw [← hpre.1] at hb
          simp [TokenKind.ofChar?] at hb
    all_goals
      subst hmem
      rw [List.cons_append, List.cons_prefix_cons] at hpre
      rw [← hpre.1] at ha
      simp [TokenKind.ofChar?] at ha

theorem wordAt_append {w y : Text} (hw : ∀ b ∈ w, TokenKind.ofChar? b = none) (h : Boundary w y) :
    wordAt (w ++ y) = w := by
  induction w with
  | nil => exact List.prefix_nil.mp h.wordAt_prefix
  | cons a w ih =>
    have hd := delimiter?_eq_none hw h
    rw [List.cons_append] at hd
    rw [List.cons_append, wordAt, hd, ih (fun b hb => hw b (List.mem_cons_of_mem _ hb)) h.tail]
    simp

end Token

namespace Document

variable {c : Cursor}

theorem expectAll_of_spell {ks : List TokenKind} {d r : Text} (hd : d ∈ TokenKind.spell ks)
    (h : c.rest = d ++ r) : ∃ ts, expectAll ks c = (.ok ts, c.skip d.length) ∧ textOf ts = d := by
  induction ks generalizing c d with
  | nil =>
    obtain rfl := List.mem_singleton.mp hd
    exact ⟨[], by simp [expectAll, Action.pure_apply], rfl⟩
  | cons k ks ih =>
    simp only [TokenKind.spell, List.mem_flatMap, List.mem_map] at hd
    obtain ⟨d₁, hd₁, d₂, hd₂, rfl⟩ := hd
    rw [List.append_assoc] at h
    have hp := Cursor.peek_delimiter hd₁ h
    obtain ⟨ts, hts, ht⟩ := ih hd₂ (Cursor.rest_skip_of_append h)
    have hexp : expect k c = (.ok c.peek, c.skip d₁.length) := by
      rw [expect, if_pos (by rw [hp]), Cursor.advance_delimiter hd₁ h]
    refine ⟨c.peek :: ts, ?_, by rw [textOf_cons, ht, hp]⟩
    rw [expectAll, Action.bind_ok hexp, Action.bind_ok hts, Action.pure_apply, Cursor.skip_skip,
      List.length_append]

theorem peek_word {w y : Text} (hw : IsWord w) (h : c.rest = w ++ y) (hb : Boundary w y) :
    c.peek = ⟨.word, w, c.offset, c.offset + w.length⟩ := by
  obtain ⟨a, v, rfl⟩ := List.exists_cons_of_ne_nil hw.1
  have hne : c.rest ≠ [] := by simp [h]
  have hd := Token.delimiter?_eq_none hw.2 hb
  rw [Cursor.peek_eq_front hne, h]
  simp only [Token.front, List.cons_append] at hd ⊢
  rw [hd]
  simp only
  rw [← List.cons_append, Token.wordAt_append hw.2 hb]

theorem advance_of_word {w y : Text} (hw : IsWord w) (h : c.rest = w ++ y) (hb : Boundary w y) :
    c.advance = c.skip w.length := by
  rw [Cursor.advance_eq_skip (by simp [h, hw.1]), peek_word hw h hb]

theorem word_of_isWord {w y : Text} (hw : IsWord w) (h : c.rest = w ++ y) (hb : Boundary w y) :
    word c = (.ok w, c.skip w.length) := by
  have hexp : expect .word c = (.ok c.peek, c.skip w.length) := by
    rw [expect, if_pos (by rw [peek_word hw h hb]), advance_of_word hw h hb]
  rw [word, Action.bind_ok hexp, Action.pure_apply, peek_word hw h hb]

/-! ### The close of a command -/

def closing : Text := ['}', '}']

def frontNewline : Text → Text
  | '\n' :: _ => ['\n']
  | '\r' :: '\n' :: _ => ['\r', '\n']
  | _ => []

theorem frontNewline_prefix (u : Text) : frontNewline u <+: u := by
  unfold frontNewline
  split
  · next r => exact ⟨r, rfl⟩
  · next r => exact ⟨r, rfl⟩
  · exact List.nil_prefix

theorem frontNewline_append {nl : Text} (h : nl ∈ TokenKind.newline.spellings) (r : Text) :
    frontNewline (nl ++ r) = nl := by
  rcases TokenKind.mem_newline.mp h with rfl | rfl <;> rfl

theorem frontNewline_eq_nil {u : Text} (h : ∀ nl ∈ TokenKind.newline.spellings, ¬ nl <+: u) :
    frontNewline u = [] := by
  unfold frontNewline
  split
  · next r => exact absurd ⟨r, rfl⟩ (h ['\n'] (by simp [TokenKind.spellings]))
  · next r => exact absurd ⟨r, rfl⟩ (h ['\r', '\n'] (by simp [TokenKind.spellings]))
  · rfl

theorem frontNewline_cases (u : Text) :
    frontNewline u ∈ TokenKind.newline.spellings ∨
      frontNewline u = [] ∧ ∀ nl ∈ TokenKind.newline.spellings, ¬ nl <+: u := by
  by_cases h : ∃ nl ∈ TokenKind.newline.spellings, nl <+: u
  · obtain ⟨nl, hnl, r, rfl⟩ := h
    rw [frontNewline_append hnl]
    exact .inl hnl
  · have hn : ∀ nl ∈ TokenKind.newline.spellings, ¬ nl <+: u := fun nl hnl hp => h ⟨nl, hnl, hp⟩
    exact .inr ⟨frontNewline_eq_nil hn, hn⟩

theorem closings_isDelimiter : ∀ ks ∈ closings, ∀ k ∈ ks, k.isDelimiter = true := by decide

theorem closeCommand_of_find {ks : List TokenKind} {d r : Text}
    (hf : closings.find? (fun ks => c.sees ks) = some ks) (hd : d ∈ TokenKind.spell ks)
    (h : c.rest = d ++ r) : ∃ ts, closeCommand c = (.ok ts, c.skip d.length) := by
  obtain ⟨ts, hts, -⟩ := expectAll_of_spell hd h
  refine ⟨ts, ?_⟩
  unfold closeCommand
  rw [hf]
  exact hts

/-- Which form a command is closed in depends on the text alone. -/
theorem find_closings :
    closings.find? (fun ks => c.sees ks)
      = closings.find? fun ks => (TokenKind.spell ks).any fun d => d.isPrefixOf c.rest := by
  have hsees : ∀ ks ∈ closings,
      c.sees ks = (TokenKind.spell ks).any fun d => d.isPrefixOf c.rest := by
    intro ks hks
    rw [Bool.eq_iff_iff, Cursor.sees_iff_spell (closings_isDelimiter ks hks)]
    simp
  exact List.find?_congr hsees

/-- Closing braces are taken with the newline in front of them and with the one behind them. -/
theorem closeCommand_of_closing {lead r : Text}
    (hl : lead = [] ∨ lead ∈ TokenKind.newline.spellings) (h : c.rest = lead ++ closing ++ r) :
    ∃ ts, closeCommand c = (.ok ts, c.skip (lead ++ closing ++ frontNewline r).length) := by
  obtain ⟨ks, hf, hd⟩ : ∃ ks, closings.find? (fun ks => c.sees ks) = some ks ∧
      lead ++ closing ++ frontNewline r ∈ TokenKind.spell ks := by
    rw [find_closings, h]
    rw [TokenKind.mem_newline] at hl
    rcases frontNewline_cases r with hr | ⟨hr, hno⟩
    · obtain ⟨r', hr'⟩ := frontNewline_prefix r
      rw [← hr', frontNewline_append hr]
      rcases TokenKind.mem_newline.mp hr with hr | hr <;> rw [hr] <;> rcases hl with rfl | rfl | rfl <;>
        simp [closings, TokenKind.spell, TokenKind.spellings, closeKinds, closing]
    · simp only [TokenKind.spellings, List.mem_cons, List.not_mem_nil, or_false, forall_eq_or_imp,
        forall_eq] at hno
      rw [hr]
      rcases hl with rfl | rfl | rfl <;>
        simp [closings, TokenKind.spell, TokenKind.spellings, closeKinds, closing, hno]
  obtain ⟨r', hr'⟩ := frontNewline_prefix r
  exact closeCommand_of_find (r := r') hf hd (by rw [h, List.append_assoc _ _ r', hr'])

theorem closeCommand_of_rest_nil (h : c.rest = []) :
    closeCommand c = (.error (.unclosed c.offset), c) := by
  have hf : closings.find? (fun ks => c.sees ks) = none := by
    rw [find_closings, h]
    simp [closings, TokenKind.spell, TokenKind.spellings, closeKinds]
  unfold closeCommand
  rw [hf]

end Document

end Weave
