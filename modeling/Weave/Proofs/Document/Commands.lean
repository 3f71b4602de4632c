import Weave.Proofs.Document.Headers

/-!
# Reading commands

A command starts with its word and the name of a snippet. A show and the embedding of an outcome end
right behind the name; a definition goes on with a header and the rules of the snippet.
-/

set_option autoImplicit false

namespace Weave

def CommandWord.written : CommandWord → Text
  | .define => "define".toList
  | .show => "show".toList
  | .embed .output => "output".toList
  | .embed .itValue => "it".toList
  | .embed .value => "value".toList

theorem CommandWord.ofWord?_written (k : CommandWord) : ofWord? k.written = some k := by
  cases k with
  | define => rfl
  | «show» => rfl
  | embed kind => cases kind <;> rfl

theorem CommandWord.isWord_written (k : CommandWord) : IsWord k.written := by
  cases k with
  | define => decide
  | «show» => decide
  | embed kind => cases kind <;> decide

/-- `nl` is a newline that ends the line of `x`: no carriage return at the end of `x` belongs to
it. -/
def EndsLine (x nl : Text) : Prop :=
  nl ∈ TokenKind.newline.spellings ∧ (nl = ['\n'] → ¬ ['\r'] <:+ x)

theorem EndsLine.boundary {x nl : Text} (h : EndsLine x nl) (y : Text) : Boundary x (nl ++ y) := by
  obtain ⟨hnl, hcr⟩ := h
  rcases TokenKind.mem_newline.mp hnl with rfl | rfl
  · exact .inr ⟨rfl, fun hx => hcr rfl hx.1⟩
  · refine .inr ⟨rfl, ?_⟩
    rintro ⟨-, hy⟩
    simp at hy

namespace Document

variable {c : Cursor}

def opened (k : CommandWord) (name : Text) : Text := ['{', '{'] ++ k.written ++ [' '] ++ name

theorem boundary_space (x y : Text) : Boundary x ([' '] ++ y) := by
  refine .inr ⟨rfl, ?_⟩
  rintro ⟨-, h⟩
  simp at h

theorem expect_space {y : Text} (h : c.rest = [' '] ++ y) :
    expect .space c = (.ok c.peek, c.skip [' '].length) := by
  have hd : [' '] ∈ TokenKind.space.spellings := by decide
  rw [expect, if_pos (by rw [Cursor.peek_delimiter hd h]), Cursor.advance_delimiter hd h]

/-- A command is read up to its name first. -/
theorem command_of_opened (k : CommandWord) {name y : Text} (hname : IsWord name)
    (hb : Boundary name y) (h : c.rest = opened k name ++ y) :
    command c = behindName k name (c.skip (opened k name).length) := by
  simp only [opened, List.append_assoc] at h
  have h₁ := Cursor.rest_skip_of_append h
  have h₂ := Cursor.rest_skip_of_append h₁
  have h₃ := Cursor.rest_skip_of_append h₂
  obtain ⟨ts, hts, -⟩ := expectAll_of_spell (by decide : ['{', '{'] ∈ TokenKind.spell openKinds) h
  have hk : commandWord (c.skip (['{', '{'] : Text).length)
      = (.ok k, (c.skip (['{', '{'] : Text).length).skip k.written.length) := by
    rw [commandWord, Action.bind_ok (word_of_isWord k.isWord_written h₁ (boundary_space _ _)),
      k.ofWord?_written]
    rfl
  rw [command, openCommand, Action.bind_ok hts, Action.bind_ok hk, Action.bind_ok (expect_space h₂),
    Action.bind_ok (word_of_isWord hname h₃ hb), Cursor.skip_skip, Cursor.skip_skip,
    Cursor.skip_skip]
  simp only [opened, List.length_append, Nat.add_assoc]

theorem not_closing_prefix_of_newline {nl u : Text} (hnl : nl ∈ TokenKind.newline.spellings) :
    ¬ closing <+: nl ++ u := by
  intro h
  have hnil := closing_prefix_of_newline (q := []) hnl h
  simp [closing] at hnil

/-- A definition with a header and a body: the command up to the body. -/
def openedBody (name nl₁ header nl₂ : Text) : Text :=
  opened .define name ++ (nl₁ ++ header) ++ (separator ++ nl₂)

/-- A definition reads the body behind its header, if that is a header. -/
theorem command_of_openedBody {name nl₁ h nl₂ t : Text} {header : Header} (hname : IsWord name)
    (hnl₁ : EndsLine name nl₁) (hh : CompleteLines h) (hnl₂ : nl₂ ∈ TokenKind.newline.spellings)
    (hsep : ¬ separator <:+: h) (hclose : ¬ HasClosingLine h)
    (hread : Header.read (nl₁ ++ h) = .ok header) (hc : c.rest = openedBody name nl₁ h nl₂ ++ t) :
    command c = (do
      let rules ← body
      pure (.define ⟨name, header, rules⟩) : Reading _)
        (c.skip (openedBody name nl₁ h nl₂).length) := by
  simp only [openedBody, List.append_assoc] at hc
  have h₁ := Cursor.rest_skip_of_append hc
  have hrest : (c.skip (opened .define name).length).rest
      = (nl₁ ++ h) ++ (separator ++ (nl₂ ++ t)) := by
    rw [h₁, List.append_assoc]
  have h₂ := Cursor.rest_skip_of_append hrest
  rw [← List.append_assoc] at h₂
  have hclear := (clearOf_headerBreaks_iff (w := nl₂ ++ t) hnl₁.1 hh).mpr ⟨hsep, hclose⟩
  have hbreak : TokenKind.Breaks headerBreaks (separator ++ (nl₂ ++ t)) :=
    (breaks_headerBreaks _).mpr (.inl (List.prefix_append separator _))
  have hnot : ¬ closing <+: (c.skip (opened .define name).length).rest := by
    rw [h₁]
    exact not_closing_prefix_of_newline hnl₁.1
  have hok : readHeader (nl₁ ++ h) ((c.skip (opened .define name).length).skip (nl₁ ++ h).length)
      = (.ok header, (c.skip (opened .define name).length).skip (nl₁ ++ h).length) := by
    unfold readHeader
    rw [hread]
  rw [command_of_opened .define hname (hnl₁.boundary _) hc, behindName,
    definition_of_clear hnot hrest hclear (.inr hbreak), Action.bind_ok hok, Action.bind_apply,
    Action.bind_apply, rulesBehindHeader_of_separator hnl₂ h₂, Cursor.skip_skip, Cursor.skip_skip]
  simp only [openedBody, List.length_append, Nat.add_assoc]

end Document

end Weave
