import Weave.Document.Body
import Weave.Libraries

/-!
# Sections of a document

A document is text with commands in pairs of braces between it.
-/

set_option autoImplicit false

namespace Weave.Document

/-- The rules behind a header: none if the definition ends there, else those of a body behind a line
of hash marks. -/
def rulesBehindHeader : Reading (List Rule) := fun c =>
  if c.sees lineCloseKinds then
    (do
      let _ ← closeCommand
      pure [] : Reading _) c
  else
    (do
      let _ ← expectAll (separatorKinds ++ [.newline])
      body : Reading _) c

def commandWord : Reading CommandWord := do
  let w ← word
  match CommandWord.ofWord? w with
  | some k => pure k
  | none => Action.fail (.unknownCommand w)

theorem keeps_rulesBehindHeader : Keeps rulesBehindHeader := by
  intro c a d h
  unfold rulesBehindHeader at h
  split at h
  · exact (keeps_closeCommand.bind fun _ => keeps_pure _) _ _ _ h
  · exact ((keeps_expectAll _).bind fun _ => keeps_bodyFrom []) _ _ _ h

theorem keeps_commandWord : Keeps commandWord := by
  refine keeps_word.bind fun w => ?_
  split
  · exact keeps_pure _
  · exact keeps_fail _

variable [Libraries]

def readHeader (t : Text) : Reading Header := fun c =>
  match Header.read t with
  | .ok h => (.ok h, c)
  | .error f => (.error (.header f), c)

/-- A definition behind its name: nothing at all, a header alone, or a header and a body. -/
def definition (name : Text) : Reading Section := fun c =>
  if c.sees closeKinds then
    (do
      let _ ← closeCommand
      pure (.define ⟨name, {}, []⟩) : Reading _) c
  else
    (do
      let ts ← readUntilAny [separatorKinds, lineCloseKinds]
      let header ← readHeader (textOf ts)
      let rules ← rulesBehindHeader
      pure (.define ⟨name, header, rules⟩) : Reading _) c

/-- A command behind the name in it. -/
def behindName (k : CommandWord) (name : Text) : Reading Section :=
  match k with
  | .define => definition name
  | .show => do
    let _ ← closeCommand
    pure (.show name)
  | .embed kind => do
    let _ ← closeCommand
    pure (.embed name kind)

/-- A command from its opening braces on. -/
def command : Reading Section := do
  let _ ← openCommand
  let k ← commandWord
  let _ ← expect .space
  let name ← word
  behindName k name

theorem keeps_readHeader (t : Text) : Keeps (readHeader t) := by
  intro c a d h
  unfold readHeader at h
  split at h
  · simp only [Prod.mk.injEq] at h
    obtain ⟨_, rfl⟩ := h
    exact Nat.le_refl _
  · simp at h

theorem keeps_definition (name : Text) : Keeps (definition name) := by
  intro c a d h
  unfold definition at h
  split at h
  · exact (keeps_closeCommand.bind fun _ => keeps_pure _) _ _ _ h
  · exact ((keeps_readUntilAny _).bind fun _ => (keeps_readHeader _).bind fun _ =>
      keeps_rulesBehindHeader.bind fun _ => keeps_pure _) _ _ _ h

theorem keeps_behindName (k : CommandWord) (name : Text) : Keeps (behindName k name) := by
  cases k with
  | define => exact keeps_definition name
  | «show» => exact keeps_closeCommand.bind fun _ => keeps_pure _
  | embed kind => exact keeps_closeCommand.bind fun _ => keeps_pure _

theorem shortens_command : Shortens command :=
  shortens_openCommand.bind fun _ => keeps_commandWord.bind fun k =>
    (keeps_expect _).bind fun _ => keeps_word.bind fun name => keeps_behindName k name

/-- What follows the text in front of a command: the command, or the end. The document goes on if the
second part is true. -/
def sectionsStep (texts : List Section) : Reading (List Section × Bool) := fun c =>
  if c.peek.kind = .finish then (.ok (texts, false), c)
  else
    (do
      let s ← command
      pure (texts ++ [s], true) : Reading _) c

/-- One pass: the text in front of the next command, if there is any, and the command, if there is
one. -/
def sectionsPass : Reading (List Section × Bool) := do
  let before ← readUntilCommand
  sectionsStep (if before.isEmpty then [] else [.text (textOf before)])

theorem sectionsStep_shortens {texts ss : List Section} {c d : Cursor}
    (h : sectionsStep texts c = (.ok (ss, true), d)) : d.rest.length < c.rest.length := by
  unfold sectionsStep at h
  split at h
  · simp at h
  · exact shortens_command.bind (fun _ => keeps_pure _) _ _ _ h

theorem sectionsPass_shortens {ss : List Section} {c d : Cursor}
    (h : sectionsPass c = (.ok (ss, true), d)) : d.rest.length < c.rest.length := by
  obtain ⟨_, m, h₁, h₂⟩ := Action.bind_eq_ok h
  exact Nat.lt_of_lt_of_le (sectionsStep_shortens h₂) (keeps_readUntilAny _ _ _ _ h₁)

def sectionsFrom (c : Cursor) : Except Fault (List Section) :=
  match _h : sectionsPass c with
  | (.error e, _) => .error e
  | (.ok (ss, false), _) => .ok ss
  | (.ok (ss, true), d) => (sectionsFrom d).map (ss ++ ·)
termination_by c.rest.length
decreasing_by exact sectionsPass_shortens _h

/-- The sections of a document. -/
def sections (t : Text) : Except Fault (List Section) := sectionsFrom (Cursor.start t)

end Weave.Document
