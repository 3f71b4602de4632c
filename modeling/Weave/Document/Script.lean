import Weave.Document.Fault

/-!
# Literate scripts

A script is code with prose in the comments that start with `#~`. Each run of code is a chunk: a
snippet that is shown where it stands. A comment that holds only a directive shows what the chunk in
front of it has left.
-/

set_option autoImplicit false

namespace Weave.Document.Script

def proseMarker : Text := "#~".toList

/-- The directives and what they show. -/
def directive? (t : Text) : Option EmbedKind :=
  if t = "include-output".toList then some .output
  else if t = "include-it".toList then some .itValue
  else none

/-- A line of prose starts behind the marker and one space. -/
def prose? (line : Text) : Option Text :=
  (Text.after? proseMarker line).map fun t => match t with
    | ' ' :: r => r
    | r => r

def chunkName (n : Nat) : Text := "chunk_".toList ++ Text.ofNat n

/-- A script in the middle of its lines: the sections so far, the lines of prose and of code that are
held back, and the number of chunks. -/
structure Draft where
  sections : List Section := []
  prose : List Text := []
  code : List Text := []
  chunks : Nat := 0
deriving DecidableEq, Repr

namespace Draft

variable (d : Draft)

def flushProse : Draft :=
  if d.prose.isEmpty then d
  else
    { d with
      sections := d.sections ++ [.text (Text.join ['\n'] d.prose ++ ['\n'])]
      prose := [] }

/-- Code that is blank throughout is no chunk. -/
def flushCode : Draft :=
  let code := Text.trimNewlines (Text.join ['\n'] d.code)
  if Text.isBlankText code then { d with code := [] }
  else
    let name := chunkName (d.chunks + 1)
    { d with
      sections := d.sections ++ [.define ⟨name, {}, [.text code]⟩, .show name]
      code := []
      chunks := d.chunks + 1 }

/-- Adds a line that is not prose. A blank one belongs to the code in front of it, and separates
paragraphs of prose. -/
def addCode (line : Text) : Draft :=
  let blank := Text.isBlankText line
  let d := if !d.prose.isEmpty && !blank then d.flushProse else d
  if !blank || !d.code.isEmpty then { d with code := d.code ++ [line] }
  else if !d.prose.isEmpty then { d with prose := d.prose ++ [[]] }
  else d

/-- Adds a line of prose, or what its directive shows. -/
def addProse (prose : Text) : Except Fault Draft :=
  let d := d.flushCode
  match directive? (Text.trim prose) with
  | none => .ok { d with prose := d.prose ++ [prose] }
  | some kind =>
    if d.chunks = 0 then .error (.orphan (Text.trim prose))
    else
      let d := d.flushProse
      .ok { d with sections := d.sections ++ [.embed (chunkName d.chunks) kind] }

def addLine (line : Text) : Except Fault Draft :=
  match prose? line with
  | none => .ok (d.addCode line)
  | some prose => d.addProse prose

end Draft

/-- The sections of a script. -/
def sections (t : Text) : Except Fault (List Section) :=
  ((Text.lines t).foldlM Draft.addLine {}).map fun d => d.flushCode.flushProse.sections

end Weave.Document.Script
