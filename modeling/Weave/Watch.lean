import Weave.Build

/-!
# Watching documents

A watched document is built again whenever it is modified. Faults of a document do not end the watch,
because the next change may mend them.
-/

set_option autoImplicit false

namespace Weave

/-- A file or a directory has been modified. -/
structure Modification where
  path : Text
  isDirectory : Bool := false
deriving DecidableEq, Repr, Inhabited

namespace Modification

def written (m : Modification) : Text :=
  "FileModifiedEvent(src_path=".toList ++ Text.quote m.path
    ++ ", dest_path='', event_type='modified', is_directory=".toList
    ++ Value.boolText m.isDirectory ++ ", is_synthetic=False)".toList

end Modification

namespace Exception

/-- Values and states that a program has not expected, as opposed to mistakes in the program. -/
def isPassing (e : Exception) : Bool := isKind "ValueError" e.kind || isKind "RuntimeError" e.kind

end Exception

namespace BuildFault

def isPassing : BuildFault → Bool
  | .document (.header .yaml) => false
  | .document (.header (.raised e)) => e.isPassing
  | .document _ => true
  | .session (.options (.argument (.ambiguous _))) => false
  | .session (.options _) => true
  | .session (.halted (.raised e)) => e.isPassing
  | .session (.halted (.failed ..)) => false
  | .rendering (.raised (.raised e)) => e.isPassing
  | .rendering (.raised (.unpresentable (.raised e))) => e.isPassing
  | .rendering (.raised (.unpresentable (.notAnOutcome _))) => false
  | .rendering _ => true
  | .failedSnippets .. => true
  | .output (.foreignBlock _) => true
  | .output _ => false
  | .raised e => e.isPassing

/-- What is said about a fault that passes. -/
def passing? (f : BuildFault) : Option Text := if f.isPassing then some f.message else none

end BuildFault

/-- What is watched. -/
structure Watch where
  /-- The watched files by their names from the root on. -/
  files : List (List Text)
deriving DecidableEq, Repr, Inhabited

namespace Watch

variable {σ ε : Type}

def ofPaths (w : World) (paths : List Path) : Watch := ⟨paths.map w.absolute⟩

def concerns (watch : Watch) (w : World) (m : Modification) : Bool :=
  !m.isDirectory && w.absolute (Path.ofText m.path) ∈ watch.files

/-- Builds again, where `rebuild` acts on a state that holds a world. A fault that `passing?` has
something to say about does not end the watch. -/
def onModified (watch : Watch) (passing? : ε → Option Text) (rebuild : Action (World × σ) ε Unit)
    (m : Modification) : Action (World × σ) ε Unit := fun s =>
  if watch.concerns s.1 m then
    let line := "Rendering in response to ".toList ++ m.written ++ "...".toList
    match rebuild (s.1.print line, s.2) with
    | (.ok _, t) => (.ok (), t)
    | (.error f, t) =>
      match passing? f with
      | some reason => (.ok (), t.1.print ("Failed to render: ".toList ++ reason), t.2)
      | none => (.error f, t)
  else (.ok (), s)

def banner (paths : List Path) : Text :=
  "Watching ".toList ++ Text.join ", ".toList (paths.map Path.text) ++ " for changes...".toList

end Watch

end Weave
