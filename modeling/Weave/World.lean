import Weave.Action
import Weave.Console
import Weave.Exception
import Weave.Path

/-!
# The world of a process

Files and directories by their names from the root on, the directory the process is in, the
directories it looks for modules in, and what it has printed.
-/

set_option autoImplicit false

namespace Weave

structure World where
  here : List Text := []
  files : List (List Text × Text) := []
  /-- Directories that need not hold any file. -/
  directories : List (List Text) := []
  searchPath : List Text := []
  console : Console := {}
  /-- What a program has looked for and is not known, by the names from the root on and with the double
  dots among them. -/
  wanted : List (List Text) := []
deriving Inhabited

namespace World

def file? (w : World) (names : List Text) : Option Text :=
  (w.files.find? fun f => f.1 = names).map Prod.snd

def isDirectory (w : World) (names : List Text) : Bool :=
  names.isPrefixOf w.here || w.directories.any (fun d => names.isPrefixOf d)
    || w.files.any fun f => names.isPrefixOf f.1.dropLast

/-- The names from the root on, as if every name but a double dot led further down. -/
def absolute (w : World) (p : Path) : List Text := p.resolve w.here

/-- Notes which of some files or directories are not known. -/
def want (w : World) (paths : List Path) : World :=
  let unknown := paths.filter fun p => (w.file? (w.absolute p)).isNone
  { w with wanted := w.wanted ++ unknown.map fun p => if p.isAbsolute then p.names else w.here ++ p.names }

end World

/-! ### Refused paths -/

/-- Why a path cannot be used. -/
inductive PathFault where
  | missing
  | notDirectory
  | isDirectory
  | exists
  | nameTooLong
  | nullCharacter
deriving DecidableEq, Repr, Inhabited

namespace PathFault

def systemError (kind : String) (number : Nat) (reason : String) (subject : Text) : Exception :=
  ⟨kind.toList, [.int number, .str reason.toList, .str subject]⟩

/-- The exception for a path, which it calls `shown`. -/
def exception (shown : Text) : PathFault → Exception
  | .missing => systemError "FileNotFoundError" 2 "No such file or directory" shown
  | .notDirectory => systemError "NotADirectoryError" 20 "Not a directory" shown
  | .isDirectory => systemError "IsADirectoryError" 21 "Is a directory" shown
  | .exists => systemError "FileExistsError" 17 "File exists" shown
  | .nameTooLong => systemError "OSError" 36 "File name too long" shown
  | .nullCharacter => .ofMessage "ValueError" "embedded null byte".toList

end PathFault

namespace World

def longestName : Nat := 255
def longestPath : Nat := 4095

/-- Follows names from a directory. Each name is looked up in a directory that exists; whether the last
one does is left open. -/
def follow (w : World) (place : List Text) : List Text → Except PathFault (List Text)
  | [] => .ok place
  | n :: ns =>
    if !w.isDirectory place then .error (if (w.file? place).isSome then .notDirectory else .missing)
    else if Text.byteCount n > longestName then .error .nameTooLong
    else if n = ['.', '.'] then w.follow place.dropLast ns
    else if n = ['.'] then w.follow place ns
    else w.follow (place ++ [n]) ns

/-- Where a path leads that is written as `t` and has these names. -/
def locateAs (w : World) (t : Text) (names : List Text) : Except PathFault (List Text) :=
  if t.contains (Char.ofNat 0) then .error .nullCharacter
  else if t.isEmpty then .error .missing
  else if Text.byteCount t > longestPath then .error .nameTooLong
  else w.follow (if t.head? = some '/' then [] else w.here) names

def locate (w : World) (p : Path) : Except PathFault (List Text) := w.locateAs p.text p.names

/-- Where a text leads as it stands: with a slash at its end it has to be a directory. -/
def locateText (w : World) (t : Text) : Except PathFault (List Text) :=
  w.locateAs t (((Text.splitOn '/' t).filter fun n => !n.isEmpty)
    ++ if t.getLast? = some '/' then [['.']] else [])

/-- Whether something is there. Only what is missing or below a file is taken not to be. -/
def exists_ (w : World) (p : Path) : Except Exception Bool :=
  match w.locate p with
  | .ok names => .ok ((w.file? names).isSome || w.isDirectory names)
  | .error .nameTooLong => .error (PathFault.nameTooLong.exception p.text)
  | .error _ => .ok false

/-- The text of the file at a place, with every line end as a newline. -/
def textAt (w : World) (names : List Text) : Except PathFault Text :=
  match w.file? names with
  | some t => .ok (Text.unifyNewlines t)
  | none => .error (if w.isDirectory names then .isDirectory else .missing)

def read (w : World) (p : Path) : Except Exception Text :=
  ((w.locate p).bind w.textAt).mapError (PathFault.exception p.text)

def readText (w : World) (t : Text) : Except Exception Text :=
  ((w.locateText t).bind w.textAt).mapError (PathFault.exception t)

def setFile (names : List Text) (t : Text) : List (List Text × Text) → List (List Text × Text)
  | [] => [(names, t)]
  | f :: fs => if f.1 = names then (names, t) :: fs else f :: setFile names t fs

def makeDirectory (w : World) (p : Path) : Except PathFault World :=
  (w.locate p).bind fun names =>
    if w.isDirectory names then .ok w
    else if (w.file? names).isSome then .error .exists
    else .ok { w with directories := w.directories ++ [names] }

/-- Makes the directory of the first `n` names of a path and, where they are missing, those in front
of it. -/
def makeThrough (root : Text) (names : List Text) : Nat → Action World Exception Unit
  | 0 =>
    Action.tryChange fun w =>
      (w.makeDirectory ⟨root, []⟩).mapError (PathFault.exception (Path.text ⟨root, []⟩))
  | n + 1 => fun w =>
    let p : Path := ⟨root, names.take (n + 1)⟩
    match w.makeDirectory p with
    | .ok w => (.ok (), w)
    | .error .missing =>
      (do
        makeThrough root names n
        Action.tryChange fun w => (w.makeDirectory p).mapError (PathFault.exception p.text)) w
    | .error f => (.error (f.exception p.text), w)

/-- Makes a directory and all those it lies in. Those that were made before one could not be made
stay. -/
def makeDirectories (p : Path) : Action World Exception Unit :=
  makeThrough p.root p.names p.names.length

def write (w : World) (p : Path) (t : Text) : Except Exception World :=
  ((w.locate p).bind fun names =>
    if w.isDirectory names then .error .isDirectory
    else .ok { w with files := setFile names t w.files }).mapError (PathFault.exception p.text)

/-- Goes to a place, if it is a directory. -/
def enterAt (w : World) (names : List Text) : Except PathFault World :=
  if w.isDirectory names then .ok { w with here := names }
  else .error (if (w.file? names).isSome then .notDirectory else .missing)

/-- Goes to the directory that a text leads to. -/
def enterText (w : World) (t : Text) : Except Exception World :=
  ((w.locateText t).bind w.enterAt).mapError (PathFault.exception t)

/-- Goes to the directory with these names from the root on. -/
def enter (w : World) (names : List Text) : Except Exception World :=
  ((w.locate (Path.ofNames names)).bind w.enterAt).mapError
    (PathFault.exception (Path.ofNames names).text)

def print (w : World) (line : Text) : World := { w with console := w.console.printLine line }

/-! ### Visiting a directory -/

def nameOf (names : List Text) : Text := (Path.ofNames names).text

/-- Goes to a directory, in which modules are then looked for first. -/
def visit (names : List Text) (w : World) : Except Exception World :=
  (w.enter names).map fun w => { w with searchPath := nameOf names :: w.searchPath }

/-- Strikes a visited directory off the search path, where it comes first, and goes back. A directory
that is no longer on the path cannot be left. -/
def depart (names previous : List Text) (w : World) : Except Exception Unit × World :=
  if nameOf names ∈ w.searchPath then
    let w := { w with searchPath := w.searchPath.erase (nameOf names) }
    match w.enter previous with
    | .ok w => (.ok (), w)
    | .error e => (.error e, w)
  else (.error (.ofMessage "ValueError" "list.remove(x): x not in list".toList), w)

end World

end Weave
