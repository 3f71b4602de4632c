import Weave.Text

/-!
# Paths

A path is a list of names behind a root, which is empty for a relative path. Empty names and the
single dot drop out; the double dot stays until the path is resolved.
-/

set_option autoImplicit false

namespace Weave

structure Path where
  /-- Nothing, one slash, or two. -/
  root : Text := []
  names : List Text := []
deriving DecidableEq, Repr, Inhabited

namespace Path

def ofText (t : Text) : Path :=
  let slashes := (t.takeWhile (· == '/')).length
  let root := if slashes = 2 then ['/', '/'] else List.replicate (min slashes 1) '/'
  ⟨root, (Text.splitOn '/' t).filter fun n => !n.isEmpty && n ≠ ['.']⟩

def isAbsolute (p : Path) : Bool := !p.root.isEmpty

def text (p : Path) : Text :=
  if p.root.isEmpty && p.names.isEmpty then ['.'] else p.root ++ Text.join ['/'] p.names

def parent (p : Path) : Path := { p with names := p.names.dropLast }

def name (p : Path) : Text := p.names.getLast?.getD []

/-- The last name cut in front of its last dot, unless that is its first or its last character. -/
def stemAndSuffix (p : Path) : Text × Text :=
  let behind := (p.name.reverse.takeWhile (· ≠ '.')).length
  let front := p.name.length - behind
  if behind = 0 || front ≤ 1 then (p.name, [])
  else (p.name.take (front - 1), p.name.drop (front - 1))

def stem (p : Path) : Text := p.stemAndSuffix.1

def suffix (p : Path) : Text := p.stemAndSuffix.2

/-- The second path as seen from the first. -/
def join (p q : Path) : Path := if q.isAbsolute then q else { p with names := p.names ++ q.names }

/-- Steps up at every double dot; above the root there is only the root. -/
def collapse (names : List Text) : List Text :=
  names.foldl (fun acc n => if n = ['.', '.'] then acc.dropLast else acc ++ [n]) []

/-- The names from the root on, where a relative path starts at the directory `here`. -/
def resolve (here : List Text) (p : Path) : List Text :=
  collapse (if p.isAbsolute then p.names else here ++ p.names)

def ofNames (names : List Text) : Path := ⟨['/'], names⟩

end Path

end Weave
