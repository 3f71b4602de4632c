import Weave.Dictionary
import Weave.Header

/-!
# Snippets

A snippet is composed of its own text and of the snippets it embeds. Expanding a snippet replaces
every embedded one by its own expansion; a snippet must not be reached from itself, and one that is
not defined stands for nothing.
-/

set_option autoImplicit false

namespace Weave

/-- A piece of a snippet. -/
inductive Rule where
  | text (t : Text)
  | embed (name : Text)
deriving DecidableEq, Repr, Inhabited

structure Snippet where
  name : Text
  header : Header
  rules : List Rule
deriving DecidableEq, Repr, Inhabited

abbrev Definitions := Dictionary Snippet

/-- The undefined names met on the way, and the text or the path that leads back to itself. -/
structure Expansion where
  missing : List Text
  outcome : Except (List Text) Text

namespace Expansion

def done (t : Text) : Expansion := ⟨[], .ok t⟩

def cycle (path : List Text) : Expansion := ⟨[], .error path⟩

/-- Goes on with `next` unless the first expansion ended in a cycle. -/
def append (e next : Expansion) : Expansion :=
  match e.outcome with
  | .error path => ⟨e.missing, .error path⟩
  | .ok t => ⟨e.missing ++ next.missing, next.outcome.map (t ++ ·)⟩

end Expansion

namespace Snippet

/-- The expansions of the rules one after the other, where `expand` expands an embedded snippet. -/
def expandRules (defs : Definitions) (expand : Snippet → Expansion) : List Rule → Expansion
  | [] => .done []
  | .text t :: rules => (Expansion.done t).append (expandRules defs expand rules)
  | .embed name :: rules =>
    match defs.get? name with
    | some s => (expand s).append (expandRules defs expand rules)
    | none => (Expansion.mk [name] (.ok [])).append (expandRules defs expand rules)

/-- Expands a snippet that is reached along a path of names, at most `depth` snippets deep. A path
longer than the number of names has come to one of them twice. -/
def expandFrom (defs : Definitions) : Nat → List Text → Snippet → Expansion
  | 0, path, s => .cycle (path ++ [s.name])
  | depth + 1, path, s =>
    if s.name ∈ path then .cycle (path ++ [s.name])
    else expandRules defs (expandFrom defs depth (path ++ [s.name])) s.rules

def ownNames (defs : Definitions) (s : Snippet) : List Text :=
  (s.name :: defs.entries.map fun e => e.2.name).eraseDups

def expand (defs : Definitions) (s : Snippet) : Expansion :=
  expandFrom defs (ownNames defs s).length [] s

def cycleMessage (path : List Text) : Text :=
  "Snippet embeds itself: ".toList ++ Text.join " -> ".toList path

def missingNotice (name : Text) : Text :=
  "Substituting empty block for undefined snippet ".toList ++ name

end Snippet

end Weave
