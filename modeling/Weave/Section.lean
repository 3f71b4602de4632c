import Weave.Outcome
import Weave.Snippet

/-!
# Sections

A document is a list of sections: text, definitions of snippets, and the places where a snippet's
code or the outcome of its evaluation is shown.
-/

set_option autoImplicit false

namespace Weave

inductive Section where
  | text (t : Text)
  | define (s : Snippet)
  | show (name : Text)
  | embed (name : Text) (kind : EmbedKind)
  /-- A command that no renderer knows. -/
  | foreign (command : Text)
deriving DecidableEq, Repr, Inhabited

/-- The commands by the word that starts them. -/
inductive CommandWord where
  | define
  | show
  | embed (kind : EmbedKind)
deriving DecidableEq, Repr, Inhabited

namespace CommandWord

/-- Every command with its word, in the order in which messages list them. -/
def table : List (Text × CommandWord) :=
  [ ("define".toList, .define), ("show".toList, .show), ("output".toList, .embed .output),
    ("it".toList, .embed .itValue), ("value".toList, .embed .value) ]

def ofWord? (t : Text) : Option CommandWord :=
  (table.find? fun e => e.1 = t).map Prod.snd

end CommandWord

end Weave
