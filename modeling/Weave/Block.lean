import Weave.Text

/-!
# Blocks

The pieces of a rendered document, before they are written in an output format.
-/

set_option autoImplicit false

namespace Weave

/-- The output formats. -/
inductive OutputKind where
  | html
  | latex
deriving DecidableEq, Repr, Inhabited

namespace OutputKind

def name : OutputKind → Text
  | .html => "html".toList
  | .latex => "latex".toList

def extension : OutputKind → Text
  | .html => ".html".toList
  | .latex => ".tex".toList

def all : List OutputKind := [.html, .latex]

def ofName? (t : Text) : Option OutputKind := all.find? fun k => k.name = t

end OutputKind

inductive Block where
  /-- Markdown prose, converted by the writer. -/
  | prose (text : Text)
  /-- A listing; output of a snippet has no language. -/
  | code (text : Text) (lang : Text)
  | paragraph (text : Text)
  /-- Text for the writer of one format, or of every format when `kind` is absent. -/
  | raw (text : Text) (kind : Option Text)
  | table (headers : List Text) (rows : List (List Text))
  /-- Something that is not a block and that no writer accepts. -/
  | foreign (text : Text)
deriving DecidableEq, Repr, Inhabited

end Weave
