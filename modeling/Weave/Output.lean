import Weave.Html
import Weave.Latex
import Weave.Path
import Weave.Template
import Weave.Text.Quoted

/-!
# Output

A document is written block by block and filled into a template, together with its title.
-/

set_option autoImplicit false

namespace Weave

/-- Why a document cannot be written. -/
inductive OutputFault where
  | foreignBlock (t : Text)
  | noTemplate (path : Path)
  | badTemplate
deriving DecidableEq, Repr, Inhabited

def OutputFault.message : OutputFault → Text
  | .foreignBlock t => "Don't know how to write a ".toList ++ t
  | .noTemplate p =>
    if p.name = ['.', '.'] then p.name
    else Text.quote p.name ++ " not found in search path: ".toList ++ Text.quote p.parent.text
  | .badTemplate => []

namespace Output

def separator : OutputKind → Text
  | .html => ['\n']
  | .latex => ['\n', '\n']

def templateName (kind : OutputKind) : Text := "template".toList ++ kind.extension

def htmlTemplate : List String :=
  [ "<!DOCTYPE html>",
    "<html lang=\"en\">",
    "<head>",
    "  <meta charset=\"utf-8\">",
    "  <title>\x7b\x7b title \x7d\x7d</title>",
    "  <style>",
    "    body \x7b max-width: 52em; margin: 2em auto; padding: 0 1em; font-family: Georgia, serif; "
      ++ "line-height: 1.5; \x7d",
    "    pre \x7b background: #f6f6f4; padding: 0.75em 1em; overflow-x: auto; \x7d",
    "    pre.output \x7b background: #eef3f8; border-left: 3px solid #8aa9c7; \x7d",
    "    table \x7b border-collapse: collapse; \x7d",
    "    th, td \x7b border: 1px solid #ccc; padding: 0.25em 0.6em; \x7d",
    "  </style>",
    "</head>",
    "<body>",
    "\x7b% if title %\x7d",
    "<h1 class=\"document-title\">\x7b\x7b title \x7d\x7d</h1>",
    "\x7b% endif %\x7d",
    "\x7b\x7b content \x7d\x7d",
    "</body>",
    "</html>" ]

def latexTemplate : List String :=
  [ "\\documentclass[11pt]\x7barticle\x7d",
    "\\usepackage[T1]\x7bfontenc\x7d",
    "\\usepackage[utf8]\x7binputenc\x7d",
    "\\usepackage\x7blmodern\x7d",
    "\\usepackage[margin=2.5cm]\x7bgeometry\x7d",
    "",
    "\\BLOCK\x7bif title\x7d",
    "\\title\x7b\\VAR\x7btitle\x7d\x7d",
    "\\date\x7b\x7d",
    "\\BLOCK\x7bendif\x7d",
    "",
    "\\begin\x7bdocument\x7d",
    "\\BLOCK\x7bif title\x7d",
    "\\maketitle",
    "\\BLOCK\x7bendif\x7d",
    "",
    "\\VAR\x7bcontent\x7d",
    "",
    "\\end\x7bdocument\x7d" ]

def defaultTemplate (kind : OutputKind) : Text :=
  let lines := match kind with
    | .html => htmlTemplate
    | .latex => latexTemplate
  lines.flatMap fun l => l.toList ++ ['\n']

def delimiters : OutputKind → Delimiters
  | .html => .doubled
  | .latex => .commands

def escape : OutputKind → Text → Text
  | .html => Html.escape
  | .latex => Latex.escape

/-- What the names in a template stand for. -/
def namedTexts (kind : OutputKind) (title content name : Text) : Option Text :=
  if name = "title".toList then some (escape kind title)
  else if name = "content".toList then some content
  else none

end Output

/-- What is asked of others when a document is written: to turn Markdown into HTML, and to fill a
template, if its tags are right. Faults are counted as `fault` has it. -/
structure Writer (ε : Type) where
  toHtml : Text → Except ε Text
  fill : Delimiters → (Text → Option Text) → Text → Option Text
  fault : OutputFault → ε

namespace Writer

variable {ε : Type} (W : Writer ε)

def block (kind : OutputKind) (b : Block) : Except ε Text :=
  match kind with
  | .html => Html.blockWith W.toHtml (fun t => W.fault (.foreignBlock t)) b
  | .latex => (Latex.block b).mapError fun t => W.fault (.foreignBlock t)

def blocks (kind : OutputKind) (bs : List Block) : Except ε Text := do
  let texts ← bs.mapM (W.block kind)
  pure (Text.join (Output.separator kind) (texts.filter fun t => !t.isEmpty))

/-- Fills content and title into a template. -/
def filled (kind : OutputKind) (title content template : Text) : Except ε Text :=
  match W.fill (Output.delimiters kind) (Output.namedTexts kind title content) template with
  | some t => .ok t
  | none => .error (W.fault .badTemplate)

/-- A whole document, where `load` finds the text of a template. -/
def document (load : Path → Option Text) (kind : OutputKind) (template : Option Path) (title : Text)
    (bs : List Block) : Except ε Text := do
  let content ← W.blocks kind bs
  let source ← match template with
    | none => pure (Output.defaultTemplate kind)
    | some p => match load p with
      | some t => pure t
      | none => .error (W.fault (.noTemplate p))
  W.filled kind title content source

end Writer

namespace Output

/-- Writes without the help of others. -/
def writer : Writer OutputFault where
  toHtml t := .ok (Markdown.toHtml t)
  fill := Template.render
  fault := id

def block (kind : OutputKind) (b : Block) : Except OutputFault Text := writer.block kind b

def blocks (kind : OutputKind) (bs : List Block) : Except OutputFault Text := writer.blocks kind bs

def document (load : Path → Option Text) (kind : OutputKind) (template : Option Path) (title : Text)
    (bs : List Block) : Except OutputFault Text := writer.document load kind template title bs

end Output

end Weave
