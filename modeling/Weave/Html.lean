import Weave.Block
import Weave.Html.Escape
import Weave.Markdown

/-!
# Blocks in HTML
-/

set_option autoImplicit false

namespace Weave.Html

/-- Text between the tags of an element. -/
def enclose (tag : String) (inner : Text) : Text :=
  '<' :: tag.toList ++ '>' :: inner ++ "</".toList ++ tag.toList ++ ['>']

/-- A listing with its language, or the output of a snippet. -/
def code (text lang : Text) : Text :=
  let opening :=
    if lang.isEmpty then "<pre class=\"output\"><code>".toList
    else "<pre><code class=\"language-".toList ++ escape lang ++ "\">".toList
  opening ++ escape text ++ "</code></pre>".toList

def cells (tag : String) (texts : List Text) : Text :=
  enclose "tr" (texts.flatMap fun t => enclose tag (escape t))

def table (headers : List Text) (rows : List (List Text)) : Text :=
  "<table>\n<thead>\n".toList ++ cells "th" headers ++ "\n</thead>\n<tbody>\n".toList
    ++ (rows.flatMap fun r => cells "td" r ++ ['\n']) ++ "</tbody>\n</table>".toList

/-- A block in HTML, where Markdown is written as `prose` has it; a block of another kind cannot be
written. -/
def blockWith {ε : Type} (prose : Text → Except ε Text) (foreign : Text → ε) : Block → Except ε Text
  | .prose t => prose t
  | .code t lang => .ok (code t lang)
  | .paragraph t => .ok (enclose "p" (escape t))
  | .raw t none => .ok t
  | .raw t (some k) => .ok (if k = OutputKind.html.name then t else [])
  | .table hs rs => .ok (table hs rs)
  | .foreign t => .error (foreign t)

def block : Block → Except Text Text := blockWith (fun t => .ok (Markdown.toHtml t)) id

end Weave.Html
