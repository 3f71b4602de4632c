import Weave.Block
import Weave.Latex.Prose

/-!
# Blocks in LaTeX
-/

set_option autoImplicit false

namespace Weave.Latex

def row (cells : List Text) : Text :=
  Text.join " & ".toList (cells.map escape) ++ " \\\\\n".toList

def rule : Text := "\\hline\n".toList

/-- A table with one left-aligned column for each header. -/
def table (headers : List Text) (rows : List (List Text)) : Text :=
  let columns := List.replicate headers.length 'l'
  apply "begin" "tabular".toList ++ '{' :: columns ++ ['}', '\n'] ++ rule ++ row headers ++ rule
    ++ rows.flatMap row ++ rule ++ apply "end" "tabular".toList

/-- A block in LaTeX; a block of another kind cannot be written. -/
def block : Block → Except Text Text
  | .prose t => .ok (prose t)
  | .code t _ => .ok (environment "verbatim" t)
  | .paragraph t => .ok (escape t)
  | .raw t none => .ok t
  | .raw t (some k) => .ok (if k = OutputKind.latex.name then t else [])
  | .table hs rs => .ok (table hs rs)
  | .foreign t => .error t

end Weave.Latex
