import Weave.Text

/-!
# Escaped LaTeX

Characters with a meaning of their own are written as control symbols, or as named commands closed by
an empty group where there is no such symbol.
-/

set_option autoImplicit false

namespace Weave.Latex

/-- A named command followed by an empty group. -/
def command (name : String) : Text := '\\' :: name.toList ++ ['{', '}']

def escapeChar (c : Char) : Text :=
  if c = '\\' then command "textbackslash"
  else if c = '~' then command "textasciitilde"
  else if c = '^' then command "textasciicircum"
  else if c = '&' || c = '%' || c = '$' || c = '#' || c = '_' || c = '{' || c = '}' then ['\\', c]
  else [c]

def escape (t : Text) : Text := t.flatMap escapeChar

def apply (name : String) (argument : Text) : Text := '\\' :: name.toList ++ '{' :: argument ++ ['}']

/-- Text between the commands that begin and end an environment, on lines of its own. -/
def environment (name : String) (body : Text) : Text :=
  apply "begin" name.toList ++ '\n' :: body ++ '\n' :: apply "end" name.toList

end Weave.Latex
