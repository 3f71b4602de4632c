import Weave.Text

/-!
# Escaped HTML

Markup characters and both quotation marks are written as entities, so that an escaped text can stand
inside an element and inside a quoted attribute.
-/

set_option autoImplicit false

namespace Weave.Html

def escapeChar (c : Char) : Text :=
  if c = '&' then "&amp;".toList
  else if c = '<' then "&lt;".toList
  else if c = '>' then "&gt;".toList
  else if c = '"' then "&quot;".toList
  else if c = '\'' then "&#x27;".toList
  else [c]

def escape (t : Text) : Text := t.flatMap escapeChar

end Weave.Html
