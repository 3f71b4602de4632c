import Weave.Schema
import Weave.Exception

/-!
# Snippet headers

What the header of a snippet says about it: its language, whether it is evaluated, and whether it is
an expression or a sequence of statements.
-/

set_option autoImplicit false

namespace Weave

inductive Language where
  | python
  | shell
  | text
  | toml
  | yaml
  | json
deriving DecidableEq, Repr, Inhabited

namespace Language

def name : Language → Text
  | .python => "python".toList
  | .shell => "shell".toList
  | .text => "text".toList
  | .toml => "toml".toList
  | .yaml => "yaml".toList
  | .json => "json".toList

def all : List Language := [.python, .shell, .text, .toml, .yaml, .json]

def ofName? (t : Text) : Option Language := all.find? fun l => l.name = t

end Language

structure Header where
  lang : Language := .python
  evaluate : Bool := true
  expression : Bool := false
deriving DecidableEq, Repr, Inhabited

/-- Why a text is no header. -/
inductive HeaderFault where
  | yaml
  | issues (is : List Schema.Issue)
  | raised (e : Exception)
deriving Inhabited

namespace Header

/-- The snippets that an evaluator is asked to run. -/
def shouldEvaluate (h : Header) : Bool := h.evaluate && h.lang = .python

def written (h : Header) : Text :=
  "Header(lang=".toList ++ h.lang.name ++ ", evaluate=".toList ++ Value.boolText h.evaluate
    ++ ", is_expression=".toList ++ Value.boolText h.expression ++ [')']

def ofEntries (es : List (Value × Value)) : Schema.Checked Header :=
  let lang := Schema.field es ["lang".toList] .python (Schema.choice Language.ofName?)
  let evaluate := Schema.field es ["evaluate".toList] true Schema.bool
  let expression :=
    Schema.field es ["expression".toList, "is_expression".toList] false Schema.bool
  Schema.andThen (Schema.andThen (lang.map Header.mk) evaluate) expression

def ofValue : Value → Schema.Checked Header
  | .dict es => ofEntries es
  | _ => Schema.issue .mappingType

end Header

end Weave
