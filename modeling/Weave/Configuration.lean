import Weave.Header
import Weave.World

/-!
# Configurations

How a document is built: the output format, the template and the title, what is evaluated and with
which options, and what becomes of failures and of lists of records.
-/

set_option autoImplicit false

namespace Weave

structure Configuration where
  outputKind : OutputKind := .html
  /-- The template of the output format serves where none is given. -/
  template : Option Path := none
  title : Option Text := none
  evaluate : Bool := true
  interpreterOptions : List Text := []
  /-- A document with a failed snippet is not written. -/
  failOnError : Bool := false
  /-- Lists of records are shown as tables. -/
  tabulateRecords : Bool := false
deriving DecidableEq, Inhabited

/-- Why a file is no configuration. -/
inductive ConfigurationFault where
  | yaml
  | issues (is : List Schema.Issue)
  | notMapping (file : Path) (className : Text)
  | raised (e : Exception)
deriving Inhabited

def ConfigurationFault.message : ConfigurationFault → Text
  | .notMapping file name =>
    "Expected a mapping at the top of ".toList ++ file.text ++ ", but found ".toList
      ++ Value.classText name
  | .raised e => e.message
  | _ => []

namespace Configuration

def ofEntries (es : List (Value × Value)) : Schema.Checked Configuration :=
  let field := fun {α : Type} (names : List String) (default : α) (check : Value → Schema.Checked α) =>
    Schema.field es (names.map String.toList) default check
  let outputKind :=
    field ["output-kind", "output_kind"] .html (Schema.choice OutputKind.ofName?)
  let template := field ["template"] none (Schema.optional Schema.path)
  let title := field ["title"] none (Schema.optional Schema.text)
  let evaluate := field ["evaluate"] true Schema.bool
  let options := field ["interpreter-options", "interpreter_options"] [] (Schema.list Schema.text)
  let failOnError := field ["fail-on-error", "fail_on_error"] false Schema.bool
  let tabulateRecords := field ["tabulate-records", "tabulate_records"] false Schema.bool
  let make := fun kind (template : Option Text) => Configuration.mk kind (template.map Path.ofText)
  Schema.andThen (Schema.andThen (Schema.andThen (Schema.andThen (Schema.andThen (Schema.andThen
    (outputKind.map make) template) title) evaluate) options) failOnError) tabulateRecords

/-- A relative template is one beside the configuration file. -/
def besideFile (file : Path) (c : Configuration) : Configuration :=
  { c with template := c.template.map file.parent.join }

end Configuration

end Weave
