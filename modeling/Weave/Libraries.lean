import Weave.Configuration
import Weave.Markdown
import Weave.Template
import Weave.Yaml.Datum

/-!
# Libraries

YAML is loaded, data is checked against the fields that are asked for, Markdown is turned into HTML and
templates are filled by libraries of others. Whatever is built on them takes them as they are. There are
libraries at hand that do all this.
-/

set_option autoImplicit false

namespace Weave

/-- What others do for this library. -/
class Libraries where
  /-- Loads what a text stands for. -/
  loadYaml : Text → Yaml.Scan Value
  checkHeader : Value → Schema.Checked Header
  checkConfiguration : List (Value × Value) → Schema.Checked Configuration
  /-- Turns Markdown into HTML. -/
  toHtml : Text → Except Exception Text
  /-- Fills a template, in which names stand for texts. -/
  fill : Delimiters → (Text → Option Text) → Text → Option Text

instance Libraries.atHand : Libraries where
  loadYaml := Yaml.Datum.read
  checkHeader := Header.ofValue
  checkConfiguration := Configuration.ofEntries
  toHtml t := .ok (Markdown.toHtml t)
  fill := Template.render

/-- A value that counts as false stands for a mapping without entries. -/
def Value.orEmpty (v : Value) : Value := if v.truth then v else .dict []

variable [Libraries]

/-- Reads the text between a snippet's name and its separator. -/
def Header.read (t : Text) : Except HeaderFault Header :=
  match Libraries.loadYaml t with
  | .error .malformed => .error .yaml
  | .error (.raised e) => .error (.raised e)
  | .ok v => (Libraries.checkHeader v.orEmpty).mapError .issues

namespace Configuration

def ofValue (file : Path) (v : Value) : Except ConfigurationFault Configuration :=
  match v.orEmpty with
  | .dict es => (Libraries.checkConfiguration es).mapError .issues
  | v => .error (.notMapping file v.className)

/-- The configuration that the text of a file holds. -/
def ofText (file : Path) (t : Text) : Except ConfigurationFault Configuration :=
  match Libraries.loadYaml t with
  | .error .malformed => .error .yaml
  | .error (.raised e) => .error (.raised e)
  | .ok v => (ofValue file v).map (besideFile file)

def load (w : World) (file : Path) : Except ConfigurationFault Configuration :=
  match w.read file with
  | .error e => .error (.raised e)
  | .ok t => ofText file t

end Configuration

end Weave
