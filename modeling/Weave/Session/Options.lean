import Weave.Arguments
import Weave.Dictionary
import Weave.Text.Quoted
import Weave.Unicode.Identifier
import Weave.Value.Written

/-!
# Options of a session

What a session starts with: directories to look for modules in, modules, names bound to texts, and
startup scripts. A later definition of a name wins.
-/

set_option autoImplicit false

namespace Weave

inductive SessionOption where
  | path
  | import_
  | define
  | load
deriving DecidableEq, Repr, Inhabited

structure SessionOptions where
  paths : List Text := []
  imports : List Text := []
  defines : Dictionary Text := {}
  loads : List Text := []
deriving Inhabited

/-- Why arguments are no options of a session. -/
inductive SessionOptionsFault where
  | argument (fault : ArgumentFault SessionOption)
  | unknown (words : List Text)
  | definition (text : Text)

namespace SessionOption

def specs : List (OptionSpec SessionOption) :=
  [ ⟨.path, ["--path".toList], .value⟩, ⟨.import_, ["--import".toList], .value⟩,
    ⟨.define, ["--define".toList], .value⟩, ⟨.load, ["--load".toList], .value⟩ ]

end SessionOption

namespace SessionOptionsFault

def message : SessionOptionsFault → Text
  | .argument f => "Invalid interpreter option: ".toList ++ f.message
  | .unknown ws =>
    "Unknown interpreter options: [".toList ++ Value.commaList (ws.map Text.quote) ++ [']']
  | .definition t =>
    "Expected --define NAME=VALUE, but found \"".toList ++ t ++ ['"']

end SessionOptionsFault

namespace SessionOptions

/-- The name in front of the first equals sign and the text behind it. -/
def definition (t : Text) : Except SessionOptionsFault (Text × Text) :=
  match Text.cut? ['='] t with
  | some (name, value) =>
    if Unicode.isIdentifier name then .ok (name, value) else .error (.definition t)
  | none => .error (.definition t)

def definitions : List Text → Except SessionOptionsFault (List (Text × Text))
  | [] => .ok []
  | t :: ts => do
    let d ← definition t
    let ds ← definitions ts
    pure (d :: ds)

def ofArguments (a : Arguments SessionOption) : Except SessionOptionsFault SessionOptions :=
  if a.extras.isEmpty then do
    let ds ← definitions (a.valuesOf .define)
    pure ⟨a.valuesOf .path, a.valuesOf .import_, Dictionary.ofList ds, a.valuesOf .load⟩
  else .error (.unknown a.extras)

def read (args : List Text) : Except SessionOptionsFault SessionOptions :=
  match Arguments.read SessionOption.specs 0 args with
  | .ok a => ofArguments a
  | .error f => .error (.argument f)

end SessionOptions

end Weave
