import Weave.Arguments
import Weave.Watch

/-!
# The command line

Builds one document, as its configuration file says and as the options say, which win over the file.
-/

set_option autoImplicit false

namespace Weave

inductive CommandOption where
  | help
  | config
  | template
  | title
  | latex
  | noEval
  | failOnError
  | interpreterOption
  | watch
deriving DecidableEq, Repr, Inhabited

/-- Why a command ends before it is done. -/
inductive CommandFault where
  /-- There is nothing more to do, or the arguments make no sense. -/
  | exit (status : Nat)
  /-- Two words in the place of one. -/
  | noPath
  | missingConfiguration (file : Path)
  | configuration (fault : ConfigurationFault)
  | build (fault : BuildFault)

namespace CommandFault

def message : CommandFault → Text
  | .exit status => Text.ofNat status
  | .noPath => "expected str, bytes or os.PathLike object, not list".toList
  | .missingConfiguration file =>
    "Configuration file ".toList ++ file.text ++ " does not exist".toList
  | .configuration f => f.message
  | .build f => f.message

/-- What is said about a fault that a later change of a file may mend. -/
def passing? : CommandFault → Option Text
  | .configuration .yaml => none
  | .configuration (.raised e) => if e.isPassing then some e.message else none
  | .configuration f => some f.message
  | .build f => f.passing?
  | _ => none

end CommandFault

namespace CommandLine

def specs : List (OptionSpec CommandOption) :=
  [ ⟨.help, ["-h".toList, "--help".toList], .stop⟩,
    ⟨.config, ["--config".toList], .value⟩,
    ⟨.template, ["--template".toList], .value⟩,
    ⟨.title, ["--title".toList], .value⟩,
    ⟨.latex, ["--latex".toList], .nothing⟩,
    ⟨.noEval, ["--no-eval".toList], .nothing⟩,
    ⟨.failOnError, ["--fail-on-error".toList], .nothing⟩,
    ⟨.interpreterOption, ["--interpreter-option".toList], .value⟩,
    ⟨.watch, ["--watch".toList], .nothing⟩ ]

def usage : List String :=
  [ "usage: penscript-cli.py [-h] [--config CONFIG] [--template TEMPLATE]",
    "                        [--title TITLE] [--latex] [--no-eval]",
    "                        [--fail-on-error]",
    "                        [--interpreter-option INTERPRETER_OPTION] [--watch]",
    "                        input_file output_file" ]

def help : List String :=
  usage ++
  [ "",
    "Render literate Python documents to HTML or LaTeX",
    "",
    "positional arguments:",
    "  input_file            A Markdown document, or a Python script with #~ prose",
    "                        comments",
    "  output_file",
    "",
    "options:",
    "  -h, --help            show this help message and exit",
    "  --config CONFIG       Defaults to penscript.yaml next to the input file",
    "  --template TEMPLATE",
    "  --title TITLE",
    "  --latex               Produce LaTeX rather than HTML",
    "  --no-eval             Show snippets without running them",
    "  --fail-on-error",
    "  --interpreter-option INTERPRETER_OPTION",
    "                        Passed to the interpreter session, e.g. --interpreter-",
    "                        option=--path=src",
    "  --watch               Re-render whenever the input changes" ]

/-- What a command line asks for. -/
structure Request where
  input : Path
  output : Path
  arguments : Arguments CommandOption

def printLines (stream : Stream) (ls : List Text) : Action World CommandFault Unit :=
  Action.change fun w =>
    { w with console := ls.foldl (fun k l => k.write 0 ⟨stream, l ++ ['\n']⟩) w.console }

def refuse {α : Type} (reason : Text) : Action World CommandFault α := do
  printLines .error (usage.map String.toList ++ ["penscript-cli.py: error: ".toList ++ reason])
  Action.fail (.exit 2)

def missingPlaces (filled : Nat) : List Text :=
  ["input_file".toList, "output_file".toList].drop filled

def read (args : List Text) : Action World CommandFault Request :=
  match Arguments.read specs 2 args with
  | .error (.stopped _) => do
    printLines .output (help.map String.toList)
    Action.fail (.exit 0)
  | .error f => refuse f.message
  | .ok a =>
    match a.places, a.extras with
    | [some input, some output], [] => pure ⟨Path.ofText input, Path.ofText output, a⟩
    | [_, _], [] => Action.fail .noPath
    | [_, _], extras => refuse ("unrecognized arguments: ".toList ++ Text.join [' '] extras)
    | places, _ =>
      refuse ("the following arguments are required: ".toList
        ++ Text.join ", ".toList (missingPlaces places.length))

/-- The file beside the input that is looked for when none is named. -/
def defaultConfiguration : Text := "penscript.yaml".toList

/-- A text that was given and is not empty. -/
def given? (a : Arguments CommandOption) (key : CommandOption) : Option Text :=
  (a.value? key).filter fun t => !t.isEmpty

/-- The configuration with what the options say instead. -/
def override (a : Arguments CommandOption) (c : Configuration) : Configuration :=
  { outputKind := if a.has .latex then .latex else c.outputKind
    template := ((given? a .template).map Path.ofText).or c.template
    title := (given? a .title).or c.title
    evaluate := c.evaluate && !a.has .noEval
    interpreterOptions := c.interpreterOptions ++ a.valuesOf .interpreterOption
    failOnError := c.failOnError || a.has .failOnError
    tabulateRecords := c.tabulateRecords }

/-- The configuration file that is named. -/
def namedConfiguration (r : Request) : Option Path := (given? r.arguments .config).map Path.ofText

def configurationFile (r : Request) : Path :=
  (namedConfiguration r).getD (r.input.parent.join (Path.ofText defaultConfiguration))

def configure (r : Request) : Action World CommandFault Configuration := do
  let file := configurationFile r
  let w ← Action.state
  let found ← Action.mapError (fun e => .configuration (.raised e)) (Action.ofExcept (w.exists_ file))
  if found then
    Action.change fun w => w.print ("Using configuration from ".toList ++ file.text)
    let c ← Action.mapError .configuration (Action.ofExcept (Configuration.load w file))
    pure (override r.arguments c)
  else if (namedConfiguration r).isSome then Action.fail (.missingConfiguration file)
  else pure (override r.arguments {})

/-- The files that a request needs, apart from those that snippets ask for. What the configuration
names among them is known once its file is. -/
def neededFiles (r : Request) (w : World) : List Path :=
  let c := match configure r w with
    | (.ok c, _) => c
    | (.error _, _) => override r.arguments {}
  let scripts := match SessionOptions.read c.interpreterOptions with
    | .ok o => o.loads.map Path.ofText
    | .error _ => []
  r.input :: configurationFile r :: (c.template.toList ++ scripts)

variable {τ : Type}

def build (session : Session τ) (start : List Text → Action World SessionFault τ) (r : Request) :
    Action World CommandFault Unit := do
  let config ← configure r
  let job : Job := { input := r.input, output := some r.output, config }
  let _ ← Action.mapError .build (job.build session start)

/-- Carries out a command line. The request is returned if its input is to be watched. -/
def run (session : Session τ) (start : List Text → Action World SessionFault τ)
    (args : List Text) : Action World CommandFault (Option Request) := do
  let r ← read args
  build session start r
  if r.arguments.has .watch then
    Action.change fun w => w.print (Watch.banner [r.input])
    pure (some r)
  else pure none

end CommandLine

end Weave
