import Weave.CommandLine
import Weave.Program.Session

/-!
# The program

Reads the files that a command line needs, carries it out, and only then prints what there is to
print and writes what has changed.
-/

set_option autoImplicit false

namespace Weave.Disk

def nameOf (names : List Text) : String := String.ofList (World.nameOf names)

def read? (names : List Text) : IO (Option Text) := do
  try
    let t ← IO.FS.readFile (nameOf names)
    pure (some t.toList)
  catch _ => pure none

def isDirectory (names : List Text) : IO Bool := do
  ((← IO.currentDir) / nameOf names).isDir

/-- Adds a directory that is on the disk and not known yet. -/
def meet (w : World) (names : List Text) : IO World := do
  if w.isDirectory names then pure w
  else if ← isDirectory names then pure { w with directories := w.directories ++ [names] }
  else pure w

/-- Adds those of some files that are on the disk and not known yet, with the directories on the way. -/
def fetch (w : World) (files : List (List Text)) : IO World :=
  files.foldlM (fun w names => do
    let w ← (List.range (names.length + 1)).foldlM (fun w n => meet w (Path.collapse (names.take n))) w
    let names := Path.collapse names
    match w.file? names, ← read? names with
    | none, some t => pure { w with files := w.files ++ [(names, t)] }
    | _, _ => pure w) w

/-- Writes the files that are new or not what they were. -/
def store (before after : World) : IO Unit :=
  after.files.forM fun (names, t) => do
    if before.file? names ≠ some t then
      IO.FS.createDirAll (nameOf names.dropLast)
      IO.FS.writeFile (nameOf names) (String.ofList t)

def say (k : Console) : IO Unit := do
  k.base.forM fun w => match w.stream with
    | .output => IO.print (String.ofList w.text)
    | .error => IO.eprint (String.ofList w.text)
  (← IO.getStdout).flush

/-- Acts on a world that knows all the files that are looked for. An action that has looked for others
is repeated with them. -/
partial def settle {ε α : Type} (p : Action World ε α) (w : World) : IO (Except ε α × World) := do
  let (r, after) := p w
  let known ← fetch w after.wanted
  if known.files.length = w.files.length && known.directories.length = w.directories.length then
    pure (r, after)
  else settle p known

/-- Carries out an action that begins in a directory and needs some files. -/
def perform {ε α : Type} (here : List Text) (needed : World → List Path) (p : Action World ε α) :
    IO (Except ε α) := do
  let start : World := { here, directories := [here] }
  let more := fun (w : World) => fetch w (w.want (needed w)).wanted
  let before ← more (← more start)
  let (r, after) ← settle p before
  say after.console
  store before after
  pure r

end Weave.Disk

namespace Weave.CommandLine

/-- The exit status of a fault, which is reported unless it asks for just that status. -/
def report : CommandFault → IO UInt32
  | .exit status => pure status.toUInt32
  | f => do
    IO.eprintln (String.ofList f.message)
    pure 1

/-- Builds again whenever the input is not what it was. -/
partial def watch (here : List Text) (r : Request) (text : Option Text) : IO UInt32 := do
  IO.sleep 1000
  let input := r.input.resolve here
  let now ← Disk.read? input
  if now = text then watch here r text
  else
    let rebuild : Action (World × Unit) CommandFault Unit :=
      Action.onFirst (build Program.session Program.start r)
    let modified : Action World CommandFault Unit := fun w =>
      let (result, s) := (Watch.ofPaths w [r.input]).onModified CommandFault.passing? rebuild
        ⟨World.nameOf input, false⟩ (w, ())
      (result, s.1)
    match ← Disk.perform here (neededFiles r) modified with
    | .ok _ => watch here r now
    | .error f => report f

end Weave.CommandLine

def main (args : List String) : IO UInt32 := do
  let args := args.map String.toList
  let here := (Weave.Path.ofText (← IO.currentDir).toString.toList).names
  let needed := fun w => match Weave.CommandLine.read args w with
    | (.ok r, _) => Weave.CommandLine.neededFiles r w
    | (.error _, _) => []
  let run := Weave.CommandLine.run Weave.Program.session Weave.Program.start args
  match ← Weave.Disk.perform here needed run with
  | .error f => Weave.CommandLine.report f
  | .ok none => pure 0
  | .ok (some r) => Weave.CommandLine.watch here r (← Weave.Disk.read? (r.input.resolve here))
