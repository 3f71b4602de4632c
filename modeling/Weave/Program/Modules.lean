import Weave.Program.Machine

/-!
# Modules

The modules that are always there, with the names they hold, and the places of the others: a file, or
a directory, in which further modules may lie. A directory with a file of its own comes before a file
of the same name; one without such a file is the last that is taken.
-/

set_option autoImplicit false

namespace Weave.Program

/-! ### Modules that are always there -/

/-- The modules that are known and of which no name is used. -/
def namelessModules : List String :=
  [ "abc", "argparse", "ast", "base64", "bisect", "calendar", "collections", "contextlib",
    "copy", "csv", "dataclasses", "datetime", "decimal", "enum", "fractions", "functools", "glob",
    "hashlib", "heapq", "html", "importlib", "io", "itertools", "logging", "math", "operator",
    "pathlib", "pickle", "pprint", "random", "re", "shutil", "statistics", "string", "struct",
    "subprocess", "tempfile", "textwrap", "time", "traceback", "types", "typing", "unittest",
    "urllib", "uuid", "warnings" ]

/-- What a module that is always there holds. -/
def builtinModule? (name : Text) (w : World) : Option (Text → Option Value) :=
  let function := fun (n : Text) => builtin? (name ++ '.' :: n)
  let text := fun (s : String) => some (Value.str s.toList)
  let own := fun (n : Text) => if n = "__name__".toList then some (Value.str name) else none
  let holding := fun (f : Text → Option Value) (n : Text) => (own n).or (f n)
  if name = "sys".toList then some (holding fun n =>
    if n = "stdout".toList then some (stream .output)
    else if n = "stderr".toList then some (stream .error)
    else if n = "argv".toList then some (.list [.str "penscript".toList])
    else if n = "path".toList then some (.list (w.searchPath.map .str))
    else function n)
  else if name = "os".toList then some (holding fun n =>
    if n = "sep".toList then text "/"
    else if n = "name".toList then text "posix"
    else if n = "linesep".toList then text "\n"
    else function n)
  else if name = "os.path".toList then some (holding fun n =>
    if n = "sep".toList then text "/" else function n)
  else if name = "builtins".toList then some (holding builtin?)
  else if ["json", "threading"].any fun m => m.toList = name then some (holding function)
  else if namelessModules.any fun m => m.toList = name then some own
  else none

/-- Those among them in which further modules may lie. -/
def builtinPackages : List Text :=
  ["json", "collections", "html", "importlib", "logging", "unittest", "urllib"].map String.toList

/-! ### Names of modules -/

/-- The module around and the last name. -/
def splitModuleName (name : Text) : Option Text × Text :=
  match (Text.splitOn '.' name).reverse with
  | last :: first :: others => (some (Text.join ['.'] (first :: others).reverse), last)
  | _ => (none, name)

def noModule (name : Text) : Exception :=
  .ofMessage "ModuleNotFoundError" ("No module named ".toList ++ Text.quote name)

/-- A module lies in no package. -/
def noPackage (name parent : Text) : Exception :=
  .ofMessage "ModuleNotFoundError" ("No module named ".toList ++ Text.quote name ++ "; ".toList
    ++ Text.quote parent ++ " is not a package".toList)

/-! ### Places of modules -/

/-- Where a module comes from. -/
inductive Origin where
  /-- A file with its text, and the directory of a package. -/
  | file (name text : Text) (directory : Option Text)
  /-- Directories with nothing to be run. -/
  | directories (names : List Text)
deriving Repr, Inhabited

namespace Origin

def places : Origin → Option (List Text)
  | file _ _ d => d.map fun d => [d]
  | directories ds => some ds

end Origin

def initialFile : Text := "__init__.py".toList

def moduleFiles (directory name : Text) : List Path :=
  let d := Path.ofText directory
  [d.join ⟨[], [name, initialFile]⟩, d.join ⟨[], [name ++ ".py".toList]⟩]

def moduleDirectory (directory name : Text) : Path := (Path.ofText directory).join ⟨[], [name]⟩

/-- The module of a name that has a file in a directory. -/
def originIn? (w : World) (name directory : Text) : Option Origin :=
  (moduleFiles directory name).findSome? fun p => (w.read p).toOption.map fun t =>
    .file p.text t (if p.name = initialFile then some p.parent.text else none)

/-- The module of a name that lies in one of some directories. -/
def origin? (w : World) (directories : List Text) (name : Text) : Option Origin :=
  let isDirectory := fun (p : Path) => (w.locate p).toOption.any w.isDirectory
  (directories.findSome? (originIn? w name)).or
    (match (directories.map fun d => moduleDirectory d name).filter isDirectory with
    | [] => none
    | ps => some (.directories (ps.map Path.text)))

def fileListing (t : Text) : Listing :=
  let lines := (Text.cutLines Text.isProgramLineEnd t).map Text.Line.body
  ⟨lines.map fun l => l ++ ['\n'], lines⟩

/-! ### Names in modules -/

def moduleValue? (i : Interpreter) (w : World) (moduleName n : Text) : Option Value :=
  match i.modules.get? moduleName with
  | some d => d.get? n
  | none => (builtinModule? moduleName w).bind fun f => f n

def pathName : Text := "__path__".toList

def fileName : Text := "__file__".toList

/-- The directories of a package that has been loaded. -/
def packagePlaces? (i : Interpreter) (moduleName : Text) : Option (List Text) :=
  match ((i.modules.get? moduleName).bind fun d => d.get? pathName) with
  | some (.list ds) => some (ds.filterMap fun d => match d with
      | .str t => some t
      | _ => none)
  | _ => none

/-- What a module holds before it is run. -/
def moduleNames (name : Text) (o : Origin) : Dictionary Value :=
  let d := Dictionary.ofList [("__name__".toList, Value.str name)]
  let d := match o with
    | .file f _ _ => d.set fileName (.str f)
    | .directories _ => d
  match o.places with
  | some ds => d.set pathName (.list (ds.map .str))
  | none => d

/-- A module does not hold a name that is asked of it. -/
def noImport (i : Interpreter) (moduleName n : Text) : Exception :=
  let file := match ((i.modules.get? moduleName).bind fun d => d.get? fileName) with
    | some (.str f) => f
    | _ => "unknown location".toList
  .ofMessage "ImportError" ("cannot import name ".toList ++ Text.quote n ++ " from ".toList
    ++ Text.quote moduleName ++ " (".toList ++ file ++ [')'])

/-- The names that a module gives away when it is not asked for some of them. -/
def publicNames (i : Interpreter) (moduleName : Text) : List (Text × Value) :=
  match i.modules.get? moduleName with
  | none => []
  | some d =>
    match d.get? "__all__".toList with
    | some (.list ns) => ns.filterMap fun n => match n with
      | .str t => (d.get? t).map fun v => (t, v)
      | _ => none
    | _ => d.entries.filter fun e => e.1.head? ≠ some '_'

end Weave.Program
