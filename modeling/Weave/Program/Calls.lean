import Weave.Program.Builtin
import Weave.Program.Json
import Weave.Program.Members
import Weave.Program.Modules

/-!
# Calls

What the arguments of a call are bound to, and the functions and classes that do their work without
calling anything else.
-/

set_option autoImplicit false

namespace Weave.Program

/-! ### Parameters -/

namespace Routine

def plural (n : Nat) : Text := if n = 1 then [] else ['s']

def tooMany (r : Routine) (given : Nat) : Exception :=
  let most := r.parameters.length
  let least := (r.parameters.filter fun p => p.2.isNone).length
  let range := if least = most then Text.ofNat most
    else "from ".toList ++ Text.ofNat least ++ " to ".toList ++ Text.ofNat most
  typeError (r.label ++ "() takes ".toList ++ range ++ " positional argument".toList
    ++ (if least = most then plural most else ['s']) ++ " but ".toList ++ Text.ofNat given
    ++ (if given = 1 then " was given" else " were given").toList)

def missing (r : Routine) (names : List Text) : Exception :=
  let quoted := names.map Text.quote
  let listed := match quoted.reverse with
    | [] => []
    | [a] => a
    | [b, a] => a ++ " and ".toList ++ b
    | last :: others => Text.join ", ".toList others.reverse ++ ", and ".toList ++ last
  typeError (r.label ++ "() missing ".toList ++ Text.ofNat names.length
    ++ " required positional argument".toList ++ plural names.length ++ ": ".toList ++ listed)

def bindNamed (r : Routine) (d : Dictionary Value) (argument : Text × Value) :
    Except Exception (Dictionary Value) :=
  let (n, v) := argument
  if !r.parameters.any fun p => p.1 = n then
    .error (typeError (r.label ++ "() got an unexpected keyword argument ".toList ++ Text.quote n))
  else if (d.get? n).isSome then
    .error (typeError (r.label ++ "() got multiple values for argument ".toList ++ Text.quote n))
  else .ok (d.set n v)

def bindings (r : Routine) (vs : List Value) (named : List (Text × Value)) :
    Except Exception (Dictionary Value) := do
  let d := Dictionary.ofList ((r.parameters.map Prod.fst).zip vs)
  let d ← named.foldlM r.bindNamed d
  if vs.length > r.parameters.length then .error (r.tooMany vs.length)
  else
    let open_ := r.parameters.filter fun p => (d.get? p.1).isNone
    match (open_.filter fun p => p.2.isNone).map Prod.fst with
    | [] => pure (open_.foldl (fun d p => d.set p.1 (p.2.getD .none)) d)
    | names => .error (r.missing names)

def ownNames (r : Routine) : List Text :=
  let others := Stmt.sharesEach r.body ++ Stmt.borrowsEach r.body
  r.parameters.map Prod.fst ++ (Stmt.bindsEach r.body).filter fun n => n ∉ others

/-- Where a routine acts, with its names bound in a room. -/
def scope (r : Routine) (thread room : Nat) : Scope where
  source := r.source
  routine := r.name
  labelStart := r.label ++ ".<locals>.".toList
  locals := { own := r.ownNames, shared := Stmt.sharesEach r.body, room } :: r.around
  home := r.home
  thread := thread

end Routine

/-! ### Named arguments -/

def named? (named : List (Text × Value)) (n : String) : Option Value :=
  (named.find? fun e => e.1 = n.toList).map Prod.snd

/-- A named argument that counts as true. -/
def isAsked (named : List (Text × Value)) (n : String) : Bool := (named? named n).any Value.truth

/-- What is wrong with named arguments of which only these are known. -/
def unknownNamed (f : Text) (known : List String) (named : List (Text × Value)) : Except Exception Unit :=
  match named.find? fun e => !known.any fun k => k.toList = e.1 with
  | none => .ok ()
  | some (n, _) =>
    if known.isEmpty then .error (typeError (f ++ "() takes no keyword arguments".toList))
    else .error (typeError (Text.quote n ++ " is an invalid keyword argument for ".toList ++ f
      ++ "()".toList))

def namedArguments : List (String × List String) :=
  [ ("print", ["sep", "end", "file", "flush"]), ("sum", ["start"]), ("round", ["number", "ndigits"]),
    ("min", ["key", "default"]), ("max", ["key", "default"]), ("sort", ["key", "reverse"]),
    ("str", ["object", "encoding", "errors"]), ("enumerate", ["iterable", "start"]),
    ("open", ["mode", "buffering", "encoding", "errors", "newline", "closefd", "opener"]),
    ("json.dumps", [ "skipkeys", "ensure_ascii", "check_circular", "allow_nan", "cls", "indent",
      "separators", "default", "sort_keys" ]),
    ("threading.Thread", ["group", "target", "name", "args", "kwargs", "daemon"]) ]

def knownNames (f : Text) : List String :=
  ((namedArguments.find? fun e => e.1.toList = f).map Prod.snd).getD []

/-- What is wrong with the named arguments of a function that is always there. -/
def checkNamed (f : Text) (named : List (Text × Value)) : Except Exception Unit :=
  unknownNamed ((Text.splitOn '.' f).getLast?.getD []) (knownNames f) named

def shortName (n : Text) : Text := (Text.splitOn '.' n).getLast?.getD []

def wrongCount (n : Text) (count : Nat) : Exception :=
  let is := fun (m : String) => n = m.toList
  let name := shortName n
  let given := Text.ofNat count
  typeError (
    if is "sum" || is "round" then
      if count > 2 then name ++ "() takes at most 2 arguments (".toList ++ given ++ " given)".toList
      else if is "sum" then "sum() takes at least 1 positional argument (0 given)".toList
      else "round() missing required argument 'number' (pos 1)".toList
    else if is "divmod" || is "isinstance" then
      name ++ " expected 2 arguments, got ".toList ++ given
    else if is "json.dumps" && count = 0 then
      "dumps() missing 1 required positional argument: 'obj'".toList
    else name ++ "() takes exactly one argument (".toList ++ given ++ " given)".toList)

namespace Run

/-! ### Functions with an effect -/

/-- A text that may be left out. -/
def textOr (name default : String) : Option Value → Except Exception Text
  | none | some .none => .ok default.toList
  | some (.str t) => .ok t
  | some v => .error (typeError (name.toList ++ " must be None or a string, not ".toList ++ v.className))

/-- Writes the values behind the first one, each behind a text. -/
def writeOthers (s : Span) (target : Stream) (between : Text) : List Value → Run Unit
  | [] => pure ()
  | v :: vs => do
    write target between
    let i ← interpreter
    write target (← orRaise s (plain i v))
    writeOthers s target between vs

def print (s : Span) (vs : List Value) (named : List (Text × Value)) : Run Value := do
  let i ← interpreter
  let between ← orRaise s (textOr "sep" " " (named? named "sep"))
  let ending ← orRaise s (textOr "end" "\n" (named? named "end"))
  let target ← match named? named "file" with
    | none | some .none => pure Stream.output
    | some v => match i.object? v with
      | some (.stream x) => pure x
      | _ => raiseAt s (attributeError v "write".toList)
  match vs with
  | [] => pure ()
  | v :: vs => do
    write target (← orRaise s (plain i v))
    writeOthers s target between vs
  write target ending
  pure .none

/-- The world, after a look for some files. -/
def lookFor (files : World → List Path) : Run World := fun m =>
  let w := m.1.want (files m.1)
  (.ok w, w, m.2)

def world : Run World := fun m => (.ok m.1, m)

/-- Letters for how a file is opened, each at most once. -/
def isMode (t : Text) : Bool := t.all ("axrwbt+".toList.contains ·) && decide t.Nodup

def openFile (s : Span) (vs : List Value) : Run Value := do
  match vs with
  | .str p :: mode => do
    match mode with
    | .str m :: _ =>
      if isMode m then pure () else raiseAt s (valueError ("invalid mode: ".toList ++ Text.quote m))
    | _ => pure ()
    let w ← lookFor fun _ => [Path.ofText p]
    let t ← orRaise s (w.readText p)
    alloc (.file t)
  | v :: _ =>
    raiseAt s (typeError ("expected str, bytes or os.PathLike object, not ".toList ++ v.className))
  | [] => raiseAt s (typeError "open() missing required argument 'file' (pos 1)".toList)

def changeDirectory (s : Span) (vs : List Value) : Run Value := do
  match vs with
  | [.str p] => do
    let w ← lookFor fun _ => [Path.ofText p]
    let w ← orRaise s (w.enterText p)
    fun m => (.ok .none, w, m.2)
  | [] => raiseAt s (typeError "chdir() missing required argument 'path' (pos 1)".toList)
  | v :: _ => raiseAt s (typeError
      ("chdir: path should be string, bytes, os.PathLike or integer, not ".toList ++ v.className))

/-- What ends a program on request. -/
def exitWith (vs : List Value) : Exception :=
  match vs with
  | [] => ⟨"SystemExit".toList, []⟩
  | [.none] => ⟨"SystemExit".toList, []⟩
  | [.tuple xs] => ⟨"SystemExit".toList, xs⟩
  | vs => ⟨"SystemExit".toList, vs.take 1⟩

/-! ### Functions without one -/

def jsonStyle (named : List (Text × Value)) : Json.Style :=
  let indent := match named? named "indent" with
    | some (.str t) => some t
    | some v => (int? v).map fun n => Text.spaces n.toNat
    | none => none
  let style : Json.Style :=
    { indent, itemMark := if indent.isSome then [','] else ", ".toList
      asciiOnly := (named? named "ensure_ascii").all Value.truth
      sorted := isAsked named "sort_keys" }
  match named? named "separators" with
  | some (.tuple [.str a, .str b]) => { style with itemMark := a, keyMark := b }
  | _ => style

/-- The path of some parts, of which one that begins with a slash drops those in front of it. -/
def joinPaths : List Text → Text
  | [] => []
  | t :: ts => ts.foldl (fun acc p =>
      if ['/'].isPrefixOf p || acc.isEmpty then p
      else if Text.endsWith acc ['/'] then acc ++ p else acc ++ '/' :: p) t

def ofOne? (i : Interpreter) (n : Text) (v : Value) (named : List (Text × Value)) :
    Option (Except Exception Value) :=
  let is := fun (m : String) => n = m.toList
  if is "len" then some ((length i v).map fun k => .int k)
  else if is "repr" then some (v.tryWritten.map .str)
  else if is "ascii" then some (v.tryWritten.map fun t => .str (asciiOnly t))
  else if is "format" then some ((formatted (plain i v) v []).map .str)
  else if is "sum" then some (sum i v ((named? named "start").getD (.int 0)))
  else if is "abs" then some (absolute v)
  else if is "any" then some ((items i v).map fun xs => .bool (xs.any (truth i)))
  else if is "all" then some ((items i v).map fun xs => .bool (xs.all (truth i)))
  else if is "round" then some (round v (named? named "ndigits"))
  else if is "chr" then some (characterAt v)
  else if is "ord" then some (codeOf v)
  else if is "bin" then some (inBase 'b' v)
  else if is "oct" then some (inBase 'o' v)
  else if is "hex" then some (inBase 'x' v)
  else if is "callable" then
    some (.ok (.bool (match i.object? v with
      | some (.builtin _) | some (.kind _) | some (.routine _) | some (.method ..)
      | some (.replMember _) => true
      | _ => false)))
  else if is "json.dumps" then some ((Json.ofValue (jsonStyle named) v).map .str)
  else if is "json.loads" then
    some (match v with
      | .str t => Json.toValue t
      | v => .error (typeError ("the JSON object must be str, bytes or bytearray, not ".toList
          ++ v.className)))
  else match v with
    | .str p =>
      if is "os.path.basename" then some (.ok (.str ((Text.splitOn '/' p).getLast?.getD [])))
      else none
    | _ => none

def ofTwo? (i : Interpreter) (n : Text) (v w : Value) : Option (Except Exception Value) :=
  let is := fun (m : String) => n = m.toList
  if is "sum" then some (sum i v w)
  else if is "round" then some (round v (some w))
  else if is "pow" then some (binary .power v w)
  else if is "divmod" then
    some (do
      let q ← binary .floorDivide v w
      let r ← binary .modulo v w
      pure (.tuple [q, r]))
  else if is "format" then
    some (match w with
      | .str t => (formatted (plain i v) v t).map .str
      | w => .error (typeError ("format() argument 2 must be str, not ".toList ++ w.className)))
  else if is "isinstance" then
    let kindName? := fun (k : Value) => match i.object? k with
      | some (.kind name) => some name
      | _ => none
    let ks := match w with
      | .tuple ks => ks
      | k => [k]
    some (match ks.mapM kindName? with
      | some names => .ok (.bool (names.any (isInstance v)))
      | none => .error (typeError
          "isinstance() arg 2 must be a type, a tuple of types, or a union".toList))
  else none

/-- Functions of the modules and those built in that call no others. -/
def callBuiltin (s : Span) (n : Text) (vs : List Value) (named : List (Text × Value)) :
    Run Value := do
  let is := fun (m : String) => n = m.toList
  orRaise s (checkNamed n named)
  let i ← interpreter
  if is "print" then print s vs named
  else if is "open" then openFile s vs
  else if is "sys.exit" then raiseAt s (exitWith vs)
  else if is "os.chdir" then changeDirectory s vs
  else if is "os.getcwd" then do
    let w ← world
    pure (.str (World.nameOf w.here))
  else if is "os.path.exists" then
    match vs with
    | [.str p] => do
      let w ← lookFor fun _ => [Path.ofText p]
      pure (.bool (match w.locateText p with
        | .ok names => (w.file? names).isSome || w.isDirectory names
        | .error _ => false))
    | _ => raiseAt s (wrongCount n vs.length)
  else if is "os.path.join" then
    match texts? vs with
    | some ts => pure (.str (joinPaths ts))
    | none => raiseAt s (noMethod n)
  else if is "threading.Thread" then do
    let arguments ← orRaise s (items i ((named? named "args").getD (.tuple [])))
    alloc (.thread ((named? named "target").getD .none) arguments)
  else match vs with
    | [v] => orRaise s ((ofOne? i n v named).getD (.error (wrongCount n 1)))
    | [v, w] => orRaise s ((ofTwo? i n v w).getD (.error (wrongCount n 2)))
    | vs => raiseAt s (wrongCount n vs.length)

/-! ### Classes -/

def rangeOf (vs : List Value) : Except Exception Object := do
  let ns ← vs.mapM wholeOf
  match ns with
  | [b] => pure (.range 0 b 1)
  | [a, b] => pure (.range a b 1)
  | [a, b, c] =>
    if c = 0 then .error (valueError "range() arg 3 must not be zero".toList)
    else pure (.range a b c)
  | [] => .error (typeError "range expected at least 1 argument, got 0".toList)
  | ns => .error (typeError ("range expected at most 3 arguments, got ".toList ++ Text.ofNat ns.length))

/-- A collection with the items of a value. -/
def collection? (i : Interpreter) (n : Text) (v : Value) : Option (Except Exception Value) :=
  let is := fun (m : String) => n = m.toList
  if is "list" then some ((items i v).map .list)
  else if is "tuple" then some ((items i v).map .tuple)
  else if is "set" || is "frozenset" then
    some (do
      let xs ← items i v
      checkHashable xs
      let xs := Value.distinct xs
      pure (if is "set" then .set xs else .frozenset xs))
  else none

/-- The text of a value, or of bytes in a coding. -/
def textValue (i : Interpreter) (vs : List Value) : Except Exception Value :=
  match vs with
  | [] => .ok (.str [])
  | [v] => (plain i v).map .str
  | v :: .str _ :: _ =>
    match v with
    | .bytes bs => .ok (.str (((String.fromUTF8? ⟨bs.toArray⟩).map String.toList).getD []))
    | .str _ => .error (typeError "decoding str is not supported".toList)
    | v => .error (typeError ("decoding to str: need a bytes-like object, ".toList ++ v.className
        ++ " found".toList))
  | _ :: w :: _ =>
    .error (typeError ("str() argument 'encoding' must be str, not ".toList ++ w.className))

/-- A value of a class made of at most one other. -/
def conversion? (i : Interpreter) (n : Text) (vs : List Value) : Option (Except Exception Value) :=
  let is := fun (m : String) => n = m.toList
  let v := vs.head?
  if is "str" then some (textValue i vs)
  else if is "int" then some ((v.map toInt).getD (.ok (.int 0)))
  else if is "float" then some ((v.map toFloat).getD (.ok (.float 0.0)))
  else if is "bool" then some (.ok (.bool (v.any (truth i))))
  else collection? i n (v.getD (.tuple []))

def callKind (s : Span) (n : Text) (vs : List Value) (named : List (Text × Value)) : Run Value := do
  let i ← interpreter
  let is := fun (m : String) => n = m.toList
  if n ∈ Exception.kinds then do
    orRaise s (unknownNamed n [] named)
    let e ← orRaise s (Exception.make n vs)
    alloc (.exception e)
  else if is "dict" then do
    let es ← match vs with
      | [] => pure []
      | v :: _ => orRaise s (entriesOf i v)
    pure (Value.dictOf (es ++ named.map fun e => (.str e.1, e.2)))
  else if is "enumerate" then do
    let xs ← orRaise s (items i (vs.head?.getD .none))
    let start ← orRaise s (wholeOf ((named? named "start").getD ((vs[1]?).getD (.int 0))))
    alloc (.view n (xs.mapIdx fun k x => .tuple [.int (start + k), x]))
  else do
    orRaise s (checkNamed n named)
    match conversion? i n (vs ++ (named? named "object").toList) with
    | some r => orRaise s r
    | none =>
      if is "range" then do
        let o ← orRaise s (rangeOf vs)
        alloc o
      else if is "slice" then
        match vs with
        | [b] => alloc (.slice .none b .none)
        | [a, b] => alloc (.slice a b .none)
        | [a, b, c] => alloc (.slice a b c)
        | vs => raiseAt s (wrongCount n vs.length)
      else if is "type" then
        match vs with
        | [v] => match builtin? v.className with
          | some k => pure k
          | none => alloc (.kind v.className)
        | _ => raiseAt s (typeError "type() takes 1 or 3 arguments".toList)
      else if is "reversed" then do
        let xs ← orRaise s (items i (vs.head?.getD .none))
        alloc (.view n xs.reverse)
      else if is "zip" then do
        let columns ← orRaise s (vs.mapM (items i))
        let rows := (columns.map List.length).min?.getD 0
        alloc (.view n ((List.range rows).map fun k =>
          .tuple (columns.filterMap fun column => (column.drop k).head?)))
      else raiseAt s (noMethod n)

end Run

end Weave.Program
