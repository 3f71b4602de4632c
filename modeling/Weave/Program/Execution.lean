import Weave.Program.Calls
import Weave.Program.Index
import Weave.Program.Reading
import Weave.Program.Sharing
import Weave.Value.Sorted

/-!
# Running programs

Expressions are evaluated and statements executed one after the other, with a bound on the number of
steps. An exception notes, for every routine it leaves, where in the source the routine was.
-/

set_option autoImplicit false

namespace Weave.Program

namespace Run

def exhausted {α : Type} : Run α := Action.fail .exhausted

/-! ### Members -/

def member (s : Span) (v : Value) (n : Text) : Run Value := do
  let i ← interpreter
  match i.object? v with
  | some (.moduleNamed m) => do
    let w ← world
    match moduleValue? i w m n with
    | some v => pure v
    | none =>
      if m = "os".toList && n = "path".toList then alloc (.moduleNamed "os.path".toList)
      else raiseAt s (.ofMessage "AttributeError"
        ("module ".toList ++ Text.quote m ++ " has no attribute ".toList ++ Text.quote n))
  | some .repl =>
    match i.repl.get? n with
    | some (.value v) => pure v
    | some .eventLoop => pure eventLoop
    | some m => alloc (.replMember m)
    | none => raiseAt s (Repl.missing n)
  | some (.exception e) =>
    if n = "args".toList then pure (.tuple e.args) else raiseAt s (attributeError v n)
  | some (.routine r) =>
    if n = "__name__".toList then pure (.str r.name) else raiseAt s (attributeError v n)
  | some (.kind name) =>
    if n = "__name__".toList then pure (.str name)
    else raiseAt s (.ofMessage "AttributeError"
      ("type object ".toList ++ Text.quote name ++ " has no attribute ".toList ++ Text.quote n))
  | _ =>
    if (methodsOf i v).any fun m => m.toList = n then alloc (.method v n)
    else raiseAt s (attributeError v n)

/-- Gives a module that is always there a value under a name. Of all that it holds, only the
directories in which modules are looked for are taken over. -/
def setBuiltinMember (m n : Text) (x : Value) : Run Unit :=
  match m = "sys".toList && n = "path".toList, x with
  | true, .list vs =>
    match texts? vs with
    | some path => Action.change fun t => ({ t.1 with searchPath := path }, t.2)
    | none => pure ()
  | _, _ => pure ()

def setMember (s : Span) (v : Value) (n : Text) (x : Value) : Run Unit := do
  let i ← interpreter
  match i.object? v with
  | some .repl => changeInterpreter fun i => { i with repl := i.repl.set n x }
  | some (.moduleNamed m) =>
    match i.modules.get? m with
    | some d => changeInterpreter fun i => { i with modules := i.modules.set m (d.set n x) }
    | none => setBuiltinMember m n x
  | _ => raiseAt s (attributeError v n)

/-! ### Targets -/

def tooFew (wanted : Text) (found : Nat) : Exception :=
  valueError ("not enough values to unpack (expected ".toList ++ wanted ++ ", got ".toList
    ++ Text.ofNat found ++ [')'])

def tooMany (wanted : Nat) : Exception :=
  valueError ("too many values to unpack (expected ".toList ++ Text.ofNat wanted ++ [')'])

def isStar : Expr → Bool
  | .starred .. => true
  | _ => false

/-- The values of some targets, of which one with a star takes what is left over. -/
def shared (targets : List Expr) (xs : List Value) : Except Exception (List (Expr × Value)) :=
  let before := targets.takeWhile fun t => !isStar t
  match targets.drop before.length with
  | .starred _ rest :: behind =>
    let least := before.length + behind.length
    if xs.length < least then .error (tooFew ("at least ".toList ++ Text.ofNat least) xs.length)
    else
      let last := xs.length - behind.length
      .ok (before.zip xs ++ (rest, .list ((xs.take last).drop before.length))
        :: behind.zip (xs.drop last))
  | _ =>
    if xs.length > targets.length then .error (tooMany targets.length)
    else if xs.length < targets.length then
      .error (tooFew (Text.ofNat targets.length) xs.length)
    else .ok (targets.zip xs)

/-! ### Repetition -/

/-- Goes through the items until the body leaves the loop, and says whether it has gone through all. -/
def forItems (body : Value → Run Unit) : List Value → Run Bool
  | [] => pure true
  | v :: vs => fun m =>
    match body v m with
    | (.ok _, t) => forItems body vs t
    | (.error .proceeded, t) => forItems body vs t
    | (.error .left, t) => (.ok false, t)
    | (.error e, t) => (.error e, t)

/-- Goes through the body as long as a condition holds, and says whether it no longer does. -/
def whileTrue : Nat → Run Bool → Run Unit → Run Bool
  | 0, _, _ => exhausted
  | fuel + 1, condition, body => fun m =>
    match condition m with
    | (.error e, t) => (.error e, t)
    | (.ok b, t) =>
      if b then
        match body t with
        | (.ok _, u) => whileTrue fuel condition body u
        | (.error .proceeded, u) => whileTrue fuel condition body u
        | (.error .left, u) => (.ok false, u)
        | (.error e, u) => (.error e, u)
      else (.ok true, t)

/-- How often a loop may go round. -/
def rounds : Nat := 100000000

def returned (p : Run Unit) : Run Value := fun m =>
  match p m with
  | (.ok _, t) => (.ok .none, t)
  | (.error (.given v), t) => (.ok v, t)
  | (.error e, t) => (.error e, t)

/-- The least of some values by their keys, or the greatest; the earlier one of equals. -/
def extreme (c : Comparison) : List (Value × Value) → Except Exception (Option Value)
  | [] => .ok none
  | (k, v) :: rest => do
    let best ← rest.foldlM (fun (best : Value × Value) e => do
      let b ← compare c e.1 best.1
      pure (if b then e else best)) (k, v)
    pure (some best.2)

/-- The values in the order of their keys; backward, equal ones stay in their order too. -/
def sortedBy (backward : Bool) (keyed : List (Value × Value)) : Except Exception (List Value) := do
  let keyed := if backward then keyed.reverse else keyed
  let sorted ← Sorted.sortM (fun (a b : Value × Value) => less .less a.1 b.1) keyed
  pure ((if backward then sorted.reverse else sorted).map Prod.snd)

/-! ### Comprehensions -/

def clauseNames (clauses : List (Expr × Expr × List Expr)) : List Text :=
  clauses.flatMap fun c => Stmt.boundBy c.1

/-- Acts with the names of some clauses bound in a room of their own. -/
def inComprehension {α : Type} (name : String) (clauses : List (Expr × Expr × List Expr)) (s : Span)
    (p : Run α) : Run α := do
  let i ← interpreter
  let (room, j) := i.addRoom {}
  changeInterpreter fun _ => j
  let scope : Scope := { i.scope with
    routine := name.toList
    labelStart := i.scope.labelStart ++ name.toList ++ ".<locals>.".toList
    locals := { own := clauseNames clauses, room } :: i.scope.locals }
  under (frameAt s i) (inScope scope p)

/-! ### Arguments -/

def label (i : Interpreter) (f : Value) : Text :=
  match i.object? f with
  | some (.routine r) => (r.home.getD "__main__".toList) ++ '.' :: r.label ++ "()".toList
  | some (.builtin n) => n ++ "()".toList
  | some (.kind n) => n ++ "()".toList
  | some (.method _ n) => n ++ "()".toList
  | _ => f.className ++ " object".toList

/-- A file that was opened, used and dropped in one expression leaves a note of the warning. -/
def noteDroppedFile (receiver : Expr) (v : Value) : Run Unit := fun m =>
  match receiver, m.2.object? v with
  | .call .., some (.file _) =>
    let globals := m.2.globals
    let note := "__warningregistry__".toList
    (.ok (), m.1, if (globals.get? note).isSome then m.2
      else m.2.setGlobals (globals.set note (.dict [])))
  | _, _ => (.ok (), m)

/-- The exception that a value stands for where one is raised. -/
def raisable (i : Interpreter) (no : String) (v : Value) : Except Exception Exception :=
  let refused := Except.error (typeError no.toList)
  match i.object? v with
  | some (.exception x) => .ok x
  | some (.kind n) => if n ∈ Exception.kinds then Exception.make n [] else refused
  | _ => refused

/-! ### Changed collections -/

/-- A collection with another value at an index or under a key. -/
def withItem (v k x : Value) : Except Exception Value :=
  match v, int? k with
  | .dict es, _ => checkHashable [k] *> .ok (.dict (Value.put es k x))
  | .list xs, some n =>
    let place := if n < 0 then n + xs.length else n
    if place < 0 || place ≥ xs.length then
      .error (.ofMessage "IndexError" "list assignment index out of range".toList)
    else .ok (.list (xs.set place.toNat x))
  | .list _, none => .error (badIndex "list" k)
  | v, _ =>
    .error (typeError (classQuoted v ++ " object does not support item assignment".toList))

/-- A collection without what is at an index or under a key. -/
def withoutItem (v k : Value) : Except Exception Value :=
  match v, int? k with
  | .dict es, _ =>
    if (Value.lookup es k).isNone then .error ⟨"KeyError".toList, [k]⟩
    else .ok (.dict (es.filter fun e => !Value.equal e.1 k))
  | .list xs, some n =>
    let place := if n < 0 then n + xs.length else n
    if place < 0 || place ≥ xs.length then
      .error (.ofMessage "IndexError" "list assignment index out of range".toList)
    else .ok (.list (xs.eraseIdx place.toNat))
  | .list _, none => .error (badIndex "list" k)
  | v, _ => .error (typeError (classQuoted v ++ " object doesn't support item deletion".toList))

/-! ### Modules -/

/-- Reads the text of a module, whose lines are at hand wherever something means nothing. -/
def readModule (fuel : Nat) (t : Text) : Except Misreading (List Stmt) := do
  let body ← readStatements t
  match wholeFault? fuel body with
  | none => pure body
  | some m => .error { m with
      place := { m.place with source := some (Place.lineOf (Text.unifyNewlines t) m.place.line) } }

/-! ### Expressions and statements -/

mutual

/-- The value of an expression. Collections are values: one of which an item is changed takes the place
of the old one where that is named. -/
def eval (fuel : Nat) (e : Expr) : Run Value := do
  match fuel with
  | 0 => exhausted
  | fuel + 1 =>
    match e with
    | .literal _ v => pure v
    | .ellipsis _ => pure ((builtin? "Ellipsis".toList).getD .none)
    | .name s n => do
      let i ← interpreter
      orRaise s (lookUp i n)
    | .items s b es => do
      let vs ← spread fuel s "Value".toList es
      match b with
      | .list => pure (.list vs)
      | .tuple => pure (.tuple vs)
      | .set => do
        orRaise s (checkHashable vs)
        pure (.set (Value.distinct vs))
    | .starred _ e => eval fuel e
    | .mapping s entries => do
      let ess ← Action.each (fun (e : Option Expr × Expr) => do
        match e.1 with
        | some k =>
          let k ← eval fuel k
          let v ← eval fuel e.2
          pure [(k, v)]
        | none => do
          match ← eval fuel e.2 with
          | .dict es => pure es
          | v => raiseAt s (typeError (classQuoted v ++ " object is not a mapping".toList))) entries
      orRaise s (checkHashable (ess.flatten.map Prod.fst))
      pure (Value.dictOf ess.flatten)
    | .template _ parts => Value.str <$> textOf fuel parts
    | .field s e c format => do
      let v ← eval fuel e
      let specification ← textOf fuel format
      let i ← interpreter
      let shown := fun (t : Except Exception Text) => do
        let t ← orRaise s t
        Value.str <$> orRaise s (formatted (.ok t) (.str t) specification)
      match c with
      | .none => Value.str <$> orRaise s (formatted (plain i v) v specification)
      | .plain => shown (plain i v)
      | .written => shown v.tryWritten
      | .ascii => shown (v.tryWritten.map asciiOnly)
    | .unary _ .not e => do
      let b ← holds fuel e
      pure (.bool !b)
    | .unary s op e => do
      let v ← eval fuel e
      orRaise s (unary op v)
    | .binary s op l r => do
      let v ← eval fuel l
      let w ← eval fuel r
      orRaise s (binary op v w)
    | .compare s first others => do
      let v ← eval fuel first
      compareChain fuel s v others
    | .both _ l r => do
      let v ← eval fuel l
      let i ← interpreter
      if truth i v then eval fuel r else pure v
    | .either _ l r => do
      let v ← eval fuel l
      let i ← interpreter
      if truth i v then pure v else eval fuel r
    | .choice _ c yes no => do
      if ← holds fuel c then eval fuel yes else eval fuel no
    | .member s e n => do
      let v ← eval fuel e
      member s v n
    | .subscript s e k => do
      let v ← eval fuel e
      let k ← eval fuel k
      let i ← interpreter
      orRaise s (subscript i v k)
    | .slice _ a b c => do
      let vs ← Action.each (fun (e : Option Expr) => match e with
        | some e => eval fuel e
        | none => pure .none) [a, b, c]
      match vs with
      | [a, b, c] => alloc (.slice a b c)
      | _ => pure .none
    | .call s (.member ms receiver n) arguments named => do
      let v ← eval fuel receiver
      let f ← member ms v n
      let result ← callWith fuel s f arguments named
      noteDroppedFile receiver v
      pure result
    | .call s f arguments named => do
      let f ← eval fuel f
      callWith fuel s f arguments named
    | .comprehension s .tuple element clauses => do
      let vs ← comprehension fuel s s .tuple element clauses
      alloc (.view "generator".toList vs)
    | .comprehension s b element clauses => do
      let vs ← comprehension fuel s s b element clauses
      pure (match b with
        | .set => .set (Value.distinct vs)
        | _ => .list vs)
    | .mappingComprehension s k v clauses => do
      let first ← firstSource fuel s clauses
      let es ← inComprehension "<dictcomp>" clauses s (clauseItems fuel s (some first) clauses (do
        let key ← eval fuel k
        let value ← eval fuel v
        orRaise s (checkHashable [key])
        pure (.tuple [key, value])))
      pure (Value.dictOf (es.filterMap fun e => match e with
        | .tuple [k, v] => some (k, v)
        | _ => none))
    | .function _ parameters body =>
      routine fuel "<lambda>".toList parameters [.give body.span (some body)]

def holds (fuel : Nat) (e : Expr) : Run Bool := do
  match fuel with
  | 0 => exhausted
  | fuel + 1 => do
    let v ← eval fuel e
    let i ← interpreter
    pure (truth i v)

/-- The values of expressions, in which those with a star stand for several. -/
def spread (fuel : Nat) (s : Span) (user : Text) (es : List Expr) : Run (List Value) := do
  match fuel with
  | 0 => exhausted
  | fuel + 1 => do
    let vss ← Action.each (fun (e : Expr) => match e with
      | .starred _ e => do
        let v ← eval fuel e
        let i ← interpreter
        match items i v with
        | .ok xs => pure xs
        | .error _ => raiseAt s (typeError (user
            ++ " after * must be an iterable, not ".toList ++ v.className))
      | e => do
        let v ← eval fuel e
        pure [v]) es
    pure vss.flatten

def textOf (fuel : Nat) (parts : List Expr) : Run Text := do
  match fuel with
  | 0 => exhausted
  | fuel + 1 => do
    let vs ← Action.each (eval fuel) parts
    pure (vs.flatMap fun v => match v with
      | .str t => t
      | _ => [])

/-- The items of the source of the first clause. -/
def firstSource (fuel : Nat) (s : Span) (clauses : List (Expr × Expr × List Expr)) :
    Run (List Value) := do
  match fuel with
  | 0 => exhausted
  | fuel + 1 =>
    match clauses with
    | [] => pure []
    | (_, source, _) :: _ => do
      let v ← eval fuel source
      let i ← interpreter
      orRaise s (items i v)

/-- The values of a comprehension that are asked for at a piece of the source. -/
def comprehension (fuel : Nat) (asked s : Span) (b : Brackets) (element : Expr)
    (clauses : List (Expr × Expr × List Expr)) : Run (List Value) := do
  match fuel with
  | 0 => exhausted
  | fuel + 1 => do
    let first ← firstSource fuel s clauses
    let name := match b with
      | .list => "<listcomp>"
      | .tuple => "<genexpr>"
      | .set => "<setcomp>"
    inComprehension name clauses asked (clauseItems fuel s (some first) clauses (do
      let v ← eval fuel element
      match b with
      | .set => do
        orRaise s (checkHashable [v])
        pure v
      | _ => pure v))

/-- The values of an action for all the items that some clauses go through. -/
def clauseItems (fuel : Nat) (s : Span) (first : Option (List Value))
    (clauses : List (Expr × Expr × List Expr)) (element : Run Value) : Run (List Value) := do
  match fuel with
  | 0 => exhausted
  | fuel + 1 =>
    match clauses with
    | [] => do
      let v ← element
      pure [v]
    | (target, source, conditions) :: others => do
      let xs ← match first with
        | some xs => pure xs
        | none => do
          let v ← eval fuel source
          let i ← interpreter
          orRaise s (items i v)
      let vss ← Action.each (fun x => do
        assign fuel target x
        if ← allHold fuel conditions then clauseItems fuel s none others element else pure []) xs
      pure vss.flatten

def allHold (fuel : Nat) (conditions : List Expr) : Run Bool := do
  match fuel with
  | 0 => exhausted
  | fuel + 1 =>
    match conditions with
    | [] => pure true
    | c :: cs => do
      if ← holds fuel c then allHold fuel cs else pure false

/-- A function with the defaults that its parameters have now. -/
def routine (fuel : Nat) (name : Text) (parameters : List (Text × Option Expr)) (body : List Stmt) :
    Run Value := do
  match fuel with
  | 0 => exhausted
  | fuel + 1 => do
    let parameters ← Action.each (fun (p : Text × Option Expr) => do
      match p.2 with
      | some e =>
        let v ← eval fuel e
        pure (p.1, some v)
      | none => pure (p.1, none)) parameters
    let i ← interpreter
    alloc (.routine { name, label := i.scope.labelStart ++ name, parameters, body
                      source := i.scope.source, home := i.scope.home, around := i.scope.locals })

/-- Neighbours are compared up to the first pair that fails. -/
def compareChain (fuel : Nat) (s : Span) (v : Value) (others : List (Comparison × Expr)) :
    Run Value := do
  match fuel with
  | 0 => exhausted
  | fuel + 1 =>
    match others with
    | [] => pure (.bool true)
    | (c, e) :: rest => do
      let w ← eval fuel e
      let i ← interpreter
      let w' := match c, i.object? w with
        | .within, some (.view _ xs) | .without, some (.view _ xs) => .list xs
        | .within, some (.range a b k) | .without, some (.range a b k) => .list (rangeItems a b k)
        | _, _ => w
      let b ← orRaise s (compare c v w')
      if b then compareChain fuel s w rest else pure (.bool false)

/-- Calls a function with arguments that are still to be evaluated. A generator that is the only one is
run by the call. -/
def callWith (fuel : Nat) (s : Span) (f : Value) (arguments : List Expr)
    (named : List (Option Text × Span × Expr)) : Run Value := do
  match fuel with
  | 0 => exhausted
  | fuel + 1 => do
    let i ← interpreter
    let vs ← match arguments, named with
      | [.comprehension gs .tuple element clauses], [] => do
        let vs ← comprehension fuel s gs .tuple element clauses
        let g ← alloc (.view "generator".toList vs)
        pure [g]
      | [e], _ => spread fuel s (label i f ++ " argument".toList) [e]
      | es, _ => spread fuel s "Value".toList es
    let nss ← Action.each (fun (n : Option Text × Span × Expr) => do
      let v ← eval fuel n.2.2
      match n.1, v with
      | some name, _ => pure [(name, v)]
      | none, .dict es => pure (es.filterMap fun e => match e.1 with
          | .str t => some (t, e.2)
          | _ => none)
      | none, _ => raiseAt s (typeError (label i f
          ++ " argument after ** must be a mapping, not ".toList ++ v.className))) named
    call fuel s f vs nss.flatten

def call (fuel : Nat) (s : Span) (f : Value) (vs : List Value) (named : List (Text × Value)) :
    Run Value := do
  match fuel with
  | 0 => exhausted
  | fuel + 1 => do
    let i ← interpreter
    match i.object? f with
    | some (.builtin n) =>
      if n = "min".toList || n = "max".toList then
        orRaise s (checkNamed n named)
        let c := if n = "min".toList then Comparison.less else .greater
        if vs.length > 1 && (named? named "default").isSome then
          raiseAt s (typeError ("Cannot specify a default for ".toList ++ n
            ++ "() with multiple positional arguments".toList))
        let vs ← match vs with
          | [v] => orRaise s (items i v)
          | [] => raiseAt s (typeError (n ++ " expected at least 1 argument, got 0".toList))
          | vs => pure vs
        let keyed ← keys fuel s (named? named "key") vs
        match ← orRaise s (extreme c keyed), named? named "default" with
        | some v, _ => pure v
        | none, some d => pure d
        | none, none => raiseAt s (valueError (n ++ "() arg is an empty sequence".toList))
      else if n = "sorted".toList then
        match vs with
        | [v] => do
          let xs ← orRaise s (items i v)
          orRaise s (checkNamed "sort".toList named)
          let backward ← orRaise s (wholeOf ((named? named "reverse").getD (.bool false)))
          let keyed ← keys fuel s (named? named "key") xs
          Value.list <$> orRaise s (sortedBy (backward ≠ 0) keyed)
        | _ => raiseAt s (typeError ("sorted expected 1 argument, got ".toList
            ++ Text.ofNat vs.length))
      else callBuiltin s n vs named
    | some (.kind n) =>
      if n = "map".toList || n = "filter".toList then
        match vs with
        | [g, v] => do
          let xs ← orRaise s (items i v)
          let keyed ← keys fuel s (some g) xs
          alloc (.view n (if n = "map".toList then keyed.map Prod.fst
            else (keyed.filter fun e => truth i e.1).map Prod.snd))
        | _ => raiseAt s (noMethod n)
      else callKind s n vs named
    | some (.routine r) => do
      let d ← orRaise s (r.bindings vs named)
      let (room, j) := i.addRoom d
      changeInterpreter fun _ => j
      under (frameAt s i)
        (inScope (r.scope i.scope.thread room) (returned (execEach fuel r.body)))
    | some (.method v n) => do
      orRaise s (checkCount v n vs.length)
      callMethod fuel s v n vs
    | some (.replMember m) => do
      orRaise s (Repl.call Value.className m vs.length (named.map Prod.fst))
      pure .none
    | _ => raiseAt s (Repl.notCallable f.className)

/-- The values with their keys, which are the values themselves where no function is given. -/
def keys (fuel : Nat) (s : Span) (f : Option Value) (vs : List Value) :
    Run (List (Value × Value)) := do
  match fuel with
  | 0 => exhausted
  | fuel + 1 =>
    match f with
    | none | some .none => pure (vs.map fun v => (v, v))
    | some f =>
      Action.each (fun v => do
        let k ← call fuel s f [v] []
        pure (k, v)) vs

def callMethod (fuel : Nat) (s : Span) (v : Value) (n : Text) (vs : List Value) : Run Value := do
  match fuel with
  | 0 => exhausted
  | fuel + 1 => do
    let i ← interpreter
    let is := fun (m : String) => n = m.toList
    match v, i.object? v with
    | .str t, _ => orRaise s (textMethod i t n vs)
    | .dict es, _ =>
      if is "get" then orRaise s (dictGet es vs)
      else if is "keys" then alloc (.view "dict_keys".toList (es.map Prod.fst))
      else if is "values" then alloc (.view "dict_values".toList (es.map Prod.snd))
      else if is "items" then
        alloc (.view "dict_items".toList (es.map fun e => .tuple [e.1, e.2]))
      else pure v
    | .list xs, _ => orRaise s (sequenceMethod xs n vs)
    | .tuple xs, _ => orRaise s (sequenceMethod xs n vs)
    | _, some (.stream x) =>
      match vs with
      | [.str t] => do
        write x t
        pure (.int t.length)
      | _ => pure .none
    | _, some (.file t) =>
      if is "read" then pure (.str t)
      else if is "readlines" then pure (.list ((Text.linesWithEnds t).map .str))
      else pure .none
    | _, some (.thread f arguments) =>
      if is "start" then do
        let scope : Scope := { i.scope with thread := i.scope.thread + 1 }
        let _ ← Action.attempt (inScope scope (call fuel s f arguments []))
        pure .none
      else pure .none
    | _, some .eventLoop =>
      if is "invoke" then call fuel s (vs.head?.getD .none) [] [] else pure .none
    | _, _ => raiseAt s (noMethod n)

def assign (fuel : Nat) (target : Expr) (v : Value) : Run Unit := do
  match fuel with
  | 0 => exhausted
  | fuel + 1 =>
    match target with
    | .name _ n => changeInterpreter (bind n v)
    | .member s e n => do
      let owner ← eval fuel e
      setMember s owner n v
    | .items s _ ts => do
      let i ← interpreter
      match items i v with
      | .error _ => raiseAt s (typeError
          ("cannot unpack non-iterable ".toList ++ v.className ++ " object".toList))
      | .ok xs => do
        let parts ← orRaise s (shared ts xs)
        let _ ← Action.each (fun (e : Expr × Value) => assign fuel e.1 e.2) parts
    | .subscript s e k => do
      let owner ← eval fuel e
      let k ← eval fuel k
      assign fuel e (← orRaise s (withItem owner k v))
    | _ => pure ()

def delete (fuel : Nat) (target : Expr) : Run Unit := do
  match fuel with
  | 0 => exhausted
  | fuel + 1 =>
    match target with
    | .name s n => fun m => match unbind n m.2 with
      | .ok i => (.ok (), m.1, i)
      | .error e => raiseAt s e m
    | .items _ _ ts => do
      let _ ← Action.each (delete fuel) ts
    | .member s e n => do
      let owner ← eval fuel e
      raiseAt s (attributeError owner n)
    | .subscript s e k => do
      let owner ← eval fuel e
      let k ← eval fuel k
      assign fuel e (← orRaise s (withoutItem owner k))
    | _ => pure ()

def exec (fuel : Nat) (st : Stmt) : Run Unit := do
  match fuel with
  | 0 => exhausted
  | fuel + 1 =>
    match st with
    | .expr _ e => do
      let _ ← eval fuel e
    | .assign _ ts e => do
      let v ← eval fuel e
      let _ ← Action.each (fun t => assign fuel t v) ts
    | .augment s t op e => do
      let v ← eval fuel t
      let w ← eval fuel e
      let i ← interpreter
      let r ← match op, v with
        | .add, .list xs => (fun ys => Value.list (xs ++ ys)) <$> orRaise s (items i w)
        | .bitOr, .dict es => (fun fs => Value.dictOf (es ++ fs)) <$> orRaise s (entriesOf i w)
        | _, _ => orRaise s (augmented op v w)
      assign fuel t r
    | .delete _ ts => do
      let _ ← Action.each (delete fuel) ts
    | .pass _ => pure ()
    | .leave _ => Action.fail .left
    | .proceed _ => Action.fail .proceeded
    | .branch _ c yes no => do
      if ← holds fuel c then execEach fuel yes else execEach fuel no
    | .repeatWhile _ c body no => do
      if ← whileTrue rounds (holds fuel c) (execEach fuel body) then execEach fuel no
    | .forEach s t source body no => do
      let v ← eval fuel source
      let i ← interpreter
      let xs ← orRaise s (items i v)
      let isDone ← forItems (fun x => do
        assign fuel t x
        execEach fuel body) xs
      if isDone then execEach fuel no
    | .define _ n parameters body => do
      let f ← routine fuel n parameters body
      changeInterpreter (bind n f)
    | .give _ none => Action.fail (.given .none)
    | .give _ (some e) => do
      let v ← eval fuel e
      Action.fail (.given v)
    | .raise s none _ =>
      raiseAt s (.ofMessage "RuntimeError" "No active exception to reraise".toList)
    | .raise s (some e) cause => do
      let v ← eval fuel e
      let causes ← Action.each (eval fuel) cause.toList
      let i ← interpreter
      let x ← orRaise s (raisable i "exceptions must derive from BaseException" v)
      let _ ← Action.each (fun c => match c with
        | .none => pure none
        | c => some <$> orRaise s
            (raisable i "exception causes must derive from BaseException" c)) causes
      raiseAt s x
    | .load s ms => do
      let _ ← Action.each (fun (m : Text × Option Text) => do
        let v ← importNamed fuel s m.1
        match m.2 with
        | some a => changeInterpreter (bind a v)
        | none => do
          let top ← alloc (.moduleNamed (Stmt.firstName m.1))
          changeInterpreter (bind (Stmt.firstName m.1) top)) ms
    | .loadFrom s m ns => do
      let v ← importNamed fuel s m
      let _ ← Action.each (fun (n : Text × Option Text) => do
        if n.1 = ['*'] then do
          let i ← interpreter
          changeInterpreter fun j => (publicNames i m).foldl (fun j e => bind e.1 e.2 j) j
        else do
          let x ← importedName fuel s m v n.1
          changeInterpreter (bind (n.2.getD n.1) x)) ns
    | .share _ _ => pure ()
    | .borrow _ _ => pure ()
    | .check _ c message => do
      if ← holds fuel c then pure ()
      else match message with
        | none => raiseAt c.span ⟨"AssertionError".toList, []⟩
        | some e => do
          let m ← eval fuel e
          raiseAt c.span ⟨"AssertionError".toList, [m]⟩

def execEach (fuel : Nat) (ss : List Stmt) : Run Unit := do
  match fuel with
  | 0 => exhausted
  | fuel + 1 => do
    let _ ← Action.each (exec fuel) ss

/-- What a module holds under a name, or the module of that name within it. -/
def importedName (fuel : Nat) (s : Span) (moduleName : Text) (v : Value) (n : Text) : Run Value := do
  match fuel with
  | 0 => exhausted
  | fuel + 1 => do
    match ← Action.attempt (member s v n) with
    | .ok x => pure x
    | .error _ => do
      let i ← interpreter
      let whole := moduleName ++ '.' :: n
      if (packagePlaces? i moduleName).isSome then
        match ← Action.attempt (importNamed fuel s whole) with
        | .ok x => pure x
        | .error (.raised e trace) =>
          if e.message = (noModule whole).message then raiseAt s (noImport i moduleName n)
          else Action.fail (.raised e trace)
        | .error e => Action.fail e
      else raiseAt s (noImport i moduleName n)

/-- The module of a name, which is run when it is first asked for. The module around it comes first, and
knows it from then on. -/
def importNamed (fuel : Nat) (s : Span) (name : Text) : Run Value := do
  match fuel with
  | 0 => exhausted
  | fuel + 1 => do
    let i ← interpreter
    let w ← world
    if (i.modules.get? name).isSome || (builtinModule? name w).isSome then
      alloc (.moduleNamed name)
    else
      let (parent, last) := splitModuleName name
      let places ← match parent with
        | none => pure w.searchPath
        | some p => do
          let _ ← importNamed fuel s p
          let i ← interpreter
          match packagePlaces? i p with
          | some ds => pure ds
          | none =>
            raiseAt s (if p ∈ builtinPackages then noModule name else noPackage name p)
      let w ← lookFor fun _ => places.flatMap fun d => moduleFiles d last
      match origin? w places last with
      | none => raiseAt s (noModule name)
      | some origin => do
        loadModule fuel s name origin
        let v ← alloc (.moduleNamed name)
        match parent with
        | none => pure v
        | some p => do
          changeInterpreter fun i => { i with
            modules := i.modules.set p (((i.modules.get? p).getD {}).set last v) }
          pure v

/-- Runs a module. One that fails is as if it had not been asked for. -/
def loadModule (fuel : Nat) (s : Span) (name : Text) (origin : Origin) : Run Unit := do
  match fuel with
  | 0 => exhausted
  | fuel + 1 => do
    let i ← interpreter
    match origin with
    | .directories _ => changeInterpreter fun i => { i with
        modules := i.modules.set name (moduleNames name origin) }
    | .file file text _ =>
      match readModule fuel text with
      | .error e => raiseAt s (e.exception file)
      | .ok body => do
        changeInterpreter fun i => { i with
          modules := i.modules.set name (moduleNames name origin)
          listings := i.listings.set file (fileListing text) }
        let scope : Scope :=
          { source := file, home := some name, thread := i.scope.thread }
        match ← Action.attempt (under (frameAt s i) (inScope scope (execEach fuel body))) with
        | .ok _ => pure ()
        | .error e => do
          changeInterpreter fun i => { i with modules := i.modules.erase name }
          Action.fail e

end

end Run

end Weave.Program
