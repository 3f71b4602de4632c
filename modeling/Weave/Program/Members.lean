import Weave.Program.Machine
import Weave.Unicode.Digits
import Weave.Unicode.Identifier
import Weave.Unicode.Lowercase
import Weave.Unicode.Uppercase

/-!
# Members of values

What programs can ask texts, dictionaries and sequences to do.
-/

set_option autoImplicit false

namespace Weave.Program

/-! ### Functions of texts -/

def capitalized : Text → Text
  | [] => []
  | c :: r => Unicode.capital c ++ Unicode.lowercase r

/-- Every word, a run of letters, with a capital. -/
def titled (t : Text) : Text :=
  (t.foldl (fun (acc : List Text × Bool) c =>
    if !Unicode.isCased c then ([c] :: acc.1, false)
    else ((if acc.2 then Unicode.smallLetter c else Unicode.capital c) :: acc.1, true))
    ([], false)).1.reverse.flatten

def wordsOf (t : Text) : List Text :=
  let (parts, last) := t.foldr (fun c (acc : List Text × Text) =>
    if Text.isBlank c then (if acc.2.isEmpty then acc.1 else acc.2 :: acc.1, []) else (acc.1, c :: acc.2))
    ([], [])
  if last.isEmpty then parts else last :: parts

/-- The parts between the occurrences of a text. -/
def partsBetween (mark : Text) : Nat → Text → List Text
  | 0, t => [t]
  | fuel + 1, t =>
    match Text.cut? mark t with
    | some (before, rest) => before :: partsBetween mark fuel rest
    | none => [t]

def textMethods : List String :=
  [ "upper", "lower", "capitalize", "title", "strip", "lstrip", "rstrip", "split", "splitlines",
    "join", "replace", "startswith", "endswith", "count", "find", "isdigit", "isidentifier" ]

def dictMethods : List String := ["get", "keys", "values", "items", "copy"]

def sequenceMethods : List String := ["index", "count", "copy"]

def tupleMethods : List String := ["index", "count"]

def methodsOf (i : Interpreter) (v : Value) : List String :=
  match v, i.object? v with
  | .str _, _ => textMethods
  | .dict _, _ => dictMethods
  | .list _, _ => sequenceMethods
  | .tuple _, _ => tupleMethods
  | _, some (.stream _) => ["write", "flush"]
  | _, some (.file _) => ["read", "readlines", "close"]
  | _, some (.thread _ _) => ["start", "join"]
  | _, some .eventLoop => ["run", "invoke", "schedule_restart"]
  | _, _ => []

def attributeError (v : Value) (n : Text) : Exception :=
  .ofMessage "AttributeError" (classQuoted v ++ " object has no attribute ".toList ++ Text.quote n)

def noMethod (n : Text) : Exception :=
  typeError (n ++ "() got unsupported arguments".toList)

/-- The functions of a value that take no argument, and those that take exactly one. -/
def methodCounts : List (String × List String × List String) :=
  [ ("str", ["upper", "lower", "capitalize", "title", "isdigit", "isidentifier"], ["join"]),
    ("dict", ["keys", "values", "items", "copy"], []),
    ("list", ["copy"], ["count"]), ("tuple", [], ["count"]) ]

/-- Refuses a number of arguments that a function of a value does not take. -/
def checkCount (v : Value) (n : Text) (count : Nat) : Except Exception Unit :=
  let label := v.className ++ '.' :: n ++ "() takes ".toList
  let given := " (".toList ++ Text.ofNat count ++ " given)".toList
  match methodCounts.find? fun m => m.1.toList = v.className with
  | none => .ok ()
  | some (_, without, single) =>
    if count > 0 && without.any fun m => m.toList = n then
      .error (typeError (label ++ "no arguments".toList ++ given))
    else if count ≠ 1 && single.any fun m => m.toList = n then
      .error (typeError (label ++ "exactly one argument".toList ++ given))
    else .ok ()

def texts? (vs : List Value) : Option (List Text) :=
  vs.mapM fun v => match v with
    | .str t => some t
    | _ => none

def textMethod (i : Interpreter) (t : Text) (n : Text) (vs : List Value) :
    Except Exception Value :=
  let is := fun (m : String) => n = m.toList
  match vs with
  | [] =>
    if is "upper" then .ok (.str (Unicode.uppercase t))
    else if is "lower" then .ok (.str (Unicode.lowercase t))
    else if is "capitalize" then .ok (.str (capitalized t))
    else if is "title" then .ok (.str (titled t))
    else if is "strip" then .ok (.str (Text.trim t))
    else if is "lstrip" then .ok (.str (Text.trimStart t))
    else if is "rstrip" then .ok (.str (Text.trimEnd t))
    else if is "split" then .ok (.list ((wordsOf t).map .str))
    else if is "splitlines" then .ok (.list ((Text.lines t).map .str))
    else if is "isdigit" then .ok (.bool (!t.isEmpty && t.all Unicode.isDecimalDigit))
    else if is "isidentifier" then .ok (.bool (Unicode.isIdentifier t))
    else .error (noMethod n)
  | [.str a] =>
    let among := fun (c : Char) => a.contains c
    if is "strip" then .ok (.str (Text.trimWhile among t))
    else if is "lstrip" then .ok (.str (t.dropWhile among))
    else if is "rstrip" then .ok (.str (Text.dropEndWhile among t))
    else if is "split" then
      if a.isEmpty then .error (valueError "empty separator".toList)
      else .ok (.list ((partsBetween a t.length t).map .str))
    else if is "startswith" then .ok (.bool (Text.startsWith t a))
    else if is "endswith" then .ok (.bool (Text.endsWith t a))
    else if is "count" then
      .ok (.int (if a.isEmpty then t.length + 1 else (partsBetween a t.length t).length - 1))
    else if is "find" then
      match Text.cut? a t with
      | some (before, _) => .ok (.int before.length)
      | none => .ok (.int (-1))
    else if is "join" then .ok (.str (Text.join t (a.map fun c => [c])))
    else .error (noMethod n)
  | [.str a, .str b] =>
    if is "replace" then
      .ok (.str (if a.isEmpty then b ++ t.flatMap fun c => c :: b else Text.replaceAll a b t))
    else .error (noMethod n)
  | [v] =>
    if is "join" then do
      let xs ← (items i v).mapError fun _ => typeError "can only join an iterable".toList
      match texts? xs with
      | some ts => pure (.str (Text.join t ts))
      | none =>
        let at_ := (xs.takeWhile fun x => (texts? [x]).isSome).length
        let found := (xs[at_]?).getD .none
        .error (typeError ("sequence item ".toList ++ Text.ofNat at_
          ++ ": expected str instance, ".toList ++ found.className ++ " found".toList))
    else if is "count" || is "find" then
      .error (typeError ("must be str, not ".toList ++ v.className))
    else if is "startswith" || is "endswith" then
      .error (typeError (n ++ " first arg must be str or a tuple of str, not ".toList ++ v.className))
    else .error (noMethod n)
  | _ => .error (noMethod n)

/-! ### Functions of sequences -/

def sequenceMethod (xs : List Value) (n : Text) (vs : List Value) : Except Exception Value :=
  match vs with
  | [] => if n = "copy".toList then .ok (.list xs) else .error (noMethod n)
  | [v] =>
    if n = "count".toList then .ok (.int (xs.filter fun x => Value.equal x v).length)
    else if n = "index".toList then
      match xs.findIdx? fun x => Value.equal x v with
      | some k => .ok (.int k)
      | none => do
        let shown ← v.tryWritten
        .error (valueError (shown ++ " is not in list".toList))
    else .error (noMethod n)
  | _ => .error (noMethod n)

def dictGet (es : List (Value × Value)) (vs : List Value) : Except Exception Value :=
  match vs with
  | [] => .error (typeError "get expected at least 1 argument, got 0".toList)
  | [k] => checkHashable [k] *> .ok ((Value.lookup es k).getD .none)
  | [k, d] => checkHashable [k] *> .ok ((Value.lookup es k).getD d)
  | vs => .error (typeError ("get expected at most 2 arguments, got ".toList ++ Text.ofNat vs.length))

end Weave.Program
