import Weave.Decimal.Written
import Weave.Html.Escape
import Weave.Unicode.Alphanumeric
import Weave.Unicode.Identifier
import Weave.Unicode.Lowercase
import Weave.Unicode.Uppercase

/-!
# Expressions of templates

Names, constants, logical operations, comparisons, joined texts, tests and filters. A name that is not
bound is undefined, which is shown as nothing.
-/

set_option autoImplicit false

namespace Weave.Template

/-! ### Data -/

inductive Datum where
  | text (t : Text)
  | int (n : Int)
  | float (x : Float)
  | truth (b : Bool)
  | nothing
  | undefined
  /-- Something that is only known by how it is shown. -/
  | shown (t : Text)
deriving Inhabited

namespace Datum

def isTrue : Datum → Bool
  | .text t => !t.isEmpty
  | .int n => n != 0
  | .float x => x != 0
  | .truth b => b
  | .nothing | .undefined => false
  | .shown _ => true

def written : Datum → Text
  | .text t | .shown t => t
  | .int n => Text.ofInt n
  | .float x => Decimal.ofFloat x
  | .truth b => if b then "True".toList else "False".toList
  | .nothing => "None".toList
  | .undefined => []

/-- Truth values count as numbers. -/
def int? : Datum → Option Int
  | .int n => some n
  | .truth b => some (if b then 1 else 0)
  | _ => none

def equal : Datum → Datum → Bool
  | .text s, .text t | .shown s, .shown t => s = t
  | .float x, .float y => x == y
  | .nothing, .nothing | .undefined, .undefined => true
  | a, b => match a.int?, b.int? with
    | some m, some n => m = n
    | _, _ => false

def less? : Datum → Datum → Option Bool
  | .text s, .text t => some (String.ofList s < String.ofList t)
  | .float x, .float y => some (x < y)
  | a, b => match a.int?, b.int? with
    | some m, some n => some (m < n)
    | _, _ => none

end Datum

/-! ### Lexemes -/

inductive Lexeme where
  | word (t : Text)
  | constant (d : Datum)
  | operator (t : Text)

def Lexeme.isWord (l : Lexeme) (w : String) : Bool :=
  match l with
  | .word t => t = w.toList
  | _ => false

def Lexeme.isOperator (l : Lexeme) (w : String) : Bool :=
  match l with
  | .operator t => t = w.toList
  | _ => false

/-- The operators, longer ones before those that they start with. -/
def operators : List Text :=
  [ "//", "**", "==", "!=", ">=", "<=", "+", "-", "/", "*", "%", "~", "[", "]", "(", ")", "\x7b", "\x7d",
    ">", "<", "=", ".", ":", "|", ",", ";" ].map String.toList

def takeGroups (isDigit : Char → Bool) : Nat → Text → Text
  | 0, _ => []
  | fuel + 1, t =>
    let digits := t.takeWhile isDigit
    if digits.isEmpty then []
    else match t.drop digits.length with
      | '_' :: r =>
        let more := takeGroups isDigit fuel r
        if more.isEmpty then digits else digits ++ '_' :: more
      | _ => digits

def groupsValue (base : Nat) (t : Text) : Nat :=
  (t.filter (· ≠ '_')).foldl (fun n c =>
    base * n + if c.isDigit then c.toNat - 48 else c.toLower.toNat - 87) 0

/-- The number at the front of a text and how many characters it takes. -/
def number? (t : Text) : Option (Datum × Nat) :=
  let decimal := takeGroups Char.isDigit (t.length + 1) t
  if decimal.isEmpty then none
  else
    let rest := t.drop decimal.length
    let fraction := match rest with
      | '.' :: r => match takeGroups Char.isDigit (r.length + 1) r with
        | [] => []
        | ds => '.' :: ds
      | _ => []
    let behind := rest.drop fraction.length
    let power := match behind with
      | e :: r =>
        if e = 'e' || e = 'E' then
          let sign := r.take 1 |>.filter fun c => c = '+' || c = '-'
          match takeGroups Char.isDigit (r.length + 1) (r.drop sign.length) with
          | [] => []
          | ds => e :: sign ++ ds
        else []
      | [] => []
    let whole := decimal ++ fraction ++ power
    if whole.length > decimal.length then
      (Decimal.toFloat? (whole.filter (· ≠ '_'))).map fun x => (.float x, whole.length)
    else
      let based := fun (base : Nat) (isDigit : Char → Bool) =>
        let r := (t.drop 2).dropWhile (· == '_')
        let ds := takeGroups isDigit (r.length + 1) r
        if ds.isEmpty then none
        else some (Datum.int (groupsValue base ds), t.length - r.length + ds.length)
      match t with
      | '0' :: x :: _ =>
        let zeros := takeGroups (· == '0') (t.length + 1) t
        let other := match x.toLower with
          | 'b' => based 2 fun c => c == '0' || c == '1'
          | 'o' => based 8 fun c => '0' ≤ c && c ≤ '7'
          | 'x' => based 16 fun c => c.isDigit || ('a' ≤ c.toLower && c.toLower ≤ 'f')
          | _ => none
        some (other.getD (.int 0, zeros.length))
      | _ => some (.int (groupsValue 10 decimal), decimal.length)

/-- The text in quotation marks at the front of a text, and what follows. -/
def quoted? (quote : Char) : Text → Option (Text × Text)
  | [] => none
  | '\\' :: c :: r => (quoted? quote r).map fun (t, rest) =>
    (match c with
      | 'n' => '\n' :: t
      | 't' => '\t' :: t
      | 'r' => '\r' :: t
      | '\n' => t
      | c => if c = '\\' || c = '\'' || c = '"' then c :: t else '\\' :: c :: t, rest)
  | c :: r =>
    if c = quote then some ([], r) else (quoted? quote r).map fun (t, rest) => (c :: t, rest)

/-- The lexeme at the front of a text that does not start with a blank, and what follows. -/
def lexeme? (t : Text) : Option (Lexeme × Text) :=
  match number? t with
  | some (d, n) => some (.constant d, t.drop n)
  | none =>
    let word := t.takeWhile Unicode.isWordChar
    if !word.isEmpty then
      if Unicode.isIdentifier word then some (.word word, t.drop word.length) else none
    else match t with
      | q :: r =>
        let text := if q = '\'' || q = '"' then quoted? q r else none
        match text with
        | some (s, rest) => some (.constant (.text s), rest)
        | none => (operators.find? fun o => o.isPrefixOf t).map fun o =>
          (.operator o, t.drop o.length)
      | [] => none

/-! ### Syntax -/

inductive Expression where
  | constant (d : Datum)
  | name (t : Text)
  | negative (e : Expression)
  | not (e : Expression)
  | and (e f : Expression)
  | or (e f : Expression)
  | equal (e f : Expression)
  | less (e f : Expression)
  | joined (e f : Expression)
  | choice (test yes : Expression) (no : Option Expression)
  | test (name : Text) (e : Expression)
  | filter (name : Text) (e : Expression) (args : List Expression)
deriving Inhabited

abbrev Reader := List Lexeme → Option (Expression × List Lexeme)

def constantWord? (w : Text) : Option Datum :=
  if w = "true".toList || w = "True".toList then some (.truth true)
  else if w = "false".toList || w = "False".toList then some (.truth false)
  else if w = "none".toList || w = "None".toList then some .nothing
  else none

/-- Texts that stand behind each other are one. -/
def adjacentTexts (t : Text) : List Lexeme → Text × List Lexeme
  | .constant (.text s) :: r => adjacentTexts (t ++ s) r
  | r => (t, r)

mutual

/-- A choice between two values, or what an operation gives. -/
def readChoice : Nat → Reader
  | 0, _ => none
  | fuel + 1, ls => do
    let (e, r) ← readOr fuel ls
    readChoices fuel e r

def readChoices : Nat → Expression → Reader
  | 0, _, _ => none
  | fuel + 1, e, ls =>
    match ls with
    | l :: r =>
      if l.isWord "if" then do
        let (test, r) ← readOr fuel r
        match r with
        | l :: r' =>
          if l.isWord "else" then do
            let (no, r) ← readChoice fuel r'
            readChoices fuel (.choice test e (some no)) r
          else readChoices fuel (.choice test e none) r
        | [] => some (.choice test e none, [])
      else some (e, ls)
    | [] => some (e, [])

def readOr : Nat → Reader
  | 0, _ => none
  | fuel + 1, ls => do
    let (e, r) ← readAnd fuel ls
    match r with
    | l :: r' =>
      if l.isWord "or" then (readOr fuel r').map fun (f, r) => (.or e f, r) else some (e, r)
    | [] => some (e, [])

def readAnd : Nat → Reader
  | 0, _ => none
  | fuel + 1, ls => do
    let (e, r) ← readNot fuel ls
    match r with
    | l :: r' =>
      if l.isWord "and" then (readAnd fuel r').map fun (f, r) => (.and e f, r) else some (e, r)
    | [] => some (e, [])

def readNot : Nat → Reader
  | 0, _ => none
  | fuel + 1, ls =>
    match ls with
    | l :: r =>
      if l.isWord "not" then (readNot fuel r).map fun (e, r) => (.not e, r) else readComparison fuel ls
    | [] => none

def readComparison : Nat → Reader
  | 0, _ => none
  | fuel + 1, ls => do
    let (e, r) ← readJoined fuel ls
    match r with
    | .operator o :: r' =>
      let compared := fun (make : Expression → Expression) =>
        (readJoined fuel r').map fun (f, r) => (make f, r)
      if o = "==".toList then compared fun f => .equal e f
      else if o = "!=".toList then compared fun f => .not (.equal e f)
      else if o = "<".toList then compared fun f => .less e f
      else if o = ">".toList then compared fun f => .less f e
      else if o = "<=".toList then compared fun f => .not (.less f e)
      else if o = ">=".toList then compared fun f => .not (.less e f)
      else some (e, r)
    | _ => some (e, r)

def readJoined : Nat → Reader
  | 0, _ => none
  | fuel + 1, ls => do
    let (e, r) ← readUnary fuel true ls
    match r with
    | l :: r' =>
      if l.isOperator "~" then (readJoined fuel r').map fun (f, r) => (.joined e f, r)
      else some (e, r)
    | [] => some (e, [])

def readUnary : Nat → Bool → Reader
  | 0, _, _ => none
  | fuel + 1, filtered, ls => do
    let (e, r) ← match ls with
      | l :: r =>
        if l.isOperator "-" then (readUnary fuel false r).map fun (e, r) => (.negative e, r)
        else if l.isOperator "+" then readUnary fuel false r
        else readPrimary fuel ls
      | [] => none
    if filtered then readBehind fuel e r else some (e, r)

def readPrimary : Nat → Reader
  | 0, _ => none
  | fuel + 1, ls =>
    match ls with
    | .constant (.text t) :: r =>
      let (t, r) := adjacentTexts t r
      some (.constant (.text t), r)
    | .constant d :: r => some (.constant d, r)
    | .word w :: r => some ((constantWord? w).elim (.name w) .constant, r)
    | l :: r =>
      if l.isOperator "(" then do
        let (e, r) ← readChoice fuel r
        match r with
        | l :: r => if l.isOperator ")" then some (e, r) else none
        | [] => none
      else none
    | [] => none

/-- Filters and tests behind a value. -/
def readBehind : Nat → Expression → Reader
  | 0, _, _ => none
  | fuel + 1, e, ls =>
    match ls with
    | l :: .word w :: r =>
      if l.isOperator "|" then
        match r with
        | l :: r' =>
          if l.isOperator "(" then do
            let (args, r) ← readArguments fuel r'
            readBehind fuel (.filter w e args) r
          else readBehind fuel (.filter w e []) r
        | [] => some (.filter w e [], [])
      else if l.isWord "is" then
        match r with
        | .word t :: r' =>
          if w = "not".toList then readBehind fuel (.not (.test t e)) r'
          else if t = "and".toList || t = "or".toList || t = "if".toList || t = "else".toList then
            readBehind fuel (.test w e) r
          else none
        | _ => readBehind fuel (.test w e) r
      else some (e, ls)
    | _ => some (e, ls)

def readArguments : Nat → List Lexeme → Option (List Expression × List Lexeme)
  | 0, _ => none
  | fuel + 1, ls =>
    match ls with
    | [] => none
    | l :: r =>
      if l.isOperator ")" then some ([], r)
      else do
        let (e, r) ← readChoice fuel ls
        match r with
        | l :: r' =>
          if l.isOperator ")" then some ([e], r')
          else if l.isOperator "," then (readArguments fuel r').map fun (es, r) => (e :: es, r)
          else none
        | [] => none

end

def expression? (ls : List Lexeme) : Option Expression :=
  match readChoice (12 * ls.length + 12) ls with
  | some (e, []) => some e
  | _ => none

/-! ### Values -/

def knownNames : List (String × String) :=
  [ ("range", "<class 'range'>"), ("dict", "<class 'dict'>"),
    ("cycler", "<class 'jinja2.utils.Cycler'>"), ("joiner", "<class 'jinja2.utils.Joiner'>"),
    ("namespace", "<class 'jinja2.utils.Namespace'>"),
    ("lipsum", "<function generate_lorem_ipsum>") ]

def test? (name : Text) (d : Datum) : Option Bool :=
  match String.ofList name, d with
  | "defined", .undefined => some false
  | "defined", _ => some true
  | "undefined", .undefined => some true
  | "undefined", _ => some false
  | "none", .nothing => some true
  | "none", _ => some false
  | "string", .text _ => some true
  | "string", _ => some false
  | "number", d => some (match d with
    | .int _ | .float _ | .truth _ => true
    | _ => false)
  | "true", .truth b => some b
  | "true", _ => some false
  | "false", .truth b => some !b
  | "false", _ => some false
  | _, _ => none

def capitalize (t : Text) : Text :=
  match Unicode.lowercase t with
  | [] => []
  | c :: r => Unicode.capital c ++ r

def filtered? (name : Text) (d : Datum) (args : List Datum) : Option Datum :=
  match String.ofList name, args with
  | "upper", [] => some (.text (Unicode.uppercase d.written))
  | "lower", [] => some (.text (Unicode.lowercase d.written))
  | "capitalize", [] => some (.text (capitalize d.written))
  | "trim", [] => some (.text (Text.trim d.written))
  | "e", [] | "escape", [] => some (.text (Html.escape d.written))
  | "safe", [] | "string", [] => some (.text d.written)
  | "length", [] | "count", [] => match d with
    | .text t => some (.int t.length)
    | .undefined => some (.int 0)
    | _ => none
  | "default", [] | "d", [] => some (match d with
    | .undefined => .text []
    | d => d)
  | "default", [e] | "d", [e] => some (match d with
    | .undefined => e
    | d => d)
  | "default", [e, f] | "d", [e, f] =>
    some (if f.isTrue && !d.isTrue then e else match d with
      | .undefined => e
      | d => d)
  | _, _ => none

mutual

def Expression.value? (bound : Text → Option Text) : Expression → Option Datum
  | .constant d => some d
  | .name t => some (match bound t with
    | some s => .text s
    | none => match knownNames.find? fun k => k.1.toList = t with
      | some (_, s) => .shown s.toList
      | none => .undefined)
  | .negative e => do
    match ← e.value? bound with
    | .float x => some (.float (-x))
    | d => d.int?.map fun n => .int (-n)
  | .not e => do some (.truth !(← e.value? bound).isTrue)
  | .and e f => do
    let d ← e.value? bound
    if d.isTrue then f.value? bound else some d
  | .or e f => do
    let d ← e.value? bound
    if d.isTrue then some d else f.value? bound
  | .equal e f => do some (.truth ((← e.value? bound).equal (← f.value? bound)))
  | .less e f => do (Datum.less? (← e.value? bound) (← f.value? bound)).map .truth
  | .joined e f => do some (.text ((← e.value? bound).written ++ (← f.value? bound).written))
  | .choice test yes no => do
    if (← test.value? bound).isTrue then yes.value? bound
    else match no with
      | some e => e.value? bound
      | none => some .undefined
  | .test name e => do (test? name (← e.value? bound)).map .truth
  | .filter name e args => do filtered? name (← e.value? bound) (← valuesOf bound args)

def valuesOf (bound : Text → Option Text) : List Expression → Option (List Datum)
  | [] => some []
  | e :: es => do
    let d ← e.value? bound
    let ds ← valuesOf bound es
    some (d :: ds)

end

end Weave.Template
