import Weave.Program.Machine
import Weave.Program.Numeral
import Weave.Value.Sorted

/-!
# Data as text

Values written as the numbers, texts, arrays and objects of the JSON format, and read back.
-/

set_option autoImplicit false

namespace Weave.Program

namespace Json

/-- How values are written. -/
structure Style where
  /-- What a step of indentation is made of. Without one everything stands on one line. -/
  indent : Option Text := none
  itemMark : Text := ", ".toList
  keyMark : Text := ": ".toList
  asciiOnly : Bool := true
  sorted : Bool := false
deriving Repr, Inhabited

/-! ### Writing -/

def escape (asciiOnly : Bool) (c : Char) : Text :=
  let unit := fun (n : Nat) => "\\u".toList ++ Text.hexDigits 4 n
  if c = '"' then ['\\', '"']
  else if c = '\\' then ['\\', '\\']
  else if c = '\n' then ['\\', 'n']
  else if c = '\r' then ['\\', 'r']
  else if c = '\t' then ['\\', 't']
  else if c = '\x08' then ['\\', 'b']
  else if c = '\x0c' then ['\\', 'f']
  else if c.toNat < 0x20 then unit c.toNat
  else if c.toNat < 0x7f || !asciiOnly then [c]
  else if c.toNat < 0x10000 then unit c.toNat
  else
    let n := c.toNat - 0x10000
    unit (0xd800 + n / 0x400) ++ unit (0xdc00 + n % 0x400)

def quoted (asciiOnly : Bool) (t : Text) : Text := '"' :: t.flatMap (escape asciiOnly) ++ ['"']

def number (x : Float) : Text :=
  if x.isNaN then "NaN".toList
  else if x.isInf then (if x < 0.0 then "-Infinity" else "Infinity").toList
  else Decimal.ofFloat x

def keyText (v : Value) : Except Exception Text :=
  match v with
  | .str t => .ok t
  | .bool b => .ok (if b then "true".toList else "false".toList)
  | .none => .ok "null".toList
  | .float x => .ok (number x)
  | .int _ => v.tryWritten
  | v => .error (typeError ("keys must be str, int, float, bool or None, not ".toList ++ v.className))

/-- What stands in front of an item at a depth. -/
def lineStart (s : Style) (depth : Nat) : Text :=
  match s.indent with
  | none => []
  | some step => '\n' :: (List.replicate depth step).flatten

def enclosed (s : Style) (depth : Nat) (left right : Char) (parts : List Text) : Text :=
  if parts.isEmpty then [left, right]
  else left :: lineStart s (depth + 1)
    ++ Text.join (s.itemMark ++ lineStart s (depth + 1)) parts ++ lineStart s depth ++ [right]

mutual

/-- The text of a value at a depth. Dictionaries have been put in order before. -/
def written (s : Style) (depth : Nat) (v : Value) : Except Exception Text :=
  match v with
  | .none => .ok "null".toList
  | .bool b => .ok (if b then "true".toList else "false".toList)
  | .int n => (Value.int n).tryWritten
  | .float x => .ok (number x)
  | .str t => .ok (quoted s.asciiOnly t)
  | .list xs => (writtenEach s (depth + 1) xs).map (enclosed s depth '[' ']')
  | .tuple xs => (writtenEach s (depth + 1) xs).map (enclosed s depth '[' ']')
  | .dict es => (writtenEntries s (depth + 1) es).map (enclosed s depth '{' '}')
  | v => .error (typeError
      ("Object of type ".toList ++ v.className ++ " is not JSON serializable".toList))

def writtenEach (s : Style) (depth : Nat) : List Value → Except Exception (List Text)
  | [] => .ok []
  | v :: vs => do
    let t ← written s depth v
    let ts ← writtenEach s depth vs
    pure (t :: ts)

def writtenEntries (s : Style) (depth : Nat) : List (Value × Value) → Except Exception (List Text)
  | [] => .ok []
  | (k, v) :: es => do
    let key ← keyText k
    let t ← written s depth v
    let ts ← writtenEntries s depth es
    pure ((quoted s.asciiOnly key ++ s.keyMark ++ t) :: ts)

end

mutual

/-- A value with the entries of all its dictionaries ordered by their keys. -/
def ordered (v : Value) : Except Exception Value :=
  match v with
  | .list xs => (orderedEach xs).map .list
  | .tuple xs => (orderedEach xs).map .tuple
  | .dict es => do
    let es ← orderedEntries es
    let es ← Sorted.sortM (fun (a b : Value × Value) => less .less a.1 b.1) es
    pure (.dict es)
  | v => .ok v

def orderedEach : List Value → Except Exception (List Value)
  | [] => .ok []
  | v :: vs => do
    let w ← ordered v
    let ws ← orderedEach vs
    pure (w :: ws)

def orderedEntries : List (Value × Value) → Except Exception (List (Value × Value))
  | [] => .ok []
  | (k, v) :: es => do
    let w ← ordered v
    let fs ← orderedEntries es
    pure ((k, w) :: fs)

end

def ofValue (s : Style) (v : Value) : Except Exception Text := do
  let v ← if s.sorted then ordered v else pure v
  written s 0 v

/-! ### Reading -/

def isBlank (c : Char) : Bool := c = ' ' || c = '\t' || c = '\n' || c = '\r'

def skipBlanks (t : Text) : Text := t.dropWhile isBlank

/-- The exception for a text of which so much is left. -/
def refused (whole : Text) (reason : String) (left : Text) : Exception :=
  let place := whole.length - left.length
  let before := whole.take place
  let line := before.count '\n' + 1
  let column := (before.reverse.takeWhile (· ≠ '\n')).length + 1
  .ofMessage "JSONDecodeError" (reason.toList ++ ": line ".toList ++ Text.ofNat line
    ++ " column ".toList ++ Text.ofNat column ++ " (char ".toList ++ Text.ofNat place ++ [')'])

def hexUnit? (t : Text) : Option Nat :=
  let ds := t.take 4
  if ds.length = 4 && ds.all (Numeral.isDigitOf 16) then some (Numeral.valueOf 16 ds) else none

/-- The character that an escape stands for, and how long the escape is. Two halves of a character are
read together. -/
def unescaped? : Text → Option (Char × Nat)
  | 'u' :: r =>
    match hexUnit? r with
    | none => none
    | some n =>
      let low := match r.drop 4 with
        | '\\' :: 'u' :: r' => hexUnit? r'
        | _ => none
      match low with
      | some m =>
        if 0xd800 ≤ n && n < 0xdc00 && 0xdc00 ≤ m && m < 0xe000 then
          some (Char.ofNat (0x10000 + (n - 0xd800) * 0x400 + (m - 0xdc00)), 11)
        else some (Char.ofNat n, 5)
      | none => some (Char.ofNat n, 5)
  | c :: _ =>
    let plain := [('"', '"'), ('\\', '\\'), ('/', '/'), ('b', '\x08'), ('f', '\x0c'), ('n', '\n'),
      ('r', '\r'), ('t', '\t')]
    (plain.find? fun p => p.1 = c).map fun p => (p.2, 1)
  | [] => none

def text (whole : Text) : Nat → Text → Except Exception (Text × Text)
  | 0, t => .error (refused whole "Unterminated string starting at" t)
  | fuel + 1, t =>
    match t with
    | [] => .error (refused whole "Unterminated string starting at" t)
    | '"' :: r => .ok ([], r)
    | '\\' :: r =>
      match unescaped? r with
      | none => .error (refused whole "Invalid \\escape" t)
      | some (c, n) => (text whole fuel (r.drop n)).map fun (cs, rest) => (c :: cs, rest)
    | c :: r =>
      if c.toNat < 0x20 then .error (refused whole "Invalid control character at" t)
      else (text whole fuel r).map fun (cs, rest) => (c :: cs, rest)

/-- A number: whole unless it has a fraction or an exponent. -/
def numeral? (t : Text) : Option (Except Exception (Value × Text)) :=
  let (sign, r) : Text × Text := match t with
    | '-' :: r => (['-'], r)
    | r => ([], r)
  let whole := match r with
    | '0' :: _ => ['0']
    | r => r.takeWhile Char.isDigit
  if whole.isEmpty then none
  else
    let r := r.drop whole.length
    let behindPoint := match r with
      | '.' :: r' => r'.takeWhile Char.isDigit
      | _ => []
    let fraction := if behindPoint.isEmpty then [] else '.' :: behindPoint
    let r := r.drop fraction.length
    let exponent := match r with
      | e :: r' =>
        if e = 'e' || e = 'E' then
          let s := match r' with
            | c :: _ => if c = '+' || c = '-' then [c] else []
            | [] => []
          let ds := (r'.drop s.length).takeWhile Char.isDigit
          if ds.isEmpty then [] else e :: s ++ ds
        else []
      | [] => []
    let r := r.drop exponent.length
    if fraction.isEmpty && exponent.isEmpty then
      if whole.length > Value.digitLimit then some (.error (.tooLongNumeral whole.length))
      else
        let n : Int := Decimal.digitsValue whole
        some (.ok (.int (if sign.isEmpty then n else -n), r))
    else some (.ok (.float ((Decimal.toFloat? (sign ++ whole ++ fraction ++ exponent)).getD 0.0), r))

def words : List (String × Value) :=
  [ ("null", .none), ("true", .bool true), ("false", .bool false), ("NaN", .float (0.0 / 0.0)),
    ("Infinity", .float (1.0 / 0.0)), ("-Infinity", .float (-1.0 / 0.0)) ]

def word? (t : Text) : Option (Value × Text) :=
  words.findSome? fun w => (Text.after? w.1.toList t).map fun rest => (w.2, rest)

mutual

def value (whole : Text) (fuel : Nat) (t : Text) : Except Exception (Value × Text) :=
  match fuel with
  | 0 => .error (.ofMessage "RecursionError" "maximum recursion depth exceeded".toList)
  | fuel + 1 =>
    match t with
    | '"' :: r => (text whole (r.length + 1) r).map fun (s, rest) => (.str s, rest)
    | '[' :: r =>
      match skipBlanks r with
      | ']' :: rest => .ok (.list [], rest)
      | r => (items whole fuel r).map fun (xs, rest) => (.list xs, rest)
    | '{' :: r =>
      match skipBlanks r with
      | '}' :: rest => .ok (.dict [], rest)
      | r => (entries whole fuel r).map fun (es, rest) => (Value.dictOf es, rest)
    | t =>
      match word? t with
      | some found => .ok found
      | none => (numeral? t).getD (.error (refused whole "Expecting value" t))

def items (whole : Text) (fuel : Nat) (t : Text) : Except Exception (List Value × Text) :=
  match fuel with
  | 0 => .error (.ofMessage "RecursionError" "maximum recursion depth exceeded".toList)
  | fuel + 1 => do
    let (v, r) ← value whole fuel t
    match skipBlanks r with
    | ',' :: r =>
      let (vs, rest) ← items whole fuel (skipBlanks r)
      pure (v :: vs, rest)
    | ']' :: rest => pure ([v], rest)
    | r => .error (refused whole "Expecting ',' delimiter" r)

def entries (whole : Text) (fuel : Nat) (t : Text) :
    Except Exception (List (Value × Value) × Text) :=
  match fuel with
  | 0 => .error (.ofMessage "RecursionError" "maximum recursion depth exceeded".toList)
  | fuel + 1 =>
    match t with
    | '"' :: r => do
      let (k, r) ← text whole (r.length + 1) r
      match skipBlanks r with
      | ':' :: r =>
        let (v, r) ← value whole fuel (skipBlanks r)
        match skipBlanks r with
        | ',' :: r =>
          let (es, rest) ← entries whole fuel (skipBlanks r)
          pure ((.str k, v) :: es, rest)
        | '}' :: rest => pure ([(.str k, v)], rest)
        | r => .error (refused whole "Expecting ',' delimiter" r)
      | r => .error (refused whole "Expecting ':' delimiter" r)
    | t => .error (refused whole "Expecting property name enclosed in double quotes" t)

end

def toValue (t : Text) : Except Exception Value :=
  match value t (2 * t.length + 2) (skipBlanks t) with
  | .error e => .error e
  | .ok (v, rest) =>
    match skipBlanks rest with
    | [] => .ok v
    | r => .error (refused t "Extra data" r)

end Json

end Weave.Program
