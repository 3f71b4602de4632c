import Weave.Yaml.Node
import Weave.Decimal.Written
import Weave.Value.Order

/-!
# YAML data

The value that a tree of nodes stands for. Scalars are read according to their tag; keys must be
hashable, the last of several equal keys counts, and merged mappings come before a mapping's own
entries.
-/

set_option autoImplicit false

namespace Weave.Yaml

/-- A fault and the depth of the node that has it. -/
structure Flaw where
  depth : Nat
  fault : Fault

namespace Flaw

/-- All values, or the flaw nearest to the root; of equally near ones the first. -/
def collect {α : Type} : List (Except Flaw α) → Except Flaw (List α)
  | [] => .ok []
  | x :: xs =>
    match x, collect xs with
    | .ok v, .ok vs => .ok (v :: vs)
    | .ok _, .error f => .error f
    | .error f, .ok _ => .error f
    | .error f, .error f' => .error (if f'.depth < f.depth then f' else f)

end Flaw

namespace Datum

def raise {α : Type} (kind : String) (message : Text) : Scan α :=
  .error (.raised (.ofMessage kind message))

/-! ### Scalars -/

def digit? (base : Nat) (c : Char) : Option Nat :=
  (Scanner.hexValue? c).filter (· < base)

/-- Digits of a base behind an optional sign, with blanks around them. -/
def integer (base : Nat) (t : Text) : Scan Int :=
  let (negative, digits) := Decimal.signed (Text.trim t)
  let letter := if base = 2 then 'b' else if base = 8 then 'o' else 'x'
  let digits := match digits with
    | '0' :: c :: r => if base ≠ 10 && c.toLower = letter then r else digits
    | ds => ds
  let count := (digits.takeWhile Char.isDigit).length
  if base = 10 && count > Value.digitLimit then .error (.raised (.tooLongNumeral count))
  else match digits.mapM (digit? base) with
  | some (d :: ds) =>
    let n := (d :: ds).foldl (fun n d => base * n + d) 0
    .ok (if negative then -(n : Int) else n)
  | _ =>
    raise "ValueError"
      ("invalid literal for int() with base ".toList ++ Text.ofNat base ++ ": ".toList ++ Text.quote t)

def float (t : Text) : Scan Float :=
  match Decimal.toFloat? (Text.trim t) with
  | some x => .ok x
  | none => raise "ValueError" ("could not convert string to float: ".toList ++ Text.quote t)

/-- The sign of a number and what follows it; there has to be something to look at. -/
def sign (t : Text) : Scan (Bool × Text) :=
  match t with
  | [] => raise "IndexError" "string index out of range".toList
  | t => .ok (Decimal.signed t)

def intOf (t : Text) : Scan Value := do
  let (negative, t) ← sign (t.filter (· ≠ '_'))
  let magnitude ←
    if t = ['0'] then pure 0
    else match t with
      | '0' :: 'b' :: r => integer 2 r
      | '0' :: 'x' :: r => integer 16 r
      | '0' :: _ => integer 8 t
      | [] => raise "IndexError" "string index out of range".toList
      | _ =>
        if t.contains ':' then do
          let parts ← (Text.splitOn ':' t).mapM (integer 10)
          pure (parts.foldl (fun n d => 60 * n + d) 0)
        else integer 10 t
  pure (.int (if negative then -magnitude else magnitude))

def floatOf (t : Text) : Scan Value := do
  let (negative, t) ← sign ((t.filter (· ≠ '_')).map Char.toLower)
  let magnitude ←
    if t = ".inf".toList then pure (1.0 / 0.0)
    else if t = ".nan".toList then pure (0.0 / 0.0)
    else if t.contains ':' then do
      let parts ← (Text.splitOn ':' t).mapM float
      pure (parts.reverse.foldl (fun (x, base) d => (x + d * base, base * 60.0)) (0.0, 1.0)).1
    else float t
  pure (.float (if negative then -magnitude else magnitude))

def boolOf (t : Text) : Scan Value :=
  let word := t.map Char.toLower
  if ["yes", "true", "on"].any fun w => w.toList = word then .ok (.bool true)
  else if ["no", "false", "off"].any fun w => w.toList = word then .ok (.bool false)
  else .error (.raised ⟨"KeyError".toList, [.str word]⟩)

/-- The six bits that a character of base 64 stands for. -/
def sixBits? (c : Char) : Option Nat :=
  let alphabet := "ABCDEFGHIJKLMNOPQRSTUVWXYZabcdefghijklmnopqrstuvwxyz0123456789+/".toList
  let i := alphabet.findIdx (· = c)
  if i < 64 then some i else none

/-- The bytes of a text in base 64. Other characters are skipped, and padding ends the text. -/
def base64 (quad left pads : Nat) : Text → Option (List UInt8)
  | [] => if quad = 0 then some [] else none
  | c :: r =>
    if c = '=' then
      if quad ≥ 2 && quad + pads + 1 ≥ 4 then some []
      else base64 quad left (if quad ≥ 2 then pads + 1 else pads) r
    else match sixBits? c with
      | none => base64 quad left pads r
      | some n =>
        let byte := fun (n : Nat) (rest : Option (List UInt8)) => rest.map (UInt8.ofNat n :: ·)
        match quad with
        | 0 => base64 1 n 0 r
        | 1 => byte (left * 4 + n / 16) (base64 2 (n % 16) 0 r)
        | 2 => byte (left * 16 + n / 4) (base64 3 (n % 4) 0 r)
        | _ => byte (left * 64 + n) (base64 0 0 0 r)

def bytesOf (t : Text) : Scan Value :=
  if t.all fun c => c.toNat < 128 then
    match base64 0 0 0 t with
    | some bs => .ok (.bytes bs)
    | none => malformed
  else malformed

def daysIn (year month : Nat) : Nat :=
  if month = 2 then
    if year % 4 = 0 && (year % 100 ≠ 0 || year % 400 = 0) then 29 else 28
  else if [4, 6, 9, 11].contains month then 30 else 31

/-- How a difference of less than a week from universal time is written. -/
def offsetText (minutes : Int) : Text :=
  let days := minutes / 1440
  let seconds := minutes % 1440 * 60
  let parts :=
    (if days = 0 then [] else ["days=".toList ++ Text.ofInt days])
      ++ (if seconds = 0 then [] else ["seconds=".toList ++ Text.ofInt seconds])
  "datetime.timedelta(".toList ++ Text.join ", ".toList parts ++ [')']

def instant (className : String) (id : Nat) : Value :=
  .object className.toList id (Value.objectText className.toList)

/-- A day or a moment; equal ones are the same object. -/
def momentOf (s : Node.Stamp) : Scan Value := do
  let fail := fun (message : String) => raise "ValueError" message.toList
  match s.zone with
  | some z =>
    if z.natAbs ≥ 1440 then
      let message := "offset must be a timedelta strictly between -timedelta(hours=24) and "
        ++ "timedelta(hours=24), not "
      raise "ValueError" (message.toList ++ offsetText z ++ ['.'])
    else pure ()
  | none => pure ()
  if s.year = 0 then fail "year 0 is out of range"
  else if s.month = 0 || s.month > 12 then fail "month must be in 1..12"
  else if s.day = 0 || s.day > daysIn s.year s.month then fail "day is out of range for month"
  else
    let day := (s.year * 100 + s.month) * 100 + s.day
    match s.time with
    | none => pure (instant "datetime.date" day)
    | some (hour, minute, second) =>
      if hour > 23 then fail "hour must be in 0..23"
      else if minute > 59 then fail "minute must be in 0..59"
      else if second > 59 then fail "second must be in 0..59"
      else
        let moment := ((day * 100 + hour) * 100 + minute) * 100 + second
        pure (instant "datetime.datetime" moment)

def stampOf (t : Text) : Scan Value :=
  match Node.stamp? (Node.withoutLineEnd t) with
  | some s => momentOf s
  | none => raise "AttributeError" "'NoneType' object has no attribute 'groupdict'".toList

/-- A text that cannot be encoded; equal ones are the same object. -/
def brokenText (t : Text) : Value :=
  .object "str".toList (t.foldl (fun n c => 0x110000 * n + c.toNat) 1) t

/-- Reads a scalar by its tag. -/
def scalar (tag : Text) (t : Text) : Scan Value :=
  let isTag := fun (name : String) => tag = Node.standard name
  if isTag "null" then .ok .none
  else if isTag "bool" then boolOf t
  else if isTag "int" then intOf t
  else if isTag "float" then floatOf t
  else if isTag "binary" then bytesOf t
  else if isTag "timestamp" then stampOf t
  else if isTag "str" then .ok (.str t)
  else if tag = Node.brokenTag then .ok (brokenText t)
  else malformed

/-! ### Collections -/

/-- The text of a scalar; a mapping lends the scalar that its `=` key names. -/
def scalarText? : Nat → Node → Option Text
  | 0, _ => none
  | _ + 1, .scalar _ t => some t
  | _ + 1, .seq _ _ => none
  | fuel + 1, .map _ entries =>
    match entries.find? fun e => e.1.tag = Node.standard "value" with
    | some (_, v) => scalarText? fuel v
    | none => none

/-- A mapping's entries, those that it merges first and in reverse order of the list that names them. -/
def flatten : Nat → List (Node × Node) → Option (List (Node × Node))
  | 0, _ => none
  | fuel + 1, entries => do
    let merged ← entries.filterMapM fun (k, v) =>
      if k.tag = Node.standard "merge" then
        match v with
        | .map _ es => (flatten fuel es).map some
        | .seq _ items => do
          let parts ← items.mapM fun n => match n with
            | .map _ es => flatten fuel es
            | _ => none
          some (some parts.reverse.flatten)
        | .scalar _ _ => none
      else some none
    let own := entries.filterMap fun (k, v) =>
      if k.tag = Node.standard "merge" then none
      else if k.tag = Node.standard "value" then
        match k with
        | .scalar _ t => some (Node.scalar (Node.standard "str") t, v)
        | .seq _ items => some (Node.seq (Node.standard "str") items, v)
        | .map _ es => some (Node.map (Node.standard "str") es, v)
      else some (k, v)
    some (merged.flatten ++ own)

/-- Collections cannot be keys. -/
def isCollection (tag : Text) : Bool :=
  ["seq", "map", "set", "omap", "pairs"].any fun name => tag = Node.standard name

/-- The value of a node that stands at this depth. -/
def build : Nat → Nat → Node → Except Flaw Value
  | 0, depth, _ => .error ⟨depth, .malformed⟩
  | fuel + 1, depth, n =>
    let fail : Except Flaw Value := .error ⟨depth, .malformed⟩
    let failInside : Except Flaw Value := .error ⟨depth + 1, .malformed⟩
    let inner := build fuel (depth + 1)
    let isTag := fun (name : String) => n.tag = Node.standard name
    let entriesOf : Node → Except Flaw (List (Value × Value)) := fun n =>
      match n with
      | .map _ entries =>
        match flatten fuel entries with
        | none => .error ⟨depth + 1, .malformed⟩
        | some entries =>
          Flaw.collect <| entries.map fun (k, v) =>
            if isCollection k.tag then .error ⟨depth + 1, .malformed⟩
            else do
              let key ← inner k
              let value ← inner v
              pure (key, value)
      | _ => .error ⟨depth + 1, .malformed⟩
    if isTag "seq" then
      match n with
      | .seq _ items => (Flaw.collect (items.map inner)).map Value.list
      | _ => failInside
    else if isTag "map" then (entriesOf n).map Value.dictOf
    else if isTag "set" then
      (entriesOf n).map fun es => .set (Value.distinct (es.map Prod.fst))
    else if isTag "omap" || isTag "pairs" then
      match n with
      | .seq _ items =>
        let pairs := items.map fun item => match item with
          | .map _ [(k, v)] => do
            let key ← inner k
            let value ← inner v
            pure (Value.tuple [key, value])
          | _ => failInside
        (Flaw.collect pairs).map Value.list
      | _ => failInside
    else match scalarText? fuel n with
      | some t =>
        match scalar n.tag t with
        | .ok v => .ok v
        | .error f => .error ⟨depth, f⟩
      | none => fail

mutual

def size : Node → Nat
  | .scalar _ _ => 1
  | .seq _ items => sizeEach items + 1
  | .map _ entries => sizeEntries entries + 1

def sizeEach : List Node → Nat
  | [] => 0
  | n :: ns => size n + sizeEach ns

def sizeEntries : List (Node × Node) → Nat
  | [] => 0
  | (k, v) :: es => size k + size v + sizeEntries es

end

/-- The value of a text that holds at most one document; an empty text holds nothing. -/
def read (t : Text) : Scan Value := do
  match ← Node.read t with
  | none => pure .none
  | some n =>
    match build (size n + 1) 0 n with
    | .ok v => pure v
    | .error f => .error f.fault

end Datum

end Weave.Yaml
