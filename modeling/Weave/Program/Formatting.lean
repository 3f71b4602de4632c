import Weave.Decimal.Rounded
import Weave.Program.Arithmetic

/-!
# Formatted values

How a value is shown when its appearance is asked for: the width of the field, what fills it, the sign,
the base or the number of places. There are two ways to ask, a specification behind a colon and a
percent sign with a letter.
-/

set_option autoImplicit false

namespace Weave.Program

/-! ### Digits -/

/-- A number in parts: its sign, the mark of its base, the digits that may be grouped, and what follows
them. -/
structure NumberText where
  negative : Bool
  base : Text := []
  whole : Text
  rest : Text := []
deriving DecidableEq, Repr, Inhabited

/-- How a floating-point number is written. -/
inductive FloatStyle where
  /-- The fewest digits that read back. -/
  | shortest
  | fixed
  | scientific
  /-- So many digits, with an exponent where that is shorter. -/
  | general
deriving DecidableEq, Repr, Inhabited

def magnitude (x : Float) : Decimal.Ratio :=
  match Decimal.binary? x.toBits with
  | some b => .scaled b.significand b.exponent
  | none => ⟨0, 1⟩

def fraction (keepPoint : Bool) (ds : Text) : Text :=
  if ds.isEmpty && !keepPoint then [] else '.' :: ds

/-- Digits with the first one standing at a power of ten, without an exponent. -/
def positional (ds : Text) (power : Int) : Text × Text :=
  if power < 0 then (['0'], List.replicate (-power - 1).toNat '0' ++ ds)
  else
    let n := power.toNat + 1
    (ds.take n ++ List.replicate (n - ds.length) '0', ds.drop n)

/-- So many digits, of which zeros at the end are dropped unless the point is kept. -/
def generalText (x : Float) (count : Nat) (keepPoint wholeNeedsZero : Bool) : Text × Text :=
  let (ds, power) := (magnitude x).leading count
  let ds := if keepPoint then ds else Text.dropEndWhile (· = '0') ds
  let ds := if ds.isEmpty then ['0'] else ds
  if power < -4 || power ≥ (count : Int) - (if wholeNeedsZero then 1 else 0) then
    (ds.take 1, fraction keepPoint (ds.drop 1) ++ Decimal.exponentText power)
  else
    let (whole, behind) := positional ds power
    (whole, if behind.isEmpty && wholeNeedsZero then ['.', '0'] else fraction keepPoint behind)

def floatText (style : FloatStyle) (precision : Nat) (keepPoint wholeNeedsZero : Bool) (x : Float) :
    NumberText :=
  let negative := x.toBits >>> 63 != 0 && !x.isNaN
  if x.isNaN then ⟨negative, [], [], "nan".toList⟩
  else if x.isInf then ⟨negative, [], [], "inf".toList⟩
  else match style with
    | .shortest =>
      let t := Decimal.ofFloat x.abs
      let whole := t.takeWhile Char.isDigit
      ⟨negative, [], whole, t.drop whole.length⟩
    | .fixed =>
      let (whole, behind) := (magnitude x).fixed precision
      ⟨negative, [], whole, fraction keepPoint behind⟩
    | .scientific =>
      let (ds, power) := (magnitude x).leading (precision + 1)
      ⟨negative, [], ds.take 1, fraction keepPoint (ds.drop 1) ++ Decimal.exponentText power⟩
    | .general =>
      let (whole, rest) := generalText x (max precision 1) keepPoint wholeNeedsZero
      ⟨negative, [], whole, rest⟩

def capitals (n : NumberText) : NumberText :=
  { n with base := n.base.map Char.toUpper, whole := n.whole.map Char.toUpper
           rest := n.rest.map Char.toUpper }

def NumberText.isZero (n : NumberText) : Bool :=
  n.whole.all (· = '0') && (n.rest.takeWhile fun c => c ≠ 'e').all fun c => c = '0' || c = '.'
    || c = '%'

/-! ### Specifications -/

structure FieldFormat where
  fill : Char := ' '
  align : Option Char := none
  sign : Option Char := none
  /-- A zero has no sign. -/
  plainZero : Bool := false
  alternate : Bool := false
  width : Nat := 0
  grouping : Option Char := none
  precision : Option Nat := none
  kind : Option Char := none
deriving DecidableEq, Repr, Inhabited

namespace FieldFormat

def isAlignment (c : Char) : Bool := "<>=^".toList.contains c

/-- The fill character and the alignment at the front. -/
def takeAlignment : Text → Option Char × Option Char × Text
  | c :: a :: r =>
    if isAlignment a then (some c, some a, r)
    else if isAlignment c then (none, some c, a :: r)
    else (none, none, c :: a :: r)
  | [c] => if isAlignment c then (none, some c, []) else (none, none, [c])
  | [] => (none, none, [])

def takeFlag (c : Char) : Text → Bool × Text
  | d :: r => if c = d then (true, r) else (false, d :: r)
  | [] => (false, [])

def greatest : Nat := Nat.pow 2 63

def takeCount (t : Text) : Except Exception (Option Nat × Text) :=
  let ds := t.takeWhile Char.isDigit
  match Text.toNat? ds with
  | none => .ok (none, t)
  | some n =>
    if n ≥ greatest then .error (valueError "Too many decimal digits in format string".toList)
    else .ok (some n, t.drop ds.length)

def takeGrouping (t : Text) : Except Exception (Option Char × Text) :=
  let both := valueError "Cannot specify both ',' and '_'.".toList
  match t with
  | ',' :: '_' :: _ => .error both
  | ',' :: r => .ok (some ',', r)
  | '_' :: ',' :: _ => .error both
  | '_' :: r => .ok (some '_', r)
  | r => .ok (none, r)

/-- Reads a specification for a value of a class. Zeros in front of the width fill the field, which
for a number they do behind the sign. -/
def read (className : Text) (isNumber : Bool) (t : Text) : Except Exception FieldFormat := do
  let (fill, align, r) := takeAlignment t
  let (sign, r) := match r with
    | c :: r' => if c = '+' || c = '-' || c = ' ' then (some c, r') else (none, r)
    | [] => (none, [])
  let (plainZero, r) := takeFlag 'z' r
  let (alternate, r) := takeFlag '#' r
  let (zeros, r) := if fill.isNone then takeFlag '0' r else (false, r)
  let (width, r) ← takeCount r
  let (grouping, r) ← takeGrouping r
  let (precision, r) ← match r with
    | '.' :: r => do
      let (n, r) ← takeCount r
      if n.isNone then .error (valueError "Format specifier missing precision".toList)
      else pure (n, r)
    | r => pure (none, r)
  match r with
  | _ :: _ :: _ => .error (valueError ("Invalid format specifier '".toList ++ t
      ++ "' for object of type ".toList ++ Text.quote className))
  | r =>
    pure { fill := fill.getD (if zeros then '0' else ' ')
           align := if align.isNone && zeros && isNumber then some '=' else align
           sign, plainZero, alternate, width := width.getD 0, grouping, precision
           kind := r.head? }

end FieldFormat

def padded (f : FieldFormat) (align : Char) (t : Text) : Text :=
  let missing := f.width - t.length
  let left :=
    if align = '<' then 0
    else if align = '^' then missing / 2
    else missing
  List.replicate left f.fill ++ t ++ List.replicate (missing - left) f.fill

/-- Digits in groups from the right, at least so many characters with zeros in front. -/
def grouped (mark : Char) (size : Nat) : Nat → Text → Nat → Text
  | 0, ds, _ => ds.reverse
  | fuel + 1, ds, least =>
    let n := min size (max (max ds.length least) 1)
    let group := ds.take n ++ List.replicate (n - ds.length) '0'
    let rest := ds.drop n
    if rest.isEmpty && least ≤ n then group.reverse
    else grouped mark size fuel rest (least - n - 1) ++ mark :: group.reverse

/-- The digits in groups, if groups are asked for, filled up with zeros to a length. -/
def NumberText.wholeText (n : NumberText) (grouping : Option (Char × Nat)) (least : Nat) : Text :=
  match grouping with
  | none => List.replicate (least - n.whole.length) '0' ++ n.whole
  | some (mark, size) => grouped mark size (n.whole.length + least + 1) n.whole.reverse least

/-- A number in a field. What fills the field stands behind the sign and the base if that is how the
number is aligned. -/
def numberField (f : FieldFormat) (grouping : Option (Char × Nat)) (n : NumberText) : Text :=
  let sign : Text :=
    if n.negative then ['-']
    else match f.sign with
      | some '+' => ['+']
      | some ' ' => [' ']
      | _ => []
  let align := f.align.getD '>'
  let others := sign.length + n.base.length + n.rest.length
  let least := if f.fill = '0' && align = '=' then f.width - others else 0
  let body := n.wholeText grouping least ++ n.rest
  if align = '=' then
    let missing := f.width - sign.length - n.base.length - body.length
    sign ++ n.base ++ List.replicate missing f.fill ++ body
  else padded f align (sign ++ n.base ++ body)

/-! ### Values in fields -/

def unknownFormat (kind : Char) (className : Text) : Exception :=
  valueError ("Unknown format code '".toList ++ [kind] ++ "' for object of type ".toList
    ++ Text.quote className)

/-- The mark between groups and the size of these; not every way to write a number has groups. -/
def groupingOf (f : FieldFormat) (default : Char) : Except Exception (Option (Char × Nat)) :=
  let kind := f.kind.getD default
  match f.grouping with
  | none => .ok none
  | some mark =>
    if "defgEG%F".toList.contains kind then .ok (some (mark, 3))
    else if mark = '_' && "boxX".toList.contains kind then .ok (some (mark, 4))
    else .error (valueError ("Cannot specify '".toList ++ [mark] ++ "' with '".toList ++ [kind]
      ++ "'.".toList))

def textField (f : FieldFormat) (t : Text) : Except Exception Text :=
  let no := fun (what : String) => Except.error
    (valueError (what.toList ++ " not allowed in string format specifier".toList))
  if f.kind.any fun c => c ≠ 's' then .error (unknownFormat (f.kind.getD 's') "str".toList)
  else if f.sign = some ' ' then no "Space"
  else if f.sign.isSome then no "Sign"
  else if f.plainZero then no "Negative zero coercion (z)"
  else if f.alternate then no "Alternate form (#)"
  else if f.align = some '=' then no "'=' alignment"
  else .ok (padded f (f.align.getD '<') (t.take (f.precision.getD t.length)))

/-- The digits of a whole number to a base, with the mark of the base. -/
def baseText (kind : Char) (n : Int) : NumberText :=
  let base : Nat :=
    if kind = 'b' then 2 else if kind = 'o' then 8 else if kind = 'x' || kind = 'X' then 16 else 10
  let digits := Nat.toDigits base n.natAbs
  let mark : Text := if base = 10 then [] else ['0', kind]
  let t : NumberText := ⟨n < 0, mark, digits, []⟩
  if kind = 'X' then capitals t else t

def isFloatKind (kind : Char) : Bool := "eEfFgG%".toList.contains kind

def floatField (f : FieldFormat) (className : Text) (x : Float) : Except Exception Text :=
  let kind := f.kind.getD 'r'
  if f.kind.any fun c => !isFloatKind c && c ≠ 'n' then .error (unknownFormat kind className)
  else do
    let grouping ← groupingOf f 'g'
    let isUpper := kind = 'E' || kind = 'F' || kind = 'G'
    let style : FloatStyle :=
      if kind = 'r' then (if f.precision.isNone then .shortest else .general)
      else if kind = 'e' || kind = 'E' then .scientific
      else if kind = 'f' || kind = 'F' || kind = '%' then .fixed
      else .general
    let n := floatText style (f.precision.getD 6) f.alternate (kind = 'r')
      (if kind = '%' then x * 100.0 else x)
    let n := if kind = '%' then { n with rest := n.rest ++ ['%'] } else n
    let n := if f.plainZero && n.isZero then { n with negative := false } else n
    pure (numberField f grouping (if isUpper then capitals n else n))

def intField (f : FieldFormat) (className : Text) (n : Int) : Except Exception Text :=
  let kind := f.kind.getD 'd'
  let no := fun (what : String) => Except.error
    (valueError (what.toList ++ " not allowed in integer format specifier".toList))
  let noWithCharacter := fun (what : String) => Except.error
    (valueError (what.toList ++ " not allowed with integer format specifier 'c'".toList))
  if isFloatKind kind then do
    let x ← floatOfInt n
    floatField f className x
  else if !"bcdoxXn".toList.contains kind then .error (unknownFormat kind className)
  else do
    let grouping ← groupingOf f 'd'
    if f.precision.isSome then no "Precision"
    else if f.plainZero then no "Negative zero coercion (z)"
    else if kind = 'c' then
      if f.sign.isSome then noWithCharacter "Sign"
      else if f.alternate then noWithCharacter "Alternate form (#)"
      else if n < 0 || n > 0x10ffff then
        .error (overflowError "%c arg not in range(0x110000)")
      else pure (padded f (f.align.getD '<') [Char.ofNat n.toNat])
    else if (kind = 'd' || kind = 'n') && !(Value.int n).isWritable then .error .tooManyDigits
    else
      let t := baseText kind n
      pure (numberField f grouping (if f.alternate then t else { t with base := [] }))

/-- A value as a specification asks for; `shown` is its plain text. -/
def formatted (shown : Except Exception Text) (v : Value) (specification : Text) :
    Except Exception Text :=
  let className := v.className
  if specification.isEmpty then shown
  else match v, int? v with
    | .str t, _ => do
      let f ← FieldFormat.read className false specification
      let _ ← groupingOf f 's'
      textField f t
    | _, some n => do
      let f ← FieldFormat.read className true specification
      intField f className n
    | .float x, none => do
      let f ← FieldFormat.read className true specification
      floatField f className x
    | _, none => .error (typeError ("unsupported format string passed to ".toList ++ className
        ++ ".__format__".toList))

/-! ### Filling in texts -/

/-- A field that begins with a percent sign. -/
structure PercentField where
  key : Option Text := none
  left : Bool := false
  plus : Bool := false
  blank : Bool := false
  alternate : Bool := false
  zeros : Bool := false
deriving DecidableEq, Repr, Inhabited

/-- What is still to be filled in: values one after the other, or one of which parts are asked for. -/
structure Filling where
  values : List Value
  entries : Option (List (Value × Value))
deriving Inhabited

namespace Filling

def next (f : Filling) : Except Exception (Value × Filling) :=
  match f.values with
  | v :: vs => .ok (v, { f with values := vs })
  | [] => .error (typeError "not enough arguments for format string".toList)

/-- The value under a key of the only argument. -/
def atKey (f : Filling) (key : Text) : Except Exception (Value × Filling) :=
  match f.entries with
  | none => .error (typeError "format requires a mapping".toList)
  | some es => match Value.lookup es (.str key) with
    | some v => .ok (v, { f with values := [] })
    | none => .error ⟨"KeyError".toList, [.str key]⟩

end Filling

def takeFlags (f : PercentField) : Text → PercentField × Text
  | '-' :: r => takeFlags { f with left := true } r
  | '+' :: r => takeFlags { f with plus := true } r
  | ' ' :: r => takeFlags { f with blank := true } r
  | '#' :: r => takeFlags { f with alternate := true } r
  | '0' :: r => takeFlags { f with zeros := true } r
  | r => (f, r)

/-- What stands up to the parenthesis that closes, and what follows that. -/
def cutKey : Nat → Text → Option (Text × Text)
  | _, [] => none
  | depth, c :: r =>
    if c = ')' && depth = 0 then some ([], r)
    else
      let depth := if c = '(' then depth + 1 else if c = ')' then depth - 1 else depth
      (cutKey depth r).map fun (t, rest) => (c :: t, rest)

/-- A width or a precision: a number, or an asterisk for the next value. -/
def takeSize (what : String) (f : Filling) (t : Text) : Except Exception (Option Int × Filling × Text) :=
  match t with
  | '*' :: r => do
    let (v, f) ← f.next
    match int? v with
    | some n => pure (some n, f, r)
    | none => .error (typeError "* wants int".toList)
  | t =>
    let ds := t.takeWhile Char.isDigit
    match Text.toNat? ds with
    | some n =>
      if n ≥ FieldFormat.greatest then .error (valueError (what.toList ++ " too big".toList))
      else .ok (some n, f, t.drop ds.length)
    | none => .ok (none, f, t)

/-- The whole number that a number is cut to. -/
def truncated (x : Float) : Except Exception Int :=
  match Number.ofFloat x with
  | .finite m e => .ok (if e ≥ 0 then m * Int.pow 2 e.toNat else Int.tdiv m (Int.pow 2 (-e).toNat))
  | .undefined => .error (valueError "cannot convert float NaN to integer".toList)
  | .infinite _ => .error (overflowError "cannot convert float infinity to integer")

/-- The number that a field shows: its sign, its base and its digits, at least so many. -/
def percentNumber (p : PercentField) (kind : Char) (precision : Option Nat) (v : Value) :
    Except Exception NumberText := do
  let refused := fun (wanted : String) => Except.error (typeError
    ('%' :: kind :: " format: ".toList ++ wanted.toList ++ " is required, not ".toList ++ v.className))
  if "eEfFgG".toList.contains kind then
    match float? v with
    | none => .error (typeError ("must be real number, not ".toList ++ v.className))
    | some x => do
      let x ← x
      let lower := kind.toLower
      let style : FloatStyle :=
        if lower = 'e' then .scientific else if lower = 'f' then .fixed else .general
      let n := floatText style (precision.getD 6) p.alternate false x
      pure (if kind = lower then n else capitals n)
  else
    let isDecimal := kind = 'd' || kind = 'i' || kind = 'u'
    let n ← match int? v, v with
      | some n, _ => pure n
      | none, .float x => if isDecimal then truncated x else refused "an integer"
      | none, _ => refused (if isDecimal then "a real number" else "an integer")
    if isDecimal && !(Value.int n).isWritable then .error .tooManyDigits
    else
      let t := baseText (if isDecimal then 'd' else kind) n
      let whole := List.replicate (precision.getD 0 - t.whole.length) '0' ++ t.whole
      pure { t with whole, base := if p.alternate then t.base else [] }

/-- The character of a field, given by its number or as a text. -/
def percentCharacter (v : Value) : Except Exception Text :=
  match v, int? v with
  | .str [c], _ => .ok [c]
  | _, some n =>
    if n < 0 || n > 0x10ffff then .error (overflowError "%c arg not in range(0x110000)")
    else .ok [Char.ofNat n.toNat]
  | _, none => .error (typeError "%c requires int or char".toList)

/-- The characters beyond the first 128, as escapes. -/
def asciiOnly (t : Text) : Text :=
  t.flatMap fun c =>
    let n := c.toNat
    if n < 0x80 then [c]
    else if n < 0x100 then "\\x".toList ++ Text.hexDigits 2 n
    else if n < 0x10000 then "\\u".toList ++ Text.hexDigits 4 n
    else "\\U".toList ++ Text.hexDigits 8 n

def percentValue (p : PercentField) (kind : Char) (width : Nat) (precision : Option Nat)
    (index : Nat) (v : Value) : Except Exception Text :=
  let inField := fun (t : Text) =>
    let blanks := Text.spaces (width - t.length)
    if p.left then t ++ blanks else blanks ++ t
  if kind = 's' || kind = 'r' || kind = 'a' then do
    let t ← if kind = 's' then v.tryPlain else v.tryWritten
    let t := if kind = 'a' then asciiOnly t else t
    pure (inField (t.take (precision.getD t.length)))
  else if kind = 'c' then inField <$> percentCharacter v
  else if "diuoxXeEfFgG".toList.contains kind then do
    let n ← percentNumber p kind precision v
    let sign : Text := if n.negative then ['-'] else if p.plus then ['+']
      else if p.blank then [' '] else []
    let body := n.whole ++ n.rest
    let missing := width - sign.length - n.base.length - body.length
    pure (if p.zeros && !p.left then sign ++ n.base ++ List.replicate missing '0' ++ body
      else inField (sign ++ n.base ++ body))
  else .error (valueError ("unsupported format character '".toList ++ [kind] ++ "' (0x".toList
    ++ Nat.toDigits 16 kind.toNat ++ ") at index ".toList ++ Text.ofNat index))

/-- A field behind its percent sign, of a text with so many characters: what it shows, and what
follows. -/
def percentField (size : Nat) (f : Filling) (t : Text) : Except Exception (Text × Filling × Text) := do
  let (key, t) ← match t with
    | '(' :: r => match cutKey 0 r with
      | some (k, rest) => pure (some k, rest)
      | none => .error (valueError "incomplete format key".toList)
    | t => pure (none, t)
  let given ← match key with
    | some k => (f.atKey k).map some
    | none => pure none
  let (p, t) := takeFlags {} t
  let (width, f, t) ← takeSize "width" f t
  let p := if width.any fun n => n < 0 then { p with left := true } else p
  let (precision, f, t) ← match t with
    | '.' :: r => do
      let (n, f, r) ← takeSize "precision" f r
      pure (some (n.getD 0).toNat, f, r)
    | t => pure (none, f, t)
  let t := match t with
    | c :: r => if c = 'h' || c = 'l' || c = 'L' then r else c :: r
    | [] => []
  match t with
  | [] => .error (valueError "incomplete format".toList)
  | '%' :: r => pure (['%'], f, r)
  | kind :: r => do
    let (v, f) ← match given with
      | some g => pure g
      | none => f.next
    let shown ← percentValue p kind ((width.getD 0).natAbs) precision (size - r.length - 1) v
    pure (shown, f, r)

/-- Replaces the fields of a text by values, with a bound on the number of fields. -/
def fill (size : Nat) : Nat → Filling → Text → Except Exception (Text × Filling)
  | 0, f, t => .ok (t, f)
  | fuel + 1, f, t =>
    let before := t.takeWhile (· ≠ '%')
    match t.drop before.length with
    | [] => .ok (before, f)
    | _ :: r => do
      let (shown, f, r) ← percentField size f r
      let (rest, f) ← fill size fuel f r
      pure (before ++ shown ++ rest, f)

/-- Fills in a text. A tuple holds the values one by one; of a dictionary they may be asked for by
key. -/
def fillText (t : Text) (w : Value) : Except Exception Value := do
  let filling : Filling := match w with
    | .tuple xs => ⟨xs, none⟩
    | .dict es => ⟨[w], some es⟩
    | v => ⟨[v], none⟩
  let (filled, left) ← fill t.length (t.length + 1) filling t
  let mayBeLeft := match w with
    | .list _ | .dict _ | .bytes _ => true
    | _ => false
  if left.values.isEmpty || mayBeLeft then pure (.str filled)
  else .error (typeError "not all arguments converted during string formatting".toList)

end Weave.Program
