import Weave.Exception

/-!
# YAML tokens

The scanner of YAML 1.1: indentation is turned into tokens that open and close block collections,
and a simple key is recognised by the `:` behind it, at most one line and 1024 characters later.
-/

set_option autoImplicit false

namespace Weave.Yaml

/-- Why a text is no document. A value that cannot be built may raise instead. -/
inductive Fault where
  | malformed
  | raised (e : Exception)

/-- How a scalar is written. -/
inductive Style where
  | plain
  | quoted
  /-- Quoted, with halves of surrogate pairs, which its text shows as escapes. -/
  | broken
deriving DecidableEq, Repr, Inhabited

inductive Token where
  | directive (name : Text) (value : List Text)
  | documentStart
  | documentEnd
  | blockSequenceStart
  | blockMappingStart
  | blockEnd
  | flowSequenceStart
  | flowMappingStart
  | flowSequenceEnd
  | flowMappingEnd
  | key
  | value
  | blockEntry
  | flowEntry
  | alias (name : Text)
  | anchor (name : Text)
  | tag (handle : Option Text) (suffix : Text)
  | scalar (text : Text) (style : Style)
deriving DecidableEq, Repr, Inhabited

/-- A place in the text, with its line and column. -/
structure Place where
  rest : Text
  index : Nat := 0
  line : Nat := 0
  column : Nat := 0
deriving Inhabited

def isBreak (c : Char) : Bool :=
  c == '\n' || c == '\r' || c.toNat == 0x85 || c.toNat == 0x2028 || c.toNat == 0x2029

/-- The end of the text counts as a break here. -/
def isBreakAt : Text → Bool
  | [] => true
  | c :: _ => isBreak c

def isSpaceOrBreakAt : Text → Bool
  | [] => true
  | c :: _ => isBreak c || c == ' ' || c == '\t'

def isNameChar (c : Char) : Bool := c.isAlphanum || c == '-' || c == '_'

def isAllowed (c : Char) : Bool :=
  let n := c.toNat
  n == 9 || n == 10 || n == 13 || (0x20 ≤ n && n ≤ 0x7e) || n == 0x85 || (0xa0 ≤ n && n ≤ 0xd7ff)
    || (0xe000 ≤ n && n ≤ 0xfffd) || 0x10000 ≤ n

namespace Place

/-- One character further. A `\r` before a `\n` does not end the line yet. -/
def step (p : Place) : Place :=
  match p.rest with
  | [] => p
  | c :: r =>
    let crlf := c == '\r' && (match r with | '\n' :: _ => true | _ => false)
    if isBreak c && !crlf then ⟨r, p.index + 1, p.line + 1, 0⟩
    else ⟨r, p.index + 1, p.line, if c.toNat == 0xfeff then p.column else p.column + 1⟩

def skip (p : Place) : Nat → Place
  | 0 => p
  | n + 1 => p.step.skip n

/-- The characters up to the first that fails the test, and the place behind them. -/
def takeWhile (p : Place) (test : Char → Bool) : Text × Place :=
  let t := p.rest.takeWhile test
  (t, p.skip t.length)

def skipSpaces (p : Place) : Place := (p.takeWhile (· == ' ')).2

def skipToBreak (p : Place) : Place := (p.takeWhile fun c => !isBreak c).2

/-- A line break as it counts in a value: the separators stand for themselves, all others for a
newline. -/
def lineBreak (p : Place) : Text × Place :=
  match p.rest with
  | '\r' :: '\n' :: _ => (['\n'], p.skip 2)
  | c :: _ =>
    if c == '\n' || c == '\r' || c.toNat == 0x85 then (['\n'], p.step)
    else if isBreak c then ([c], p.step)
    else ([], p)
  | [] => ([], p)

/-- A document marker: three equal characters at the start of a line and a blank behind them. -/
def marker (rest : Text) : Bool :=
  match rest with
  | '-' :: '-' :: '-' :: r => isSpaceOrBreakAt r
  | '.' :: '.' :: '.' :: r => isSpaceOrBreakAt r
  | _ => false

end Place

/-- A place where a simple key may have started. -/
structure KeyStart where
  tokenIndex : Nat
  required : Bool
  place : Place
deriving Inhabited

structure Scanner where
  place : Place
  tokens : Array Token := #[]
  flowLevel : Nat := 0
  indent : Int := -1
  indents : List Int := []
  simpleKeyAllowed : Bool := true
  /-- The possible key of each flow level. -/
  keys : List (Nat × KeyStart) := []
deriving Inhabited

abbrev Scan (α : Type) := Except Fault α

def malformed {α : Type} : Scan α := .error .malformed

namespace Scanner

def push (s : Scanner) (t : Token) : Scanner := { s with tokens := s.tokens.push t }

/-- Forgets the possible key of this level, which must not have been a required one. -/
def dropKey (s : Scanner) : Scan Scanner :=
  match s.keys.find? fun k => k.1 = s.flowLevel with
  | none => .ok s
  | some (_, k) =>
    if k.required then malformed
    else .ok { s with keys := s.keys.filter fun k => k.1 ≠ s.flowLevel }

/-- Notes that a simple key may start here. -/
def noteKey (s : Scanner) : Scan Scanner :=
  if s.simpleKeyAllowed then do
    let required := s.flowLevel = 0 && s.indent = s.place.column
    let s ← s.dropKey
    pure { s with keys := (s.flowLevel, ⟨s.tokens.size, required, s.place⟩) :: s.keys }
  else .ok s

/-- A key must be on one line and not too long. -/
def dropStaleKeys (s : Scanner) : Scan Scanner :=
  let stale := fun (k : Nat × KeyStart) =>
    k.2.place.line ≠ s.place.line || s.place.index - k.2.place.index > 1024
  if s.keys.any fun k => stale k && k.2.required then malformed
  else .ok { s with keys := s.keys.filter fun k => !stale k }

/-- Closes the block collections that are indented deeper than `column`. -/
def unwind (s : Scanner) (column : Int) : Scanner :=
  if s.flowLevel ≠ 0 then s
  else
    let rec go : Int → List Int → Array Token → Int × List Int × Array Token
      | indent, [], ts => (indent, [], ts)
      | indent, i :: is, ts =>
        if indent > column then go i is (ts.push .blockEnd) else (indent, i :: is, ts)
    let (indent, indents, tokens) := go s.indent s.indents s.tokens
    { s with indent, indents, tokens }

/-- Opens a block collection if `column` is deeper than the current one. -/
def indentTo (s : Scanner) (column : Nat) : Option Scanner :=
  if s.indent < column then
    some { s with indents := s.indent :: s.indents, indent := column }
  else none

def openAt (s : Scanner) (column : Nat) (t : Token) : Scanner :=
  match s.indentTo column with
  | some s => s.push t
  | none => s

def emit (s : Scanner) (t : Token) (n : Nat) : Scanner :=
  { s with tokens := s.tokens.push t, place := s.place.skip n }

/-- Skips blanks, comments and line breaks; a break outside flow collections allows a simple key. -/
def skipBlanks : Nat → Scanner → Scanner
  | 0, s => s
  | fuel + 1, s =>
    let p := s.place.skipSpaces
    let p := match p.rest with
      | '#' :: _ => p.skipToBreak
      | _ => p
    match p.lineBreak with
    | ([], p) => { s with place := p }
    | (_, p) =>
      skipBlanks fuel { s with place := p, simpleKeyAllowed := s.simpleKeyAllowed || s.flowLevel = 0 }

def ignoredLine (p : Place) : Scan Place :=
  let p := p.skipSpaces
  let p := match p.rest with
    | '#' :: _ => p.skipToBreak
    | _ => p
  if isBreakAt p.rest then .ok p.lineBreak.2 else malformed

def spaceOrBreak (rest : Text) : Bool :=
  match rest with
  | ' ' :: _ => true
  | r => isBreakAt r

/-! ### Directives, anchors and tags -/

def tagHandle (p : Place) : Scan (Text × Place) :=
  match p.rest with
  | '!' :: r =>
    match r with
    | ' ' :: _ => .ok (['!'], p.step)
    | _ =>
      let name := r.takeWhile isNameChar
      match r.drop name.length with
      | '!' :: _ => .ok ('!' :: name ++ ['!'], p.skip (name.length + 2))
      | _ => malformed
  | _ => malformed

def hexValue? (c : Char) : Option Nat :=
  if c.isDigit then some (c.toNat - '0'.toNat)
  else if 'a' ≤ c && c ≤ 'f' then some (c.toNat - 'a'.toNat + 10)
  else if 'A' ≤ c && c ≤ 'F' then some (c.toNat - 'A'.toNat + 10)
  else none

def hexNumber? (ds : Text) : Option Nat :=
  ds.foldlM (fun n c => (hexValue? c).map fun d => 16 * n + d) 0

def isUriChar (c : Char) : Bool :=
  c.isAlphanum || "-;/?:@&=+$,_.!~*'()[]%".toList.contains c

/-- Replaces percent escapes by the characters that their bytes encode. -/
def decodeUri : Nat → Text → Option Text
  | 0, t => if t.isEmpty then some [] else none
  | fuel + 1, t =>
    match t with
    | [] => some []
    | '%' :: _ => do
      let rec bytes : Nat → Text → Option (List UInt8 × Text)
        | fuel + 1, '%' :: a :: b :: r => do
          let n ← hexNumber? [a, b]
          let (bs, r) ← bytes fuel r
          some (UInt8.ofNat n :: bs, r)
        | _, '%' :: _ => none
        | _, r => some ([], r)
      let (bs, r) ← bytes t.length t
      let s ← String.fromUTF8? ⟨bs.toArray⟩
      (decodeUri fuel r).map fun rest => s.toList ++ rest
    | c :: r => (decodeUri fuel r).map fun rest => c :: rest

def tagUri (p : Place) : Scan (Text × Place) :=
  let raw := p.rest.takeWhile isUriChar
  if raw.isEmpty then malformed
  else match decodeUri (raw.length + 1) raw with
    | some t => .ok (t, p.skip raw.length)
    | none => malformed

def directive (p : Place) : Scan (Token × Place) := do
  let p := p.step
  let (name, p) := p.takeWhile isNameChar
  if name.isEmpty || !spaceOrBreak p.rest then malformed
  else if name = "YAML".toList then
    let p := p.skipSpaces
    let (major, p) := p.takeWhile Char.isDigit
    match p.rest with
    | '.' :: _ =>
      let (minor, p) := p.step.takeWhile Char.isDigit
      if major.isEmpty || minor.isEmpty || !spaceOrBreak p.rest then malformed
      else
        let p ← ignoredLine p
        pure (.directive name [major, minor], p)
    | _ => malformed
  else if name = "TAG".toList then
    let (handle, p) ← tagHandle p.skipSpaces
    match p.rest with
    | ' ' :: _ =>
      let (pre, p) ← tagUri p.skipSpaces
      if !spaceOrBreak p.rest then malformed
      else
        let p ← ignoredLine p
        pure (.directive name [handle, pre], p)
    | _ => malformed
  else
    let p ← ignoredLine p.skipToBreak
    pure (.directive name [], p)

def anchorName (p : Place) : Scan (Text × Place) :=
  let (name, p) := p.step.takeWhile isNameChar
  let closed := match p.rest with
    | c :: _ => isSpaceOrBreakAt p.rest || "?:,]\x7d%@\x60".toList.contains c
    | [] => true
  if name.isEmpty || !closed then malformed else .ok (name, p)

def tag (p : Place) : Scan (Token × Place) := do
  let (t, p) ← match p.rest with
    | '!' :: '<' :: _ => do
      let (uri, p) ← tagUri (p.skip 2)
      match p.rest with
      | '>' :: _ => pure (Token.tag none uri, p.step)
      | _ => malformed
    | '!' :: r =>
      if isSpaceOrBreakAt r then pure (Token.tag none ['!'], p.step)
      else
        -- a second mark in this word makes what stands before it a handle
        let word := r.takeWhile fun c => !(isBreak c || c == ' ')
        if word.contains '!' then do
          let (handle, p) ← tagHandle p
          let (uri, p) ← tagUri p
          pure (Token.tag (some handle) uri, p)
        else do
          let (uri, p) ← tagUri p.step
          pure (Token.tag (some ['!']) uri, p)
    | _ => malformed
  if spaceOrBreak p.rest then pure (t, p) else malformed

/-! ### Scalars -/

def skipIndent : Nat → Place → Int → Place
  | 0, p, _ => p
  | fuel + 1, p, column =>
    match p.rest with
    | ' ' :: _ => if (p.column : Int) < column then skipIndent fuel p.step column else p
    | _ => p

/-- Empty lines in a block scalar of a known indentation. -/
def blockBreaks : Nat → Place → Int → Text × Place
  | 0, p, _ => ([], p)
  | fuel + 1, p, indent =>
    let p := skipIndent p.rest.length p indent
    match p.lineBreak with
    | ([], p) => ([], p)
    | (b, p) => let (bs, p) := blockBreaks fuel p indent; (b ++ bs, p)

/-- Empty lines in front of a block scalar, and the deepest indentation among them. -/
def blockIndentation : Nat → Place → Nat → Text × Nat × Place
  | 0, p, deepest => ([], deepest, p)
  | fuel + 1, p, deepest =>
    match p.rest with
    | ' ' :: _ => let p := p.step; blockIndentation fuel p (max deepest p.column)
    | _ =>
      match p.lineBreak with
      | ([], p) => ([], deepest, p)
      | (b, p) => let (bs, d, p) := blockIndentation fuel p deepest; (b ++ bs, d, p)

/-- The indicators of a block scalar: whether to keep or strip the breaks at its end, and its
indentation. -/
def blockIndicators (p : Place) : Scan (Option Bool × Option Nat × Place) :=
  let chomp := fun (c : Char) => if c == '+' then some true else if c == '-' then some false else none
  let (chomping, increment, p) : Option Bool × Option Nat × Place :=
    match p.rest with
    | c :: r =>
      if (chomp c).isSome then
        match r with
        | d :: _ =>
          if d.isDigit then (chomp c, some (d.toNat - '0'.toNat), p.skip 2) else (chomp c, none, p.step)
        | [] => (chomp c, none, p.step)
      else if c.isDigit then
        match r with
        | d :: _ =>
          if (chomp d).isSome then (chomp d, some (c.toNat - '0'.toNat), p.skip 2)
          else (none, some (c.toNat - '0'.toNat), p.step)
        | [] => (none, some (c.toNat - '0'.toNat), p.step)
      else (none, none, p)
    | [] => (none, none, p)
  if increment = some 0 || !spaceOrBreak p.rest then malformed
  else .ok (chomping, increment, p)

/-- The lines of a block scalar from a place on; `breaks` are the empty lines before it. -/
def blockLines (folded : Bool) (indent : Int) : Nat → Place → Text → Text × Text × Text × Place
  | 0, p, breaks => ([], [], breaks, p)
  | fuel + 1, p, breaks =>
    if (p.column : Int) = indent && !p.rest.isEmpty then
      let isSpaceAt := fun (q : Place) => match q.rest with
        | c :: _ => c == ' ' || c == '\t'
        | [] => false
      let leadingNonSpace := !isSpaceAt p
      let (line, p) := p.takeWhile fun c => !isBreak c
      let (lineBreak, p) := p.lineBreak
      let (more, p) := blockBreaks p.rest.length.succ p indent
      if (p.column : Int) = indent && !p.rest.isEmpty then
        let glue : Text :=
          if folded && lineBreak = ['\n'] && leadingNonSpace && !isSpaceAt p then
            (if more.isEmpty then [' '] else [])
          else lineBreak
        let (body, final, after, p) := blockLines folded indent fuel p more
        (breaks ++ line ++ glue ++ body, final, after, p)
      else (breaks ++ line, lineBreak, more, p)
    else ([], [], breaks, p)

def blockScalar (p : Place) (parent : Int) (folded : Bool) : Scan (Token × Place) := do
  let (chomping, increment, p) ← blockIndicators p.step
  let p ← ignoredLine p
  let least := max (parent + 1) 1
  let (breaks, indent, p) : Text × Int × Place := match increment with
    | none =>
      let (bs, deepest, p) := blockIndentation p.rest.length.succ p 0
      (bs, max least (deepest : Int), p)
    | some n =>
      let indent := least + n - 1
      let (bs, p) := blockBreaks p.rest.length.succ p indent
      (bs, indent, p)
  let (body, lineBreak, after, p) := blockLines folded indent p.rest.length.succ p breaks
  let t := body ++ (if chomping = some false then [] else lineBreak)
    ++ (if chomping = some true then after else [])
  pure (.scalar t .quoted, p)

def escapes : List (Char × Nat) :=
  [ ('0', 0), ('a', 7), ('b', 8), ('t', 9), ('\t', 9), ('n', 10), ('v', 11), ('f', 12), ('r', 13),
    ('e', 27), (' ', 32), ('"', 34), ('\\', 92), ('/', 47), ('N', 0x85), ('_', 0xa0), ('L', 0x2028),
    ('P', 0x2029) ]

/-- Breaks inside a quoted scalar; a document marker must not follow one. -/
def flowBreaks : Nat → Place → Scan (Text × Place)
  | 0, p => .ok ([], p)
  | fuel + 1, p =>
    if Place.marker p.rest then malformed
    else
      let p := (p.takeWhile fun c => c == ' ' || c == '\t').2
      match p.lineBreak with
      | ([], p) => .ok ([], p)
      | (b, p) => do
        let (bs, p) ← flowBreaks fuel p
        pure (b ++ bs, p)

def flowSpaces (p : Place) : Scan (Text × Place) :=
  let (blanks, p) := p.takeWhile fun c => c == ' ' || c == '\t'
  if p.rest.isEmpty then malformed
  else match p.lineBreak with
    | ([], p) => .ok (blanks, p)
    | (b, p) => do
      let (bs, p) ← flowBreaks p.rest.length.succ p
      let glue : Text := if b ≠ ['\n'] then b else if bs.isEmpty then [' '] else []
      pure (glue ++ bs, p)

/-- The code points that an escape behind a backslash stands for. -/
def escape (p : Place) : Scan (List Nat × Place) :=
  match p.rest with
  | [] => malformed
  | c :: r =>
    match escapes.find? fun e => e.1 = c with
    | some (_, n) => .ok ([n], p.step)
    | none =>
      let width := if c = 'x' then 2 else if c = 'u' then 4 else if c = 'U' then 8 else 0
      if width > 0 then
        let ds := r.take width
        match hexNumber? ds with
        | some n =>
          if ds.length < width then malformed
          else if n > 0x7fffffff then
            .error (.raised (.ofMessage "OverflowError"
              "Python int too large to convert to C int".toList))
          else if n > 0x10ffff then
            .error (.raised (.ofMessage "ValueError" "chr() arg not in range(0x110000)".toList))
          else .ok ([n], p.skip (width + 1))
        | none => malformed
      else if isBreak c then do
        let (t, p) ← flowBreaks p.rest.length.succ p.lineBreak.2
        pure (t.map Char.toNat, p)
      else malformed

/-- The code points of a quoted scalar. -/
def quotedScalar (double : Bool) : Nat → Place → Scan (List Nat × Place)
  | 0, _ => malformed
  | fuel + 1, p => do
    match p.rest with
    | [] => malformed
    | c :: r =>
      let goOn := fun (codes : List Nat) (p : Place) => do
        let (rest, p) ← quotedScalar double fuel p
        pure (codes ++ rest, p)
      if c == ' ' || c == '\t' || isBreak c then
        let (t, p) ← flowSpaces p
        goOn (t.map Char.toNat) p
      else if !double && c == '\'' then
        match r with
        | '\'' :: _ => goOn ['\''.toNat] (p.skip 2)
        | _ => pure ([], p.step)
      else if double && c == '"' then pure ([], p.step)
      else if double && c == '\\' then
        let (codes, p) ← escape p.step
        goOn codes p
      else goOn [c.toNat] p.step

def ofCodes (codes : List Nat) : Token :=
  if codes.all fun n => n.isValidChar then .scalar (codes.map Char.ofNat) .quoted
  else
    let shown := fun (n : Nat) =>
      if n = '\\'.toNat then ['\\', '\\']
      else if n.isValidChar then [Char.ofNat n]
      else "\\u".toList ++ Text.hexDigits 4 n
    .scalar (codes.flatMap shown) .broken

/-- The characters of a plain scalar up to a blank or an indicator. -/
def plainRun (flow : Bool) : Text → Text
  | [] => []
  | c :: r =>
    let stops :=
      isBreak c || c == ' ' || c == '\t'
        || (c == ':' && (isSpaceOrBreakAt r || (flow && match r with
            | d :: _ => ",[]\x7b\x7d".toList.contains d
            | [] => true)))
        || (flow && ",?[]\x7b\x7d".toList.contains c)
    if stops then [] else c :: plainRun flow r

/-- Breaks behind a part of a plain scalar; `none` if a document marker ends it. -/
def plainBreaks : Nat → Place → Option Text × Place
  | 0, p => (some [], p)
  | fuel + 1, p =>
    match p.rest with
    | ' ' :: _ => plainBreaks fuel p.step
    | _ =>
      match p.lineBreak with
      | ([], p) => (some [], p)
      | (b, p) =>
        if Place.marker p.rest then (none, p)
        else match plainBreaks fuel p with
          | (some bs, p) => (some (b ++ bs), p)
          | (none, p) => (none, p)

/-- What joins two parts of a plain scalar, and whether a line was broken. -/
def plainSpaces (p : Place) : Option Text × Place × Bool :=
  let (blanks, p) := p.takeWhile (· == ' ')
  match p.lineBreak with
  | ([], p) => (if blanks.isEmpty then none else some blanks, p, false)
  | (b, p) =>
    if Place.marker p.rest then (none, p, true)
    else match plainBreaks p.rest.length.succ p with
      | (none, p) => (none, p, true)
      | (some bs, p) =>
        let glue : Text := if b ≠ ['\n'] then b else if bs.isEmpty then [' '] else []
        (some (glue ++ bs), p, true)

/-- A plain scalar over as many lines as it goes on; whether a simple key may follow. -/
def plainScalar (flow : Bool) (indent : Int) : Nat → Place → Text → Bool → Text × Place × Bool
  | 0, p, _, allowed => ([], p, allowed)
  | fuel + 1, p, glue, allowed =>
    match p.rest with
    | '#' :: _ => ([], p, allowed)
    | _ =>
      let run := plainRun flow p.rest
      if run.isEmpty then ([], p, allowed)
      else
        let p := p.skip run.length
        let (spaces, p, broken) := plainSpaces p
        let here := glue ++ run
        match spaces with
        | none => (here, p, broken)
        | some spaces =>
          let comment := match p.rest with
            | '#' :: _ => true
            | _ => false
          if comment || (!flow && (p.column : Int) < indent) then (here, p, broken)
          else
            let (more, p, allowed) := plainScalar flow indent fuel p spaces broken
            (here ++ more, p, allowed)

/-! ### One step of the scanner -/

def documentIndicator (s : Scanner) (t : Token) : Scan Scanner := do
  let s ← (s.unwind (-1)).dropKey
  pure ({ s with simpleKeyAllowed := false }.emit t 3)

def flowStart (s : Scanner) (t : Token) : Scan Scanner := do
  let s ← s.noteKey
  pure ({ s with flowLevel := s.flowLevel + 1, simpleKeyAllowed := true }.emit t 1)

/-- Closing more flow collections than are open is left to the reader of the tokens, which refuses it. -/
def flowEnd (s : Scanner) (t : Token) : Scan Scanner := do
  let s ← s.dropKey
  if s.flowLevel = 0 then malformed
  else pure ({ s with flowLevel := s.flowLevel - 1, simpleKeyAllowed := false }.emit t 1)

def blockEntry (s : Scanner) : Scan Scanner := do
  if s.flowLevel = 0 && !s.simpleKeyAllowed then malformed
  else
    let s := if s.flowLevel = 0 then s.openAt s.place.column .blockSequenceStart else s
    let s ← { s with simpleKeyAllowed := true }.dropKey
    pure (s.emit .blockEntry 1)

def explicitKey (s : Scanner) : Scan Scanner := do
  if s.flowLevel = 0 && !s.simpleKeyAllowed then malformed
  else
    let s := if s.flowLevel = 0 then s.openAt s.place.column .blockMappingStart else s
    let s ← { s with simpleKeyAllowed := s.flowLevel = 0 }.dropKey
    pure (s.emit .key 1)

def mappingValue (s : Scanner) : Scan Scanner := do
  match s.keys.find? fun k => k.1 = s.flowLevel with
  | some (_, k) =>
    let keys := s.keys.filter fun k => k.1 ≠ s.flowLevel
    let opened := if s.flowLevel = 0 then s.indentTo k.place.column else none
    let (s, before) : Scanner × List Token := match opened with
      | some s => (s, [.blockMappingStart, .key])
      | none => (s, [.key])
    let tokens := s.tokens.toList.take k.tokenIndex ++ before ++ s.tokens.toList.drop k.tokenIndex
    pure ({ s with keys, tokens := tokens.toArray, simpleKeyAllowed := false }.emit .value 1)
  | none =>
    if s.flowLevel = 0 && !s.simpleKeyAllowed then malformed
    else
      let s := if s.flowLevel = 0 then s.openAt s.place.column .blockMappingStart else s
      let s ← { s with simpleKeyAllowed := s.flowLevel = 0 }.dropKey
      pure (s.emit .value 1)

/-- A token that may be or start a simple key. -/
def keyToken (s : Scanner) (read : Place → Scan (Token × Place)) : Scan Scanner := do
  let s ← s.noteKey
  let (t, p) ← read s.place
  pure { s with simpleKeyAllowed := false, place := p, tokens := s.tokens.push t }

def startsPlain (flow : Bool) : Text → Bool
  | [] => false
  | c :: r =>
    !(isBreak c || c == ' ' || "\t-?:,[]\x7b\x7d#&*!|>'\"%@\x60".toList.contains c)
      || (!isSpaceOrBreakAt r && (c == '-' || (!flow && (c == '?' || c == ':'))))

/-- Reads the next token; `none` at the end of the text. -/
def next (s : Scanner) : Scan (Option Scanner) := do
  let s := skipBlanks (s.place.rest.length + 1) s
  let s ← s.dropStaleKeys
  let s := s.unwind s.place.column
  let flow := s.flowLevel ≠ 0
  match s.place.rest with
  | [] => pure none
  | c :: r =>
    if c == '%' && s.place.column = 0 then
      let s ← (s.unwind (-1)).dropKey
      let (t, p) ← directive s.place
      pure (some { s with simpleKeyAllowed := false, place := p, tokens := s.tokens.push t })
    else if c == '-' && s.place.column = 0 && Place.marker s.place.rest then
      some <$> s.documentIndicator .documentStart
    else if c == '.' && s.place.column = 0 && Place.marker s.place.rest then
      some <$> s.documentIndicator .documentEnd
    else if c == '[' then some <$> s.flowStart .flowSequenceStart
    else if c == '{' then some <$> s.flowStart .flowMappingStart
    else if c == ']' then some <$> s.flowEnd .flowSequenceEnd
    else if c == '}' then some <$> s.flowEnd .flowMappingEnd
    else if c == ',' then
      let s ← { s with simpleKeyAllowed := true }.dropKey
      pure (some (s.emit .flowEntry 1))
    else if c == '-' && isSpaceOrBreakAt r then some <$> s.blockEntry
    else if c == '?' && (flow || isSpaceOrBreakAt r) then some <$> s.explicitKey
    else if c == ':' && (flow || isSpaceOrBreakAt r) then some <$> s.mappingValue
    else if c == '*' then
      some <$> s.keyToken fun p => (anchorName p).map fun (n, p) => (.alias n, p)
    else if c == '&' then
      some <$> s.keyToken fun p => (anchorName p).map fun (n, p) => (.anchor n, p)
    else if c == '!' then some <$> s.keyToken tag
    else if (c == '|' || c == '>') && !flow then
      let s ← { s with simpleKeyAllowed := true }.dropKey
      let (t, p) ← blockScalar s.place s.indent (c == '>')
      pure (some { s with place := p, tokens := s.tokens.push t })
    else if c == '\'' || c == '"' then
      some <$> s.keyToken fun p => do
        let (codes, p) ← quotedScalar (c == '"') p.rest.length.succ p.step
        pure (ofCodes codes, p)
    else if startsPlain flow s.place.rest then
      let s ← s.noteKey
      let (t, p, allowed) :=
        plainScalar flow (s.indent + 1) s.place.rest.length.succ s.place [] false
      pure (some { s with simpleKeyAllowed := allowed, place := p, tokens := s.tokens.push (.scalar t .plain) })
    else malformed

def run : Nat → Scanner → Scan Scanner
  | 0, s => .ok s
  | fuel + 1, s => do
    match ← s.next with
    | none =>
      -- the blanks before the end may still have made a key stale
      let s ← (skipBlanks (s.place.rest.length + 1) s).dropStaleKeys
      (s.unwind (-1)).dropKey
    | some s => run fuel s

end Scanner

/-- The tokens of a text. A byte order mark may stand in front. -/
def Token.scan (t : Text) : Scan (List Token) := do
  if !t.all isAllowed then malformed
  else
    let t := match t with
      | c :: r => if c.toNat == 0xfeff then r else c :: r
      | [] => []
    let s ← Scanner.run (t.length + 1) { place := { rest := t } }
    pure s.tokens.toList

end Weave.Yaml
