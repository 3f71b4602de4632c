import Weave.Yaml.Token

/-!
# YAML nodes

The tree of a document, every node with its tag. An alias is replaced by the node it names; inside
that node itself it stands for an empty one of the same kind.
-/

set_option autoImplicit false

namespace Weave.Yaml

inductive Node where
  | scalar (tag : Text) (text : Text)
  | seq (tag : Text) (items : List Node)
  | map (tag : Text) (entries : List (Node × Node))
deriving Inhabited

namespace Node

def tagPrefix : Text := "tag:yaml.org,2002:".toList
def standard (name : String) : Text := tagPrefix ++ name.toList

def tag : Node → Text
  | .scalar t _ => t
  | .seq t _ => t
  | .map t _ => t

def absent : Node := .scalar (standard "null") []

/-! ### Tags of plain scalars -/

def isBoolWord (t : Text) : Bool :=
  [ "yes", "Yes", "YES", "no", "No", "NO", "true", "True", "TRUE", "false", "False", "FALSE", "on",
    "On", "ON", "off", "Off", "OFF" ].any fun w => w.toList = t

def isNullWord (t : Text) : Bool :=
  ["~", "null", "Null", "NULL", ""].any fun w => w.toList = t

def isDigitOr_ (c : Char) : Bool := c.isDigit || c == '_'

def unsigned : Text → Text
  | '+' :: r => r
  | '-' :: r => r
  | t => t

/-- Minutes or seconds: one digit, or two of which the first is below six. -/
def isSixtieth : Text → Bool
  | [c] => c.isDigit
  | [c, d] => '0' ≤ c && c ≤ '5' && d.isDigit
  | _ => false

def isExponent : Text → Bool
  | [] => true
  | e :: s :: ds =>
    (e == 'e' || e == 'E') && (s == '+' || s == '-') && !ds.isEmpty && ds.all Char.isDigit
  | _ => false

def startsWithDigit : Text → Bool
  | c :: _ => c.isDigit
  | [] => false

/-- Digits in several places, separated by colons. -/
def isSexagesimal (first : Char → Bool) (t : Text) : Bool :=
  match Text.splitOn ':' t with
  | (c :: r) :: (p :: ps) => first c && r.all isDigitOr_ && (p :: ps).all isSixtieth
  | _ => false

def isIntWord (t : Text) : Bool :=
  let u := unsigned t
  match u with
  | '0' :: 'b' :: r => !r.isEmpty && r.all fun c => c == '0' || c == '1' || c == '_'
  | '0' :: 'x' :: r => !r.isEmpty && r.all fun c => (Scanner.hexValue? c).isSome || c == '_'
  | ['0'] => true
  | '0' :: r => r.all fun c => ('0' ≤ c && c ≤ '7') || c == '_'
  | c :: r =>
    c.isDigit && r.all isDigitOr_ || isSexagesimal (fun c => '1' ≤ c && c ≤ '9') (c :: r)
  | [] => false

def isFloatWord (t : Text) : Bool :=
  let u := unsigned t
  let special := u = ".inf".toList || u = ".Inf".toList || u = ".INF".toList
    || t = ".nan".toList || t = ".NaN".toList || t = ".NAN".toList
  let fractional := fun (s : Text) => isExponent (s.dropWhile isDigitOr_)
  special || match Text.cut? ['.'] u with
    | none => false
    | some (whole, rest) =>
      if whole.isEmpty then t = u && startsWithDigit rest && fractional rest
      else (startsWithDigit whole && whole.all isDigitOr_ && fractional rest)
        || (isSexagesimal Char.isDigit whole && rest.all isDigitOr_)

/-- A date, or a date and a time of day with an optional fraction and zone. -/
structure Stamp where
  year : Nat
  month : Nat
  day : Nat
  time : Option (Nat × Nat × Nat) := none
  /-- The distance from universal time in minutes, if a zone is given. -/
  zone : Option Int := none

def digits? (least most : Nat) (t : Text) : Option (Nat × Text) :=
  let ds := (t.take most).takeWhile Char.isDigit
  if ds.length < least then none
  else (Text.toNat? ds).map fun n => (n, t.drop ds.length)

def after? (c : Char) : Text → Option Text
  | d :: r => if c = d then some r else none
  | [] => none

def zone? (t : Text) : Option (Option Int) :=
  match t.dropWhile fun c => c == ' ' || c == '\t' with
  | [] => if t.isEmpty then some none else none
  | ['Z'] => some (some 0)
  | c :: r =>
    if c == '+' || c == '-' then do
      let (h, r) ← digits? 1 2 r
      let m ← match r with
        | [] => some 0
        | ':' :: r => do
          let (m, r) ← digits? 2 2 r
          if r.isEmpty then some m else none
        | _ => none
      let total : Int := 60 * h + m
      some (some (if c == '-' then -total else total))
    else none

def stamp? (t : Text) : Option Stamp := do
  let (year, r) ← digits? 4 4 t
  let r ← after? '-' r
  let (month, r) ← digits? 1 2 r
  let r ← after? '-' r
  let (day, r) ← digits? 1 2 r
  if r.isEmpty then some { year, month, day }
  else
    let r ← match r with
      | c :: r' =>
        if c == 'T' || c == 't' then some r'
        else if c == ' ' || c == '\t' then some (r.dropWhile fun c => c == ' ' || c == '\t')
        else none
      | [] => none
    let (h, r) ← digits? 1 2 r
    let r ← after? ':' r
    let (m, r) ← digits? 2 2 r
    let r ← after? ':' r
    let (s, r) ← digits? 2 2 r
    let r := match r with
      | '.' :: r => r.dropWhile Char.isDigit
      | r => r
    let zone ← zone? r
    some { year, month, day, time := some (h, m, s), zone }

/-- A day alone has two digits for the month and for the day. -/
def isStampWord (t : Text) : Bool :=
  (stamp? t).any fun s => s.time.isSome || t.length = 10

/-- Without a line end, which a text may have behind what it is known by. -/
def withoutLineEnd (t : Text) : Text :=
  if t.length > 1 && t.getLast? = some '\n' then t.dropLast else t

/-- The tag of a text with halves of surrogate pairs. -/
def brokenTag : Text := "broken".toList

/-- The tag of a plain scalar without one. -/
def plainTag (t : Text) : Text :=
  let t := withoutLineEnd t
  if isBoolWord t then standard "bool"
  else if isFloatWord t then standard "float"
  else if isIntWord t then standard "int"
  else if t = "<<".toList then standard "merge"
  else if isNullWord t then standard "null"
  else if isStampWord t then standard "timestamp"
  else if t = ['='] then standard "value"
  else standard "str"

end Node

/-! ### Reading nodes from tokens -/

/-- What is left of the tokens, with the nodes that anchors name so far. -/
structure Reader where
  tokens : List Token
  anchors : List (Text × Node) := []
  handles : List (Text × Text) := []

abbrev Read (α : Type) := Reader → Scan (α × Reader)

namespace Reader

def defaultHandles : List (Text × Text) :=
  [(['!'], ['!']), (['!', '!'], Node.tagPrefix)]

def drop (r : Reader) : Reader := { r with tokens := r.tokens.drop 1 }

/-- Notes the node of an anchor, in place of what stood for it while it was being read. -/
def note (r : Reader) (anchor : Option Text) (n : Node) : Reader :=
  match anchor with
  | none => r
  | some a => { r with anchors := (a, n) :: r.anchors.filter fun e => e.1 ≠ a }

/-- The anchor and the tag in front of a node, in either order. -/
def properties (r : Reader) : Scan (Option Text × Option Text × Reader) := do
  let resolve := fun (r : Reader) (handle : Option Text) (suffix : Text) =>
    match handle with
    | none => Except.ok suffix
    | some h =>
      match r.handles.find? fun e => e.1 = h with
      | some (_, pre) => Except.ok (pre ++ suffix)
      | none => malformed
  let (anchor, tag, r) ← match r.tokens with
    | .anchor a :: .tag h s :: _ => do
      let t ← resolve r h s
      pure (some a, some t, r.drop.drop)
    | .tag h s :: .anchor a :: _ => do
      let t ← resolve r h s
      pure (some a, some t, r.drop.drop)
    | .anchor a :: _ => pure (some a, none, r.drop)
    | .tag h s :: _ => do
      let t ← resolve r h s
      pure (none, some t, r.drop)
    | _ => pure (none, none, r)
  match anchor with
  | some a => if r.anchors.any fun e => e.1 = a then malformed else pure (anchor, tag, r)
  | none => pure (anchor, tag, r)

/-- A tag that leaves the choice to the content is no tag. -/
def givenTag (tag : Option Text) : Option Text :=
  match tag with
  | some ['!'] => none
  | t => t

/-- Where a node stands decides which collections may start there. -/
inductive Position where
  | block
  | blockOrEntries
  | flow
deriving DecidableEq

mutual

def node (position : Position) : Nat → Reader → Scan (Node × Reader)
  | 0, _ => malformed
  | fuel + 1, r =>
    match r.tokens with
    | .alias a :: _ =>
      match r.anchors.find? fun e => e.1 = a with
      | some (_, n) => .ok (n, r.drop)
      | none => malformed
    | _ => do
      let (anchor, tag, r) ← r.properties
      let listTag := (givenTag tag).getD (Node.standard "seq")
      let mapTag := (givenTag tag).getD (Node.standard "map")
      let list := fun (read : Reader → Scan (List Node × Reader)) (r : Reader) => do
        let (items, r) ← read (r.note anchor (.seq listTag []))
        let n := Node.seq listTag items
        pure (n, r.note anchor n)
      let mapping := fun (read : Reader → Scan (List (Node × Node) × Reader)) (r : Reader) => do
        let (entries, r) ← read (r.note anchor (.map mapTag []))
        let n := Node.map mapTag entries
        pure (n, r.note anchor n)
      match r.tokens with
      | .blockEntry :: _ =>
        if position = .blockOrEntries then list (plainEntries fuel) r
        else if anchor.isSome || tag.isSome then
          let n := Node.scalar ((givenTag tag).getD Node.absent.tag) []
          pure (n, r.note anchor n)
        else malformed
      | .scalar t style :: _ =>
        let tag' := match tag with
          | none => if style = .plain then Node.plainTag t else Node.standard "str"
          | some ['!'] => Node.plainTag t
          | some given => given
        let tag' := if style = .broken && tag' = Node.standard "str" then Node.brokenTag else tag'
        let n := Node.scalar tag' t
        pure (n, r.drop.note anchor n)
      | .flowSequenceStart :: _ => list (flowItems fuel true) r.drop
      | .flowMappingStart :: _ => mapping (flowEntries fuel true) r.drop
      | .blockSequenceStart :: _ =>
        if position ≠ .flow then list (blockItems fuel) r.drop
        else malformed
      | .blockMappingStart :: _ =>
        if position ≠ .flow then mapping (blockEntries fuel) r.drop
        else malformed
      | _ =>
        if anchor.isSome || tag.isSome then
          let n := Node.scalar ((givenTag tag).getD Node.absent.tag) []
          pure (n, r.note anchor n)
        else malformed

def blockItems : Nat → Reader → Scan (List Node × Reader)
  | 0, _ => malformed
  | fuel + 1, r =>
    match r.tokens with
    | .blockEntry :: rest => do
      let r := r.drop
      let (n, r) ← match rest with
        | .blockEntry :: _ => pure (Node.absent, r)
        | .blockEnd :: _ => pure (Node.absent, r)
        | _ => node .block fuel r
      let (ns, r) ← blockItems fuel r
      pure (n :: ns, r)
    | .blockEnd :: _ => .ok ([], r.drop)
    | _ => malformed

/-- Entries that are not indented deeper than the key they belong to. -/
def plainEntries : Nat → Reader → Scan (List Node × Reader)
  | 0, _ => malformed
  | fuel + 1, r =>
    match r.tokens with
    | .blockEntry :: rest => do
      let r := r.drop
      let (n, r) ← match rest with
        | .blockEntry :: _ => pure (Node.absent, r)
        | .key :: _ => pure (Node.absent, r)
        | .value :: _ => pure (Node.absent, r)
        | .blockEnd :: _ => pure (Node.absent, r)
        | _ => node .block fuel r
      let (ns, r) ← plainEntries fuel r
      pure (n :: ns, r)
    | _ => .ok ([], r)

def blockEntries : Nat → Reader → Scan (List (Node × Node) × Reader)
  | 0, _ => malformed
  | fuel + 1, r =>
    let part := fun (r : Reader) => match r.tokens with
      | .key :: _ => Except.ok (Node.absent, r)
      | .value :: _ => Except.ok (Node.absent, r)
      | .blockEnd :: _ => Except.ok (Node.absent, r)
      | _ => node .blockOrEntries fuel r
    match r.tokens with
    | .blockEnd :: _ => .ok ([], r.drop)
    | .key :: _ => do
      let (k, r) ← part r.drop
      let (v, r) ← match r.tokens with
        | .value :: _ => part r.drop
        | _ => pure (Node.absent, r)
      let (es, r) ← blockEntries fuel r
      pure ((k, v) :: es, r)
    | .value :: _ => do
      -- a value without a key
      let (v, r) ← part r.drop
      let (es, r) ← blockEntries fuel r
      pure ((Node.absent, v) :: es, r)
    | _ => malformed

def flowItems : Nat → Bool → Reader → Scan (List Node × Reader)
  | 0, _, _ => malformed
  | fuel + 1, first, r =>
    match r.tokens with
    | .flowSequenceEnd :: _ => .ok ([], r.drop)
    | _ => do
      let r ← if first then pure r else match r.tokens with
        | .flowEntry :: _ => pure r.drop
        | _ => malformed
      match r.tokens with
      | .flowSequenceEnd :: _ => pure ([], r.drop)
      | .key :: _ => do
        let part := fun (r : Reader) (stops : Token → Bool) => match r.tokens with
          | t :: _ => if stops t then Except.ok (Node.absent, r) else node .flow fuel r
          | [] => malformed
        let (k, r) ← part r.drop fun t => t = .value || t = .flowEntry || t = .flowSequenceEnd
        let (v, r) ← match r.tokens with
          | .value :: _ => part r.drop fun t => t = .flowEntry || t = .flowSequenceEnd
          | _ => pure (Node.absent, r)
        let (ns, r) ← flowItems fuel false r
        pure (.map (Node.standard "map") [(k, v)] :: ns, r)
      | _ => do
        let (n, r) ← node .flow fuel r
        let (ns, r) ← flowItems fuel false r
        pure (n :: ns, r)

def flowEntries : Nat → Bool → Reader → Scan (List (Node × Node) × Reader)
  | 0, _, _ => malformed
  | fuel + 1, first, r =>
    match r.tokens with
    | .flowMappingEnd :: _ => .ok ([], r.drop)
    | _ => do
      let r ← if first then pure r else match r.tokens with
        | .flowEntry :: _ => pure r.drop
        | _ => malformed
      match r.tokens with
      | .flowMappingEnd :: _ => pure ([], r.drop)
      | .key :: _ => do
        let part := fun (r : Reader) (stops : Token → Bool) => match r.tokens with
          | t :: _ => if stops t then Except.ok (Node.absent, r) else node .flow fuel r
          | [] => malformed
        let (k, r) ← part r.drop fun t => t = .value || t = .flowEntry || t = .flowMappingEnd
        let (v, r) ← match r.tokens with
          | .value :: _ => part r.drop fun t => t = .flowEntry || t = .flowMappingEnd
          | _ => pure (Node.absent, r)
        let (es, r) ← flowEntries fuel false r
        pure ((k, v) :: es, r)
      | _ => do
        let (k, r) ← node .flow fuel r
        let (es, r) ← flowEntries fuel false r
        pure ((k, Node.absent) :: es, r)

end

/-- The directives in front of a document: at most one version, and every handle once. -/
def directives : List Token → Bool → List (Text × Text) → Scan (List Token × List (Text × Text))
  | .directive name args :: ts, versioned, handles =>
    if name = "YAML".toList then
      if versioned || args.head? ≠ some ['1'] then malformed else directives ts true handles
    else if name = "TAG".toList then
      match args with
      | [h, pre] =>
        if handles.any fun e => e.1 = h then malformed else directives ts versioned ((h, pre) :: handles)
      | _ => malformed
    else directives ts versioned handles
  | ts, _, handles => .ok (ts, handles)

def dropDocumentEnds : List Token → List Token
  | .documentEnd :: ts => dropDocumentEnds ts
  | ts => ts

def single (ts : List Token) : Scan (Option Node) := do
  let fuel := 4 * ts.length + 8
  let explicit := match ts with
    | .directive .. :: _ => true
    | .documentStart :: _ => true
    | [] => true
    | _ => false
  let finish := fun (ts : List Token) =>
    let ts := match ts with
      | .documentEnd :: ts => ts
      | ts => ts
    (dropDocumentEnds ts).isEmpty
  if !explicit then
    let (n, r) ← node .block fuel { tokens := ts, handles := defaultHandles }
    if finish r.tokens then pure (some n) else malformed
  else
    let ts := dropDocumentEnds ts
    if ts.isEmpty then pure none
    else
      let (ts, handles) ← directives ts false []
      match ts with
      | .documentStart :: ts =>
        let (n, ts) ← match ts with
          | .directive .. :: _ => pure (Node.absent, ts)
          | .documentStart :: _ => pure (Node.absent, ts)
          | .documentEnd :: _ => pure (Node.absent, ts)
          | [] => pure (Node.absent, ts)
          | _ => do
            let (n, r) ← node .block fuel { tokens := ts, handles := handles ++ defaultHandles }
            pure (n, r.tokens)
        if finish ts then pure (some n) else malformed
      | _ => malformed

end Reader

def Node.read (t : Text) : Scan (Option Node) := do
  Reader.single (← Token.scan t)

end Weave.Yaml
