import Weave.Html.Names
import Weave.Markdown.CodeSpan
import Weave.Markdown.Emphasis
import Weave.Markdown.Written
import Weave.Pattern
import Weave.Unicode.Lowercase

/-!
# Markup inside a line

Each kind of markup is looked for in all of a text before the next kind is. What is found is kept
aside and leaves a mark in the text, so that later kinds of markup may enclose it.
-/

set_option autoImplicit false

namespace Weave.Markdown.Inline

inductive Node where
  | text (t : Text)
  | element (e : Element)
deriving Inhabited

structure State where
  stash : Stash
  references : References
  nodes : Array Node := #[]
deriving Inhabited

abbrev Work := StateM State

/-- Keeps a node aside and returns what stands for it. -/
def keep (n : Node) : Work Text := fun s =>
  (inlineMark s.nodes.size, { s with nodes := s.nodes.push n })

/-- The text without the marks of nodes, of which only the text is left. -/
def reveal (s : State) (t : Text) : Text :=
  replaceMarks inlineLabel (fun n => (s.nodes[n]?).map fun
    | .text t => t
    | .element e => e.plainText) (t.length + 1) t

/-- The text with the HTML of the nodes in place of their marks. -/
def revealHtml (s : State) (t : Text) : Text :=
  unmarkChars (replaceMarks inlineLabel (fun n => (s.nodes[n]?).map fun
    | .text t => '\\' :: t
    | .element e => e.write) (t.length + 1) t)

/-! ### Links -/

/-- The text up to the bracket that closes one, and what follows it. -/
def bracketed : Nat → Text → Option (Text × Text)
  | _, [] => none
  | depth, c :: r =>
    if c = ']' && depth = 0 then some ([], r)
    else
      let depth := if c = ']' then depth - 1 else if c = '[' then depth + 1 else depth
      (bracketed depth r).map fun (t, rest) => (c :: t, rest)

/-- Where the quotation marks and parentheses of a link have been met. Positions count from its
address on. -/
structure LinkScan where
  index : Nat := 0
  count : Nat := 1
  fallback : Nat := 1
  fallbackEnd : Option Nat := none
  quote : Option (Char × Nat) := none
  quoteEnd : Option Nat := none
  other : Option (Char × Nat) := none
  otherEnd : Option Nat := none
  /-- Whether a title is being read. -/
  inTitle : Bool := false
  last : Option Char := none

namespace LinkScan

/-- Whether the last character closes a title that starts with this mark. -/
def closes (s : LinkScan) (opened : Option (Char × Nat)) (ended : Option Nat) : Bool :=
  ended.isSome && s.last.isSome && opened.map Prod.fst = s.last

def step (s : LinkScan) (c : Char) : LinkScan :=
  let s :=
    if c = '(' then
      if !s.inTitle then { s with count := s.count + 1 }
      else { s with fallback := s.fallback - 1 }
    else if c = ')' then
      if s.closes s.quote s.quoteEnd || s.closes s.other s.otherEnd then { s with count := 0 }
      else if !s.inTitle then { s with count := s.count - 1 }
      else if s.fallback > 0 then
        { s with
          fallback := s.fallback - 1
          fallbackEnd := if s.fallback = 1 then some (s.index + 1) else s.fallbackEnd }
      else s
    else if c = '\'' || c = '"' then
      match s.quote, s.other with
      | none, _ =>
        { s with inTitle := true, fallback := s.count, count := 1, quote := some (c, s.index + 1) }
      | some (q, _), other =>
        if c = q then { s with quoteEnd := some (s.index + 1) }
        else match other with
          | none => { s with other := some (c, s.index + 1) }
          | some (o, _) => if c = o then { s with otherEnd := some (s.index + 1) } else s
    else s
  let s := { s with index := s.index + 1 }
  if s.count = 0 || c = ' ' then s else { s with last := some c }

/-- Reads on until the parenthesis is closed. -/
def run : LinkScan → Text → LinkScan
  | s, [] => s
  | s, c :: r =>
    let s := s.step c
    if s.count = 0 then s else run s r

end LinkScan

structure Target where
  address : Text
  title : Option Text
  rest : Text

def slice (t : Text) (start stop : Nat) : Text := (t.take stop).drop start

/-- An address in angle brackets and a title in quotation marks. -/
def bracketedTarget? (t : Text) : Option Target := do
  let r ← Text.after? ['<'] t
  let address := r.takeWhile fun c => c ≠ '<' && c ≠ '>'
  let r ← Text.after? ['>'] (r.drop address.length)
  let r := Text.trimStart r
  let titled : Option Target := match r with
    | q :: r' =>
      if q == '\'' || q == '"' then do
        let title := r'.takeWhile (· ≠ q)
        let rest ← Text.after? [q] (r'.drop title.length)
        let rest ← Text.after? [')'] (Text.trimStart rest)
        some ⟨Text.trim address, some title, rest⟩
      else none
    | [] => none
  match titled with
  | some target => some target
  | none => (Text.after? [')'] r).map fun rest => ⟨Text.trim address, none, rest⟩

/-- What stands in parentheses behind a link's text. A title that is not closed is none. -/
def rawTarget? (t : Text) : Option Target := do
  let r ← Text.after? ['('] t
  let t := Text.trimStart r
  match bracketedTarget? t with
  | some target => some target
  | none =>
    let s := LinkScan.run {} t
    let titled := fun (opened : Option (Char × Nat)) (ended : Option Nat) =>
      match opened, ended with
      | some (_, start), some stop =>
        some ⟨t.take (start - 1), some (slice t start (stop - 1)), t.drop s.index⟩
      | _, _ => none
    if s.count = 0 then
      if s.closes s.quote s.quoteEnd then titled s.quote s.quoteEnd
      else if s.closes s.other s.otherEnd then titled s.other s.otherEnd
      else some ⟨t.take (s.index - 1), none, t.drop s.index⟩
    else s.fallbackEnd.map fun stop => ⟨t.take (stop - 1), none, t.drop stop⟩

def dequote (t : Text) : Text :=
  match t with
  | q :: r => if (q == '"' || q == '\'') && t.getLast? = some q then r.dropLast else t
  | [] => []

/-- The target with nodes as plain text and blanks in its title as spaces. -/
def target? (s : State) (t : Text) : Option Target :=
  (rawTarget? t).map fun target =>
    { target with
      address := Text.trim (reveal s target.address)
      title := target.title.map fun title =>
        (dequote (reveal s (Text.trim title))).map fun c => if Text.isBlank c then ' ' else c }

def withTitle (title : Option Text) (as : List (Text × Text)) : List (Text × Text) :=
  match title with
  | some t => as ++ [("title".toList, t)]
  | none => as

def anchor (address : Text) (title : Option Text) (text : Text) : Element :=
  { tag := ['a'], attributes := withTitle title [("href".toList, address)], text }

def image (address : Text) (title : Option Text) (alt : Text) : Element :=
  { tag := "img".toList,
    attributes := withTitle title [("src".toList, address), ("alt".toList, alt)] }

/-- What a match leads to: a node that ends where the given text is left, or none that is
acceptable, or a stretch that stays as it is. -/
inductive Verdict where
  | node (n : Node) (rest : Text)
  | skip (rest : Text)
  | reject

def link (s : State) (isImage : Bool) (t : Text) : Verdict :=
  match bracketed 0 t with
  | none => .reject
  | some (text, r) =>
    match target? s r with
    | none => .reject
    | some g =>
      let e := if isImage then image g.address g.title (reveal s text)
        else anchor g.address g.title text
      .node (.element e) g.rest

/-- Blanks in a row as one space. -/
def squeeze : Bool → Text → Text
  | _, [] => []
  | blank, c :: r =>
    if Text.isBlank c then (if blank then squeeze true r else ' ' :: squeeze true r)
    else c :: squeeze false r

/-- A link by the name of a reference, which stands in brackets of its own unless `short`. -/
def referenceLink (s : State) (isImage short : Bool) (t : Text) : Verdict :=
  match bracketed 0 t with
  | none => .reject
  | some (text, r) =>
    let named : Option (Text × Text) :=
      if short then some (Unicode.lowercase text, r)
      else
        let r := match r with
          | c :: r' => if Text.isBlank c then r' else r
          | [] => r
        match r with
        | '[' :: r' =>
          let name := r'.takeWhile (· ≠ ']')
          (Text.after? [']'] (r'.drop name.length)).map fun rest =>
            (if name.isEmpty then Unicode.lowercase text else Unicode.lowercase name, rest)
        | _ => none
    match named with
    | none => .reject
    | some (name, rest) =>
      match s.references.find? (squeeze false name) with
      | none => .skip rest
      | some (address, title) =>
        let title := title.filter fun t => !t.isEmpty
        let e := if isImage then image address title (reveal s text) else anchor address title text
        .node (.element e) rest

open Pattern

/-! ### The kinds of markup -/

def isEscapable (c : Char) : Bool :=
  "\\\x60*_\x7b\x7d[]()>#+-.!|".toList.contains c

def linkPattern : Pattern := .seq (.behind false (· == '!')) (char '[')
def imagePattern : Pattern := text "!["

def addressPattern : Pattern :=
  seqs [char '<',
    .group 1 (seqs [.one Char.isAlpha, many (.one fun c => c.isAlphanum || "+.-".toList.contains c),
      text "://", many (noneOf "<>")]), char '>']

def mailPattern : Pattern :=
  seqs [char '<', .group 1 (seqs [some1 (noneOf "<> !"), char '@', some1 (noneOf "@<> ")]), char '>']

def attributePattern : Pattern :=
  let first := Pattern.one fun c => c.isAlpha || c == '_' || c == ':'
  let other := Pattern.one fun c => c.isAlphanum || "_:.-".toList.contains c
  let bare := Pattern.one fun c => !(Text.isBlank c || "\"'=<>\x60".toList.contains c)
  let value := alts [some1 bare, seqs [char '\'', many (noneOf "'"), char '\''],
    seqs [char '"', many (noneOf "\""), char '"']]
  seqs [some1 blank, first, many other, optional (seqs [many blank, char '=', many blank, value])]

/-- A tag, a comment, an instruction, a declaration or a section of characters. -/
def htmlPattern : Pattern :=
  let name := .seq (.one Char.isAlpha) (many (.one fun c => c.isAlphanum || c == '-'))
  let notMarked := .ahead false (.alt (text "<!--") (text "-->"))
  alts
    [ seqs [char '<', name, many attributePattern, many blank, optional (char '/'), char '>'],
      seqs [text "</", name, many blank, char '>'],
      seqs [text "<!--", many (.seq notMarked any), text "-->"],
      seqs [text "<?", manyLazy any, text "?>"],
      seqs [text "<!", .one Char.isAlpha, many (noneOf ">"), char '>'],
      seqs [text "<![CDATA[", manyLazy any, text "]]>"] ]

def entityPattern : Pattern :=
  seqs [char '&',
    alts [.seq (char '#') (some1 digit),
      .seq (text "#x") (some1 (anyOf "0123456789abcdefABCDEF")),
      some1 (.one Char.isAlphanum)],
    char ';']

inductive Kind where
  | escape
  | reference
  | link
  | image
  | imageReference
  | shortReference
  | shortImageReference
  | address
  | mail
  | lineBreak
  | html
  | entity

/-- What a text is searched for at a time. -/
inductive Step where
  | find (k : Kind)
  | emphasis (mark : Char)

def Step.all : List Step :=
  ([.escape, .reference, .link, .image, .imageReference, .shortReference, .shortImageReference,
    .address, .mail, .lineBreak, .html, .entity] : List Kind).map .find
    ++ [.emphasis '*', .emphasis '_']

def Kind.pattern : Kind → Pattern
  | .escape => .seq (char '\\') any
  | .reference | .link | .shortReference => linkPattern
  | .image | .imageReference | .shortImageReference => imagePattern
  | .address => addressPattern
  | .mail => mailPattern
  | .lineBreak => text "  \n"
  | .html => htmlPattern
  | .entity => entityPattern

def codeElement (t : Text) : Element :=
  let escaped := (Text.trim t).flatMap fun c =>
    if c = '&' then "&amp;".toList
    else if c = '<' then "&lt;".toList
    else if c = '>' then "&gt;".toList
    else [c]
  { tag := "code".toList, text := escaped, verbatim := true }

/-- A mail address, every character of which is written as a reference. -/
def mailElement (t : Text) : Element :=
  let address := (Text.after? "mailto:".toList t).getD t
  let number := fun (c : Char) => ampersandMark ++ '#' :: Text.ofNat c.toNat ++ [';']
  let name := fun (c : Char) => match Html.characterName? c with
    | some n => ampersandMark ++ n ++ [';']
    | none => number c
  { tag := ['a'], attributes := [("href".toList, ("mailto:".toList ++ address).flatMap number)],
    text := address.flatMap name, verbatim := true }

/-- What the match of a kind between two places is. -/
def verdict (k : Kind) (p m : Place) : Work Verdict := fun s =>
  let whole := p.since m
  let plain := fun (t : Text) => Verdict.node (.text t) m.rest
  match k with
  | .escape =>
    match whole with
    | [_, c] => (if isEscapable c then plain (charMark c) else .skip m.rest, s)
    | _ => (.reject, s)
  | .reference => (referenceLink s false false m.rest, s)
  | .link => (link s false m.rest, s)
  | .image => (link s true m.rest, s)
  | .imageReference => (referenceLink s true false m.rest, s)
  | .shortReference => (referenceLink s false true m.rest, s)
  | .shortImageReference => (referenceLink s true true m.rest, s)
  | .address =>
    let t := (m.group? 1).getD []
    let e : Element :=
      { tag := ['a'], attributes := [("href".toList, reveal s t)], text := t, verbatim := true }
    (.node (.element e) m.rest, s)
  | .mail => (.node (.element (mailElement (reveal s ((m.group? 1).getD [])))) m.rest, s)
  | .lineBreak => (.node (.element (Element.named "br")) m.rest, s)
  | .html | .entity =>
    let (mark, stash) := s.stash.store (revealHtml s whole)
    (plain mark, { s with stash })

/-- The first acceptable match of a kind at or behind a place. -/
def findKind (k : Kind) : Nat → Place → Work (Option (Place × Verdict))
  | 0, _ => pure none
  | fuel + 1, p => do
    match k.pattern.search? p with
    | none => pure none
    | some (start, m) =>
      match ← verdict k start m with
      | .reject => findKind k fuel { m with groups := [] }
      | v => pure (some (start, v))

mutual

/-- Replaces markup by marks, one step after the other. -/
def mark : Nat → List Step → Text → Work Text
  | 0, _, t => pure t
  | _ + 1, [], t => pure t
  | fuel + 1, .find k :: ks, t => do
    let t ← markKind fuel k ks 0 t
    mark fuel ks t
  | fuel + 1, .emphasis c :: ks, t => do
    let t ← markPieces fuel ks (Emphasis.pieces c t)
    mark fuel ks t

/-- Joins pieces and puts marks for those that are emphasised. -/
def markPieces : Nat → List Step → List Emphasis.Piece → Work Text
  | 0, _, _ => pure []
  | _ + 1, _, [] => pure []
  | fuel + 1, ks, p :: ps => do
    let t ← match p with
      | .text t => pure t
      | .emphasised strong inside => do
        let t ← markPieces fuel ks inside
        let text ← mark fuel ks t
        keep (.element { Element.named (if strong then "strong" else "em") with text })
    let rest ← markPieces fuel ks ps
    pure (t ++ rest)

/-- Replaces markup of one kind from a position on. -/
def markKind : Nat → Kind → List Step → Nat → Text → Work Text
  | 0, _, _, _, t => pure t
  | fuel + 1, k, ks, start, t => do
    let p := (Pattern.startPlace t).skip (t.take start)
    match ← findKind k (t.length + 1) p with
    | none => pure t
    | some (s, .node n rest) =>
      let n ← markNode fuel k ks n
      let m ← keep n
      markKind fuel k ks 0 (s.passed.reverse ++ m ++ rest)
    | some (_, .skip rest) => markKind fuel k ks (t.length - rest.length) t
    | some (_, .reject) => pure t

/-- Replaces markup inside an element that was found, and inside its children: of the later kinds in
their texts, and of the same kind too behind them. -/
def markNode : Nat → Kind → List Step → Node → Work Node
  | 0, _, _, n => pure n
  | fuel + 1, k, ks, n =>
    match n with
    | .text t => pure (.text t)
    | .element e =>
      if e.verbatim then pure (.element e)
      else do
        let text ← mark fuel ks e.text
        let children ← e.children.mapM fun c => do
          let text ← if c.verbatim then pure c.text else mark fuel ks c.text
          let tail ← mark fuel (.find k :: ks) c.tail
          pure { c with text, tail }
        pure (.element { e with text, children })

end

/-! ### Putting the elements in place -/

/-- The text up to the first mark of a node, and the nodes with the text behind each of them. -/
structure Expanded where
  text : Text := []
  elements : List Element := []

def Expanded.addText (x : Expanded) (t : Text) : Expanded :=
  match x.elements.getLast? with
  | some e => { x with elements := x.elements.dropLast ++ [{ e with tail := e.tail ++ t }] }
  | none => { x with text := x.text ++ t }

def Expanded.add (x : Expanded) (e : Element) : Expanded := { x with elements := x.elements ++ [e] }

/-- Puts the nodes of a text in place of their marks, and those in the texts of each node and of its
children. -/
def expand (s : State) : Nat → Text → Expanded
  | 0, t => { text := t }
  | fuel + 1, t =>
    let rec go : Nat → Expanded → Text → Expanded
      | 0, x, t => x.addText t
      | _ + 1, x, [] => x
      | n + 1, x, c :: r =>
        match numberBehind? inlineLabel (c :: r) with
        | none => go n (x.addText [c]) r
        | some (i, rest) =>
          match s.nodes[i]? with
          | none => go n (x.addText [c]) r
          | some (.text t) => go n (x.addText t) rest
          | some (.element e) =>
            let inside := fun (e : Element) =>
              if e.verbatim || Text.isBlankText e.text then e
              else
                let x := expand s fuel e.text
                { e with text := x.text, children := x.elements ++ e.children }
            let withTail := fun (c : Element) =>
              if Text.isBlankText c.tail then [inside c]
              else
                let x := expand s fuel c.tail
                { inside c with tail := x.text } :: x.elements
            let e := { e with children := e.children.flatMap withTail }
            go n (x.add (inside e)) rest
    go (t.length + 1) {} t

/-- Puts marks for code and for backslashes in front of it. -/
def markCode : List CodeSpan.Span → Work Text
  | [] => pure []
  | s :: ss => do
    let t ← match s with
      | .char c => pure [c]
      | .code t => keep (.element (codeElement t))
      | .backslashes n => keep (.text ((List.replicate n (charMark '\\')).flatten))
    let rest ← markCode ss
    pure (t ++ rest)

/-- Reads a text and puts what is found in place. -/
def readText (t : Text) : Work Expanded := do
  let fuel := 16 * t.length + 64
  let t ← markCode (CodeSpan.spans t)
  let t ← mark fuel Step.all t
  let s ← get
  pure (expand s (s.nodes.size + 1) t)

mutual

/-- Reads the texts of the children of an element and of everything below them. -/
def readElement : Nat → Element → Work Element
  | 0, e => pure e
  | fuel + 1, e => do
    let children ← readChildren fuel e.children
    pure { e with children }

def readChildren : Nat → List Element → Work (List Element)
  | 0, es => pure es
  | _ + 1, [] => pure []
  | fuel + 1, e :: es => do
    let text ← if e.verbatim || e.text.isEmpty then pure { text := e.text } else readText e.text
    let tail ← if e.tail.isEmpty then pure {} else readText e.tail
    let e ←
      if e.children.isEmpty then do
        let found ← text.elements.mapM fun c => readElement fuel c
        pure { e with children := found }
      else readElement fuel { e with children := text.elements ++ e.children }
    let es ← readChildren fuel (tail.elements ++ es)
    pure ({ e with text := text.text, tail := tail.text } :: es)

end

end Weave.Markdown.Inline
