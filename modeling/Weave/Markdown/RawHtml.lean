import Weave.Markdown.Written

/-!
# Raw HTML in a Markdown text

Elements that stand on their own and start a line are set aside with everything up to their end, and
so are comments and declarations. All other markup stays where it is.
-/

set_option autoImplicit false

namespace Weave.Markdown.RawHtml

/-! ### Tags -/

def isTagEnd (c : Char) : Bool :=
  c == '\t' || c == '\n' || c == '\r' || c == '\x0c' || c == ' ' || c == '/' || c == '>'
    || c == Char.ofNat 0

def isTagChar (c : Char) : Bool := !(isTagEnd c || c == '\x60')

/-- A tag as far as it has been read: what follows it, and the last character of its text. -/
structure Progress where
  rest : Text
  last : Char

def Progress.skip (p : Progress) : Text → Progress
  | [] => p
  | c :: cs => Progress.skip ⟨p.rest.drop 1, c⟩ cs

def Progress.takeWhile (p : Progress) (test : Char → Bool) : Progress := p.skip (p.rest.takeWhile test)

/-- Blanks and slashes, other than one directly before the end of the tag. -/
def Progress.skipGaps : Nat → Progress → Progress
  | 0, p => p
  | fuel + 1, p =>
    match p.rest with
    | '/' :: '>' :: _ => p
    | c :: _ => if Text.isBlank c || c == '/' then skipGaps fuel (p.skip [c]) else p
    | [] => p

/-- The value of an attribute behind its name, if there is one. A value without quotation marks may
end in a slash. -/
def Progress.value (p : Progress) : Progress × Bool :=
  let equals := p.takeWhile Text.isBlank |>.takeWhile (· == '=')
  if (p.rest.dropWhile Text.isBlank).head? ≠ some '=' then (p, false)
  else
    let v := equals.takeWhile Text.isBlank
    match v.rest with
    | q :: r =>
      if q == '"' || q == '\'' then
        if r.contains q then (((v.skip [q]).takeWhile (· ≠ q)).skip [q], false)
        else if v.rest.length < equals.rest.length then (equals, false)
        else (p, false)
      else
        let bare := v.takeWhile fun c => !(Text.isBlank c || c == '>' || c == '\x60')
        (bare, bare.rest.length < v.rest.length && bare.last == '/')
    | [] => (v, false)

/-- The attributes of a tag. The truth value tells whether a value in front of here ended in a slash. -/
def Progress.attributes : Nat → Progress → Bool → Progress × Bool
  | 0, p, slash => (p, slash)
  | fuel + 1, p, slash =>
    let mayStart := p.last == '"' || p.last == '\'' || Text.isBlank p.last || p.last == '/'
    match p.rest with
    | c :: _ =>
      if mayStart && !(Text.isBlank c || c == '/' || c == '>' || c == '\x60') then
        let name := (p.skip [c]).takeWhile fun c =>
          !(Text.isBlank c || c == '/' || c == '=' || c == '>')
        let (v, slash) := name.value
        attributes fuel (Progress.skipGaps v.rest.length v) slash
      else (p, slash)
    | [] => (p, slash)

inductive TagEnd where
  | normal
  /-- Closed by a slash. -/
  | empty
  | bogus
deriving DecidableEq

/-- The length of the tag at the front of a text, and how it ends. -/
def startTag? (t : Text) : Option (Nat × TagEnd) :=
  let p : Progress := ⟨t.drop 1, '<'⟩
  let p := p.takeWhile isTagChar
  let p := p.takeWhile fun c => Text.isBlank c || c == '/'
  let (p, slash) := p.attributes t.length false
  let p := p.takeWhile Text.isBlank
  let taken := t.length - p.rest.length
  match p.rest with
  | '>' :: _ => some (taken + 1, if p.last == '/' && !slash then .empty else .normal)
  | '/' :: '>' :: _ => some (taken + 2, .empty)
  | '/' :: _ => none
  | '=' :: _ => none
  | [] => none
  | c :: _ => if c.isAlpha then none else some (max taken 1, .bogus)

def tagName (t : Text) : Text := (t.takeWhile fun c => !isTagEnd c).map Char.toLower

/-! ### Extraction -/

structure State where
  /-- Whether a block is being read; its open tags, the innermost first, and its text so far. -/
  inBlock : Bool := false
  openTags : List Text := []
  block : Text := []
  /-- Whether the rest of this line follows a block. -/
  behindBlock : Bool := false
  /-- The tags inside the running text that have not been closed, the innermost first. -/
  openInline : List Text := []
  /-- The text so far, latest piece first. -/
  done : List Text := []
  stash : Stash
  /-- The element whose content is not markup. -/
  opaqueTag : Option Text := none

namespace State

def emit (s : State) (t : Text) : State := { s with done := t :: s.done }

def keepBlock (s : State) (html : Text) : State :=
  let (mark, stash) := s.stash.store html
  { s with stash, done := mark :: s.done }

def hasBlankLine (t : Text) : Bool :=
  ((Text.splitOn '\n' t).drop 1).dropLast.any fun l => l.all (· == ' ')

def data (s : State) (t : Text) : State :=
  let s := if s.behindBlock && t.contains '\n' then { s with behindBlock := false } else s
  let s := if hasBlankLine t then { s with openInline := [] } else s
  if s.inBlock then { s with block := s.block ++ t } else s.emit t

end State

/-- Two line ends with only spaces in front of each. -/
def startsWithBlankLine (t : Text) : Bool :=
  match t.dropWhile (· == ' ') with
  | '\n' :: r => match r.dropWhile (· == ' ') with
    | '\n' :: _ => true
    | _ => false
  | _ => false

/-- Whether the text of the current line so far lets a block start here. -/
def atLineStart (line : Text) : Bool := line.length ≤ 3 && Text.isBlankText line

/-- Markup without content, such as a comment; `rest` follows it. -/
def State.lone (s : State) (line t rest : Text) (isBlock : Bool) : State :=
  if s.inBlock || s.behindBlock then { s with block := s.block ++ t }
  else if atLineStart line && isBlock then
    let blank := startsWithBlankLine rest
    let html := if blank then t ++ ['\n'] else t
    let s := if blank then s else { s with behindBlock := true }
    let before := s.done.headD []
    let s := if Text.endsWith before ['\n'] && !Text.endsWith before ['\n', '\n'] then s.emit ['\n'] else s
    (s.keepBlock html).emit ['\n', '\n']
  else s.emit t

def State.startTag (s : State) (line tag t rest : Text) : State :=
  if tag = "hr".toList then s.lone line t rest true
  else
    let isOpaque := tag = "script".toList || tag = "style".toList
    let s := if isOpaque then { s with opaqueTag := some tag } else s
    let s := if isBlockTag tag && (s.behindBlock || atLineStart line)
      then { s with inBlock := true, done := ['\n'] :: s.done } else s
    if s.inBlock then { s with openTags := tag :: s.openTags, block := s.block ++ t }
    else
      { s.emit t with
        opaqueTag := if isOpaque then none else s.opaqueTag
        openInline := if isVoid tag then s.openInline else tag :: s.openInline }

def State.endTag (s : State) (tag t rest : Text) : State :=
  if !s.inBlock then
    let openInline := if s.openInline.contains tag
      then (s.openInline.dropWhile (· ≠ tag)).drop 1 else s.openInline
    { s.emit t with openInline }
  else
    let openTags := if s.openTags.contains tag
      then (s.openTags.dropWhile (· ≠ tag)).drop 1 else s.openTags
    let s := { s with block := s.block ++ t, openTags }
    if !openTags.isEmpty then s
    else
      let blank := startsWithBlankLine rest
      let html := if blank then s.block ++ ['\n'] else s.block
      let s := { s with behindBlock := s.behindBlock || !blank, inBlock := false, block := [] }
      (s.keepBlock html).emit ['\n', '\n']

def lineAfter (line t : Text) : Text :=
  if t.contains '\n' then (t.reverse.takeWhile (· ≠ '\n')).reverse else line ++ t

def charReference? (t : Text) : Option (Text × Nat) :=
  match t with
  | '&' :: '#' :: r =>
    let isHex := fun (c : Char) => c.isDigit || ('a' ≤ c && c ≤ 'f') || ('A' ≤ c && c ≤ 'F')
    let name := match r with
      | 'x' :: r' => 'x' :: r'.takeWhile isHex
      | 'X' :: r' => 'X' :: r'.takeWhile isHex
      | r => r.takeWhile Char.isDigit
    let behind := r.drop name.length
    if name.all fun c => c == 'x' || c == 'X' then none
    else match behind with
      | [] => none
      | c :: _ =>
        if isHex c then none
        else some ("&#".toList ++ name ++ [';'], 2 + name.length + if c == ';' then 1 else 0)
  | _ => none

def entity? (t : Text) : Option Text :=
  match t with
  | '&' :: c :: r =>
    let name := r.takeWhile fun c => c.isAlphanum || c == '-' || c == '.'
    if c.isAlpha && (r.drop name.length).head? = some ';' then some ('&' :: c :: name ++ [';'])
    else none
  | _ => none

/-- The position of the end tag of an element whose content is not markup. -/
def untilEndOf (tag : Text) : Text → Option Text
  | [] => none
  | c :: r =>
    let closes := match Text.after? "</".toList (c :: r) with
      | some r =>
        let r := Text.trimStart r
        (r.take tag.length).map Char.toLower = tag &&
          (Text.trimStart (r.drop tag.length)).head? = some '>'
      | none => false
    if closes then some [] else (untilEndOf tag r).map (c :: ·)

/-- Where a construct that starts here ends and what it is; `none` if it does not end. -/
def find (closing : Text) (t : Text) (opening : Nat) : Option Text :=
  (Text.cut? closing (t.drop opening)).map fun (inner, _) => t.take opening ++ inner ++ closing

/-- The text of the comment at the front of a text and its length; two dashes end it in front of an
angle bracket, also with an exclamation mark between them. -/
def comment? (t : Text) : Option (Text × Nat) :=
  let inner := t.drop 4
  let ends := [Text.cut? "-->".toList inner, Text.cut? "--!>".toList inner].filterMap id
  match ends with
  | [(a, r), (b, r')] =>
    if a.length ≤ b.length then some (a, t.length - r.length) else some (b, t.length - r'.length)
  | [(a, r)] => some (a, t.length - r.length)
  | _ => none

/-- What the markup at the front of a text is. -/
inductive Markup where
  | start (tag : Text) (t : Text) (ending : TagEnd)
  | finish (tag : Text) (t : Text) (shown : Text)
  | lone (t : Text) (isBlock : Bool)
  /-- A comment as it is written, and how many characters it takes. -/
  | comment (t : Text) (length : Nat)
  | plain (t : Text)
  /-- It is taken out and leaves nothing. -/
  | dropped (t : Text)

def endMarkup (t : Text) : Option Markup :=
  (find ['>'] t 1).map fun whole =>
    let inner := (whole.drop 2).dropLast
    let name := Text.trim inner
    let proper := match name with
      | c :: r => c.isAlpha && r.all fun c => c.isAlphanum || "-.:_".toList.contains c
      | [] => false
    if proper then .finish (name.map Char.toLower) whole whole
    else match inner with
      | c :: _ =>
        if c.isAlpha then .finish (tagName inner) whole whole else .lone whole false
      | [] => .dropped whole

/-- The markup at the front of a text that starts with an angle bracket. -/
def markup? (mayDeclare : Bool) (t : Text) : Option Markup :=
  match t with
  | '<' :: c :: r =>
    if c.isAlpha then
      match startTag? t with
      | some (n, e) => some (.start (tagName (c :: r)) (t.take n) e)
      | none => some (.plain ['<'])
    else if c = '/' then endMarkup t
    else if (Text.after? "<!--".toList t).isSome then
      (comment? t).map fun (inner, n) => .comment ("<!--".toList ++ inner ++ "-->".toList) n
    else if c = '?' then
      if mayDeclare then (find "?>".toList t 2).map fun whole => .lone whole true
      else some (.plain "<?".toList)
    else if c = '!' then
      if !mayDeclare then some (.plain "<!".toList)
      else if (Text.after? "<![CDATA[".toList t).isSome then
        (find "]]>".toList t 3).map fun whole => .lone whole true
      else if (t.take 9).map Char.toLower = "<!doctype".toList then
        (find ['>'] t 9).map fun whole => .lone whole true
      else (find ['>'] t 2).map fun whole => .lone whole false
    else some (.plain ['<'])
  | _ => none

/-- Reads the rest of a text behind the given part of its line. What does not end is text; a reference
that is none ends the reading of markup when it is met for the second time. -/
def scan : Nat → Bool → Text → Text → State → State
  | 0, _, _, t, s => s.data t
  | _ + 1, _, _, [], s => s
  | fuel + 1, final, line, t, s =>
    let untilMarkup := match s.opaqueTag with
      | some tag => untilEndOf tag t
      | none => some (t.takeWhile fun c => c ≠ '<' && c ≠ '&')
    match untilMarkup with
    | none => s.data t
    | some plain =>
      let s := if plain.isEmpty then s else s.data plain
      let line := lineAfter line plain
      let t := t.drop plain.length
      let go := fun (final : Bool) (n : Nat) (s : State) =>
        scan fuel final (lineAfter line (t.take n)) (t.drop n) s
      match t with
      | [] => s
      | '<' :: _ =>
        match markup? (atLineStart line || s.behindBlock) t with
        | some (.start tag whole .normal) =>
          go final whole.length (s.startTag line tag whole (t.drop whole.length))
        | some (.start tag whole .empty) =>
          go final whole.length (s.lone line whole (t.drop whole.length) (isBlockTag tag))
        | some (.start _ whole .bogus) => go final whole.length (s.data whole)
        | some (.finish tag whole shown) =>
          let s := { s with opaqueTag := none }
          go final whole.length (s.endTag tag shown (t.drop whole.length))
        | some (.lone whole isBlock) =>
          go final whole.length (s.lone line whole (t.drop whole.length) isBlock)
        | some (.comment shown n) =>
          -- inside an element of the running text it is part of that text
          go final n (s.lone line shown (t.drop n) s.openInline.isEmpty)
        | some (.plain whole) => go final whole.length (s.data whole)
        | some (.dropped whole) => go final whole.length s
        | none =>
          if t.length = 1 then s.data t
          else
            -- up to the end of a bracket, or of what stands before the next one
            let n := match Text.cut? ['>'] (t.drop 1) with
              | some (inner, _) => inner.length + 2
              | none => match Text.cut? ['<'] (t.drop 1) with
                | some (inner, _) => inner.length + 1
                | none => 1
            go true n (s.data (t.take n))
      | '&' :: '#' :: _ =>
        match charReference? t with
        | some (shown, n) => go final n (s.lone line shown (t.drop n) false)
        | none =>
          let s := if t.contains ';' then s.data (t.take 2) else s
          let rest := if t.contains ';' then t.drop 2 else t
          if final then s.data rest
          else scan fuel true (lineAfter line (t.take (t.length - rest.length))) rest s
      | _ =>
        match entity? t with
        | some e => go final e.length (s.lone line e (t.drop e.length) false)
        | none => go final 1 (s.data (t.take 1))

/-- The text without the blocks of raw HTML, which are set aside. -/
def extract (t : Text) (stash : Stash) : Text × Stash :=
  let s := scan (2 * t.length + 4) false [] t { stash }
  let s := if s.block.isEmpty then s else s.keepBlock s.block
  (s.done.reverse.flatten, s.stash)

end Weave.Markdown.RawHtml
