import Weave.Markdown.Table
import Weave.Pattern
import Weave.Unicode.Digits
import Weave.Unicode.Lowercase

/-!
# Blocks of a Markdown text

A text is cut into blocks at its blank lines. The first rule that knows a block adds it to the tree,
and may give back some of its lines as a block that comes next.
-/

set_option autoImplicit false

namespace Weave.Markdown.Block

/-- What is being read around a block. -/
inductive Mode where
  | list
  | looseList
  | detabbed
  | quote
deriving DecidableEq

def joinLines (ls : List Text) : Text := Text.join ['\n'] ls

def linesOf (t : Text) : List Text := Text.splitOn '\n' t

/-- The parts between two line ends in a row. -/
def cutBlocks : Text → List Text
  | [] => [[]]
  | '\n' :: '\n' :: r => [] :: cutBlocks r
  | c :: r =>
    match cutBlocks r with
    | [] => [[c]]
    | b :: bs => (c :: b) :: bs

def indentation : Text := Text.spaces 4

def isIndented (t : Text) : Bool := Text.startsWith t indentation

/-- The indented and the blank lines at the front, without the indentation, and the other lines. -/
def detab : List Text → List Text × List Text
  | [] => ([], [])
  | l :: ls =>
    if isIndented l then
      let (a, b) := detab ls
      (l.drop 4 :: a, b)
    else if Text.isBlankText l then
      let (a, b) := detab ls
      ([] :: a, b)
    else ([], l :: ls)

/-- Takes the indentation of so many levels from every line that has it. -/
def looseDetab (level : Nat) (t : Text) : Text :=
  joinLines ((linesOf t).map fun l =>
    if Text.startsWith l (Text.spaces (4 * level)) then l.drop (4 * level) else l)

/-- What follows up to `most` spaces. -/
def behindSpaces (most : Nat) (t : Text) : Option Text :=
  let n := (t.takeWhile (· == ' ')).length
  if n ≤ most then some (t.drop n) else none

def behindGap (t : Text) : Option Text :=
  match t with
  | ' ' :: r => some (r.dropWhile (· == ' '))
  | _ => none

def bullet? (t : Text) : Option Text :=
  match t with
  | c :: r => if c == '*' || c == '+' || c == '-' then behindGap r else none
  | [] => none

def number? (t : Text) : Option Text :=
  let digits := t.takeWhile Unicode.isDecimalDigit
  match t.drop digits.length with
  | '.' :: r => if digits.isEmpty then none else behindGap r
  | _ => none

/-- The text of a list item that starts a line. -/
def item? (t : Text) : Option Text :=
  (behindSpaces 3 t).bind fun r => match number? r with
    | some i => some i
    | none => bullet? r

/-- Whether a list item starts here that is one level deeper. -/
def isDeeperItem (t : Text) : Bool :=
  isIndented t && (item? (t.drop 4)).isSome

/-- The items of a block, each with the lines that belong to it. -/
def items : List Text → List Text → List Text
  | acc, [] => acc.reverse
  | acc, l :: ls =>
    let join := fun (acc : List Text) => match acc with
      | i :: is' => (i ++ '\n' :: l) :: is'
      | [] => [l]
    match item? l with
    | some i => items (i :: acc) ls
    | none =>
      if isDeeperItem l && !(acc.head?.any isIndented) then items (l :: acc) ls
      else items (join acc) ls

/-- A line of three or more equal marks with at most two spaces between them. -/
def isRule (line : Text) : Bool :=
  match behindSpaces 3 line with
  | some (c :: r) =>
    let t := Text.dropEndWhile (· == ' ') (c :: r)
    (c == '-' || c == '_' || c == '*') && t.all (fun d => d == c || d == ' ')
      && 3 ≤ t.count c && !Text.hasPart t (Text.spaces 3)
  | _ => false

def isUnderline (line : Text) : Bool :=
  let marks := line.takeWhile fun c => c == '=' || c == '-'
  !marks.isEmpty && (line.drop marks.length).all (· == ' ')

def quoted? (line : Text) : Option Text :=
  match behindSpaces 3 line with
  | some ('>' :: ' ' :: r) => some r
  | some ('>' :: r) => some r
  | _ => none

def unquote (line : Text) : Text :=
  if Text.trim line = ['>'] then [] else (quoted? line).getD line

open Pattern in
/-- A heading: hash marks, text, and any hash marks at its end. -/
def heading : Pattern :=
  let escaped := .seq (char '\\') (noneOf "\n")
  seqs [
    .alt .atStart (char '\n'),
    .group 1 (between 1 6 (char '#')),
    .group 2 (manyLazy (.alt escaped (noneOf "\\"))),
    many (char '#'),
    alts [char '\n', .atEnd] ]

open Pattern in
/-- The definition of a reference: its name, its address and a title in quotes or parentheses. -/
def reference : Pattern :=
  let spaces := many (char ' ')
  let line := many (noneOf "\n")
  let quotedTitle := seqs [.group 4 (anyOf "\"'"), .group 5 line, .again 4, spaces]
  let title := seqs [char '(', .group 6 line, char ')', spaces]
  seqs [
    .alt .atStart (.behind true (· == '\n')),
    upTo 3 (char ' '), char '[', .group 1 (many (noneOf "[]")), text "]:", spaces,
    optional (char '\n'), spaces, .group 2 (some1 (.one fun c => !Text.isBlank c)), spaces,
    optional (.seq (char '\n') spaces), optional (.alt quotedTitle title),
    alts [.ahead true (char '\n'), .atEnd] ]

/-- The text on either side of the first match, and the match. -/
def matchIn? (p : Pattern) (t : Text) : Option (Text × Pattern.Place × Text) :=
  (p.search? (Pattern.startPlace t)).map fun (s, e) => (s.passed.reverse, e, e.rest)

/-! ### The rules -/

/-- Moves the text of an item into a paragraph at its front. -/
def wrapText (li : Element) : Element :=
  if li.text.isEmpty then li
  else { li with
    text := [], children := { Element.named "p" with text := li.text } :: li.children }

def wrapTail (li : Element) : Element :=
  match li.last? with
  | some c =>
    if c.tail.isEmpty then li
    else (li.setLast { c with tail := [] }).add
      { Element.named "p" with text := Text.trimStart c.tail }
  | none => li

abbrev Reader := List Mode → Element → List Text → StateM References Element

/-- Reads a text with this element as its parent. -/
def readText (read : Reader) (modes : List Mode) (parent : Element) (t : Text) :
    StateM References Element :=
  read modes parent (cutBlocks t)

/-- Adds lines to the listing at the end of an element. -/
def extendListing (pre : Element) (more : Text → Text) : Element :=
  match pre.children with
  | c :: cs => { pre with children := { c with text := more c.text, verbatim := true } :: cs }
  | [] => pre

def emptyBlock (parent : Element) (block : Text) : Element × List Text :=
  let filler : Text := if block.isEmpty then ['\n', '\n'] else ['\n']
  let rest := block.drop 1
  let parent := match parent.last? with
    | some pre => if pre.isListing then parent.setLast (extendListing pre (· ++ filler)) else parent
    | none => parent
  (parent, if rest.isEmpty then [] else [rest])

/-- Goes down the last lists and items to the given level and changes the element found there. -/
def atLevel (wanted : Nat) (change : Nat → Element → StateM References Element) :
    Nat → Nat → Element → StateM References Element
  | 0, level, e => change level e
  | fuel + 1, level, e =>
    match e.last? with
    | some c =>
      if wanted > level && (c.isList || c.is "li") then do
        let c ← atLevel wanted change fuel (if c.isList then level + 1 else level) c
        pure (e.setLast c)
      else change level e
    | none => change level e

/-- A block that is indented below a list item. -/
def indentedBlock (read : Reader) (modes : List Mode) (parent : Element) (block : Text) :
    StateM References Element :=
  let wanted := (block.takeWhile (· == ' ')).length / 4
  let start := if modes.head? = some .list then 1 else 0
  let modes := Mode.detabbed :: modes
  if parent.is "li" then do
    -- the level is found as below, but the block goes to the item itself
    let rec levelOf : Nat → Nat → Element → Nat
      | 0, level, _ => level
      | fuel + 1, level, e =>
        match e.last? with
        | some c =>
          if wanted > level && (c.isList || c.is "li") then
            levelOf fuel (if c.isList then level + 1 else level) c
          else level
        | none => level
    let block := looseDetab (levelOf (wanted * 2 + 4) start parent) block
    match parent.last? with
    | some l =>
      if l.isList then do
        let l ← read modes l [block]
        pure (parent.setLast l)
      else read modes parent [block]
    | none => read modes parent [block]
  else
    atLevel wanted (fun level e => do
      let block := looseDetab level block
      if e.is "li" then read modes e [block]
      else match e.last? with
        | some li =>
          if li.is "li" then do
            let li ← readText read modes (wrapText li) block
            pure (e.setLast li)
          else do
            let li ← read modes (Element.named "li") [block]
            pure (e.add li)
        | none => do
          let li ← read modes (Element.named "li") [block]
          pure (e.add li)) (wanted * 2 + 4) start parent

def codeBlock (parent : Element) (block : Text) : Element × List Text :=
  let (code, rest) := detab (linesOf block)
  let t := (Text.trimEnd (joinLines code)).flatMap fun c =>
    if c = '&' then "&amp;".toList
    else if c = '<' then "&lt;".toList
    else if c = '>' then "&gt;".toList
    else [c]
  let fresh := parent.add { Element.named "pre" with
    children := [{ Element.named "code" with text := t ++ ['\n'], verbatim := true }] }
  let parent := match parent.last? with
    | some pre =>
      if pre.isListing then
        parent.setLast (extendListing pre fun old => old ++ '\n' :: t ++ ['\n'])
      else fresh
    | none => fresh
  (parent, if (joinLines rest).isEmpty then [] else [joinLines rest])

def quoteBlock (read : Reader) (modes : List Mode) (parent : Element) (lines : List Text) :
    StateM References Element := do
  let before := lines.takeWhile fun l => (quoted? l).isNone
  let quote := lines.drop before.length
  let parent ← read modes parent [joinLines before]
  let quote := (if before.isEmpty then quote else [] :: quote).map unquote
  let modes := Mode.quote :: modes
  match parent.last? with
  | some q =>
    if q.is "blockquote" then do
      let q ← readText read modes q (joinLines quote)
      pure (parent.setLast q)
    else do
      let q ← readText read modes (Element.named "blockquote") (joinLines quote)
      pure (parent.add q)
  | none => do
    let q ← readText read modes (Element.named "blockquote") (joinLines quote)
    pure (parent.add q)

/-- Adds items to a list; an indented one belongs to the item in front of it. -/
def addItems (read : Reader) (modes : List Mode) : Element → List Text → StateM References Element
  | l, [] => pure l
  | l, i :: is' => do
    let l ← match isIndented i, l.last? with
      | true, some li => do
        let li ← read modes li [i]
        pure (l.setLast li)
      | _, _ => do
        let li ← read modes (Element.named "li") [i]
        pure (l.add li)
    addItems read modes l is'

def listBlock (read : Reader) (modes : List Mode) (tag : String) (parent : Element)
    (lines : List Text) : StateM References Element := do
  let is' := items [] lines
  let inList := Mode.list :: modes
  let fresh := fun (_ : Unit) =>
    if parent.isList then addItems read inList parent is'
    else do
      let l ← addItems read inList (Element.named tag) is'
      pure (parent.add l)
  match parent.last? with
  | some l =>
    if l.isList then do
      let l := match l.last? with
        | some li => l.setLast (wrapTail (wrapText li))
        | none => l
      let li ← read (Mode.looseList :: modes) (Element.named "li") (is'.take 1)
      let l ← addItems read inList (l.add li) (is'.drop 1)
      pure (parent.setLast l)
    else fresh ()
  | none => fresh ()

def paragraph (modes : List Mode) (parent : Element) (block : Text) : Element :=
  if Text.isBlankText block then parent
  else if modes.head? = some .list then
    match parent.last? with
    | some c => parent.setLast { c with tail := c.tail ++ '\n' :: block }
    | none =>
      let t := Text.trimStart block
      { parent with text := if parent.text.isEmpty then t else parent.text ++ '\n' :: t }
  else parent.add { Element.named "p" with text := Text.trimStart block }

def addBlock (read : Reader) (modes : List Mode) (parent : Element) (block : Text) (rest : List Text) :
    StateM References (Element × List Text) := do
  let lines := linesOf block
  let first := lines.headD []
  let belowItem := parent.is "li" || (parent.last?.any Element.isList)
  if block.isEmpty || block.head? = some '\n' then
    let (parent, more) := emptyBlock parent block
    pure (parent, more ++ rest)
  else if isIndented block && modes.head? ≠ some .detabbed && belowItem then
    let parent ← indentedBlock read modes parent block
    pure (parent, rest)
  else if isIndented block then
    let (parent, more) := codeBlock parent block
    pure (parent, more ++ rest)
  else if let some table := Table.ofLines? lines then
    pure (parent.add table, rest)
  else if let some (before, m, after) := matchIn? heading block then
    let parent ← if before.isEmpty then pure parent else read modes parent [before]
    let level := ((m.group? 1).getD []).length
    let h := { tag := 'h' :: Text.ofNat level, text := Text.trim ((m.group? 2).getD []) : Element }
    let after := if modes.head? = some .looseList then looseDetab 1 after else after
    pure (parent.add h, if after.isEmpty then rest else after :: rest)
  else if (lines[1]?).any isUnderline then
    let tag := if (lines[1]?).any fun l => l.head? = some '=' then "h1" else "h2"
    let more := lines.drop 2
    pure (parent.add { Element.named tag with text := Text.trim first },
      if more.isEmpty then rest else joinLines more :: rest)
  else if lines.any isRule then
    let newline := fun c => c == '\n'
    let before := lines.takeWhile fun l => !isRule l
    let pre := Text.dropEndWhile newline (joinLines before)
    let post := (joinLines (lines.drop (before.length + 1))).dropWhile newline
    let parent ← if pre.isEmpty then pure parent else read modes parent [pre]
    pure (parent.add (Element.named "hr"), if post.isEmpty then rest else post :: rest)
  else if ((behindSpaces 3 first).bind number?).isSome then
    let parent ← listBlock read modes "ol" parent lines
    pure (parent, rest)
  else if ((behindSpaces 3 first).bind bullet?).isSome then
    let parent ← listBlock read modes "ul" parent lines
    pure (parent, rest)
  else if lines.any fun l => (quoted? l).isSome then
    let parent ← quoteBlock read modes parent lines
    pure (parent, rest)
  else if let some (before, m, after) := matchIn? reference block then
    let name := Unicode.lowercase (Text.trim ((m.group? 1).getD []))
    let address := Text.dropEndWhile (· == '>') (((m.group? 2).getD []).dropWhile (· == '<'))
    let given := fun (i : Nat) => (m.group? i).filter fun t => !t.isEmpty
    let title := match given 5 with
      | some t => some t
      | none => m.group? 6
    modify fun rs => (name, address, title) :: rs
    let newline := fun c => c == '\n'
    let more := if Text.isBlankText after then [] else [after.dropWhile newline]
    let less := if Text.isBlankText before then [] else [Text.dropEndWhile newline before]
    pure (parent, less ++ more ++ rest)
  else pure (paragraph modes parent block, rest)

/-- Adds blocks to an element. Every step takes some of the text or some of its nesting away. -/
def read : Nat → Reader
  | 0, _, parent, _ => pure parent
  | _ + 1, _, parent, [] => pure parent
  | fuel + 1, modes, parent, block :: rest => do
    let (parent, rest) ← addBlock (read fuel) modes parent block rest
    read fuel modes parent rest

/-- The tree of a text and the references defined in it. -/
def tree (lines : List Text) : Element × References :=
  let t := joinLines lines
  (read (8 * t.length + 64) [] (Element.named "div") (cutBlocks t)).run []

end Weave.Markdown.Block
