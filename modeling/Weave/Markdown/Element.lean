import Weave.Text

/-!
# Elements

The tree of a Markdown text. Raw HTML is kept aside and stands in the tree under a number; so do the
elements inside a line while the line is still being read.
-/

set_option autoImplicit false

namespace Weave.Markdown

structure Element where
  tag : Text
  attributes : List (Text × Text) := []
  /-- What comes before the first child. -/
  text : Text := []
  /-- Whether that text is not to be read as markup. -/
  verbatim : Bool := false
  children : List Element := []
  /-- What comes behind the element. -/
  tail : Text := []
deriving Inhabited

namespace Element

def named (tag : String) : Element := { tag := tag.toList }

def is (e : Element) (tag : String) : Bool := e.tag = tag.toList

def last? (e : Element) : Option Element := e.children.getLast?

def add (e child : Element) : Element := { e with children := e.children ++ [child] }

def setLast (e child : Element) : Element := { e with children := e.children.dropLast ++ [child] }

def isList (e : Element) : Bool := e.is "ul" || e.is "ol"

/-- A listing that has its code inside. -/
def isListing (e : Element) : Bool :=
  e.is "pre" && match e.children with
    | c :: _ => c.is "code"
    | [] => false

end Element

def blockTags : List Text :=
  [ "address", "article", "aside", "blockquote", "details", "div", "dl", "fieldset", "figcaption",
    "figure", "footer", "form", "h1", "h2", "h3", "h4", "h5", "h6", "header", "hgroup", "hr", "main",
    "menu", "nav", "ol", "p", "pre", "section", "table", "ul", "canvas", "colgroup", "dd", "body",
    "dt", "group", "html", "iframe", "li", "legend", "math", "map", "noscript", "output", "object",
    "option", "progress", "script", "style", "summary", "tbody", "td", "textarea", "tfoot", "th",
    "thead", "tr", "video", "center" ].map String.toList

def isBlockTag (tag : Text) : Bool :=
  blockTags.contains (Text.dropEndWhile (· == '/') (tag.map Char.toLower))

/-! ### Marks

Two control characters enclose what stands for something else in a text; texts themselves cannot hold
them. -/

def startMark : Char := Char.ofNat 2
def endMark : Char := Char.ofNat 3

def marked (body : Text) : Text := startMark :: body ++ [endMark]

def rawLabel : Text := "wzxhzdk:".toList
def inlineLabel : Text := "klzzwxh:".toList

/-- What stands for the raw HTML of this number. -/
def rawMark (n : Nat) : Text := marked (rawLabel ++ Text.ofNat n)

/-- What stands for the inline element of this number. -/
def inlineMark (n : Nat) : Text := marked (inlineLabel ++ Text.ofNat n)

/-- What stands for a character that is not markup. -/
def charMark (c : Char) : Text := marked (Text.ofNat c.toNat)

/-- What stands for an ampersand that is not escaped again. -/
def ampersandMark : Text := marked "amp".toList

/-- The number between a label and the end mark at the front of a text, and what follows. -/
def numberBehind? (label t : Text) : Option (Nat × Text) := do
  let r ← Text.after? (startMark :: label) t
  let digits := r.takeWhile Char.isDigit
  let n ← Text.toNat? digits
  let rest ← Text.after? [endMark] (r.drop digits.length)
  some (n, rest)

/-- Replaces the marked numbers for which there is something to put in their place. -/
def replaceMarks (label : Text) (put : Nat → Option Text) : Nat → Text → Text
  | 0, t => t
  | _ + 1, [] => []
  | fuel + 1, c :: r =>
    match numberBehind? label (c :: r) with
    | some (n, rest) =>
      match put n with
      | some t => t ++ replaceMarks label put fuel rest
      | none => c :: replaceMarks label put fuel r
    | none => c :: replaceMarks label put fuel r

/-- Puts the characters back that were marked as no markup. -/
def unmarkChars (t : Text) : Text :=
  replaceMarks [] (fun n => some [Char.ofNat n]) (t.length + 1) t

/-- Raw HTML in the order in which it was met. -/
structure Stash where
  raw : Array Text := #[]
deriving Inhabited

/-- Keeps raw HTML aside and returns what stands for it. -/
def Stash.store (s : Stash) (html : Text) : Text × Stash := (rawMark s.raw.size, ⟨s.raw.push html⟩)

/-- What a reference is defined to be: an address and a title. -/
abbrev References := List (Text × Text × Option Text)

def References.find? (rs : References) (name : Text) : Option (Text × Option Text) :=
  (List.find? (fun r => r.1 = name) rs).map Prod.snd

end Weave.Markdown
