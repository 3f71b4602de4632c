import Weave.Markdown.Block
import Weave.Markdown.Inline
import Weave.Markdown.Lines
import Weave.Markdown.RawHtml

/-!
# Markdown as HTML

The HTML of a Markdown text: raw blocks and fenced listings are set aside, the rest is read into a
tree whose elements are written on lines of their own, and what was set aside is put back.
-/

set_option autoImplicit false

namespace Weave.Markdown

/-! ### Line breaks between elements -/

def orNewline (t : Text) : Text := if Text.isBlankText t then ['\n'] else t

mutual

/-- Puts elements that stand on their own on lines of their own. -/
def Element.spread : Element → Element
  | ⟨tag, attributes, text, verbatim, children, tail⟩ =>
    let isCode := tag = "code".toList || tag = "pre".toList
    let inside := isBlockTag tag && !isCode
    let startsWithBlock := match children with
      | c :: _ => isBlockTag c.tag
      | [] => false
    ⟨tag, attributes, if inside && startsWithBlock then orNewline text else text, verbatim,
      if inside then spreadEach children else children, orNewline tail⟩

def spreadEach : List Element → List Element
  | [] => []
  | e :: es => (if isBlockTag e.tag then e.spread else e) :: spreadEach es

end

mutual

/-- A line break is followed by a newline, and a listing ends in exactly one; characters that were
taken out of the markup are put back. -/
def Element.finish : Element → Element
  | ⟨tag, attributes, text, verbatim, children, tail⟩ =>
    let isCode := tag = "code".toList
    let tail := if tag = "br".toList then
        (if Text.isBlankText tail then ['\n'] else '\n' :: tail) else tail
    let children := finishEach children
    let children :=
      if tag = "pre".toList then
        match children with
        | c :: cs =>
          if c.is "code" && c.children.isEmpty && !c.text.isEmpty then
            { c with text := Text.trimEnd c.text ++ ['\n'] } :: cs
          else c :: cs
        | [] => []
      else children
    ⟨tag, attributes.map fun a => (a.1, unmarkChars a.2), if isCode then text else unmarkChars text,
      verbatim, children, unmarkChars tail⟩

def finishEach : List Element → List Element
  | [] => []
  | e :: es => e.finish :: finishEach es

end

/-! ### Raw HTML -/

def isBlockHtml (html : Text) : Bool :=
  match html with
  | '<' :: r =>
    let r := match r with
      | '/' :: r' => r'
      | r => r
    let tag := r.takeWhile fun c => c ≠ ' ' && c ≠ '>'
    match tag with
    | c :: _ => "!?@%".toList.contains c || isBlockTag tag
    | [] => false
  | _ => false

/-- Puts raw HTML back. A block takes the place of the paragraph around its mark. -/
def restore (s : Stash) : Nat → Text → Text
  | 0, t => t
  | _ + 1, [] => []
  | fuel + 1, c :: r =>
    let wrapped := (Text.after? "<p>".toList (c :: r)).bind fun t =>
      (numberBehind? rawLabel t).bind fun (n, rest) =>
        (Text.after? "</p>".toList rest).map fun rest => (n, rest)
    match wrapped.bind fun (n, rest) => (s.raw[n]?).map fun html => (html, rest) with
    | some (html, rest) =>
      let inner := restore s fuel html
      (if isBlockHtml html then inner else "<p>".toList ++ inner ++ "</p>".toList)
        ++ restore s fuel rest
    | none =>
      match (numberBehind? rawLabel (c :: r)).bind fun (n, rest) =>
          (s.raw[n]?).map fun html => (html, rest) with
      | some (html, rest) => restore s fuel html ++ restore s fuel rest
      | none => c :: restore s fuel r

/-- What stands between the tags of the outermost element. -/
def insideOf (html : Text) : Text :=
  let opening := "<div>".toList
  let closing := "</div>".toList
  match Text.cut? opening html, Text.cut? closing.reverse html.reverse with
  | some (_, _), some (_, before) => Text.trim (before.reverse.drop opening.length)
  | _, _ => []

def toHtml (t : Text) : Text :=
  if Text.isBlankText t then []
  else
    let (lines, stash) := stashFences (t.length + 2) (normalizedLines t) {}
    let (source, stash) := RawHtml.extract (Block.joinLines lines) stash
    let (root, references) := Block.tree (Block.linesOf source)
    let (root, s) := (Inline.readElement (16 * source.length + 64) root).run { stash, references }
    let html := insideOf root.spread.finish.write
    let size := html.length + s.stash.raw.foldl (fun n t => n + t.length) 0
    let html := restore s.stash (size + 16) html
    Text.trim (Text.replaceAll ampersandMark ['&'] html)

end Weave.Markdown
