import Weave.Markdown.Element

/-!
# Written elements

The HTML of a tree. An ampersand that starts a reference to a character is left alone.
-/

set_option autoImplicit false

namespace Weave.Markdown

/-- Whether what follows an ampersand makes it a reference to a character. -/
def isReference (t : Text) : Bool :=
  let isHex := fun (c : Char) => c.isDigit || ('a' ≤ c.toLower && c.toLower ≤ 'f')
  let closed := fun (test : Char → Bool) (t : Text) =>
    !(t.takeWhile test).isEmpty && (t.dropWhile test).head? = some ';'
  match t with
  | '#' :: 'x' :: r => closed isHex r
  | '#' :: 'X' :: r => closed isHex r
  | '#' :: r => closed Char.isDigit r
  | t => closed Char.isAlphanum t

def writeText : Text → Text
  | [] => []
  | c :: r =>
    (if c = '&' then (if isReference r then ['&'] else "&amp;".toList)
     else if c = '<' then "&lt;".toList
     else if c = '>' then "&gt;".toList
     else [c]) ++ writeText r

def writeAttribute (a : Text × Text) : Text :=
  let value := (writeText a.2).flatMap fun c => if c = '"' then "&quot;".toList else [c]
  ' ' :: a.1 ++ "=\"".toList ++ value ++ ['"']

def isVoid (tag : Text) : Bool :=
  [ "area", "base", "basefont", "br", "col", "frame", "hr", "img", "input", "isindex", "link", "meta",
    "param" ].any fun t => t.toList = tag

def sortAttributes (as : List (Text × Text)) : List (Text × Text) :=
  as.mergeSort fun a b => !(String.ofList b.1 < String.ofList a.1)

mutual

def Element.write : Element → Text
  | ⟨tag, attributes, text, _, children, tail⟩ =>
    let opening := '<' :: tag ++ (sortAttributes attributes).flatMap writeAttribute
    (if isVoid tag then opening ++ " />".toList
     else opening ++ '>' :: writeText text ++ writeEach children ++ "</".toList ++ tag ++ ['>'])
      ++ writeText tail

def writeEach : List Element → Text
  | [] => []
  | e :: es => e.write ++ writeEach es

end

mutual

def Element.plainText : Element → Text
  | ⟨_, _, text, _, children, _⟩ => text ++ plainTextEach children

def plainTextEach : List Element → Text
  | [] => []
  | e :: es => e.plainText ++ e.tail ++ plainTextEach es

end

end Weave.Markdown
