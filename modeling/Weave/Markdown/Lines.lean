import Weave.Markdown.Element
import Weave.Unicode.Alphanumeric

/-!
# Lines of a Markdown text

Line ends, tabs and blank lines are unified, and fenced listings are set aside.
-/

set_option autoImplicit false

namespace Weave.Markdown

/-- Tabs as spaces up to the next multiple of four columns. -/
def expandTabs (column : Nat) : Text → Text
  | [] => []
  | c :: r =>
    if c = '\t' then
      let n := 4 - column % 4
      Text.spaces n ++ expandTabs (column + n) r
    else c :: expandTabs (if c = '\n' then 0 else column + 1) r

/-- The lines of a text, with two empty ones at the end. Lines of spaces are empty, except for the
first one. -/
def normalizedLines (t : Text) : List Text :=
  let t := Text.unifyNewlines (t.filter fun c => c ≠ startMark && c ≠ endMark)
  match Text.splitOn '\n' (expandTabs 0 (t ++ ['\n', '\n'])) with
  | [] => []
  | first :: others => first :: others.map fun l => if l.all (· == ' ') then [] else l

/-! ### Fenced listings -/

def escapeMarkup (t : Text) : Text :=
  t.flatMap fun c =>
    if c = '&' then "&amp;".toList
    else if c = '<' then "&lt;".toList
    else if c = '>' then "&gt;".toList
    else [c]

def escapeMarkupAndQuotes (t : Text) : Text :=
  (escapeMarkup t).flatMap fun c => if c = '"' then "&quot;".toList else [c]

/-- What the opening line of a fence says about the listing. -/
structure FenceInfo where
  fence : Text
  lang : Text := []
  id : Text := []
  classes : List Text := []

/-- The settings in braces behind a fence: words, some of which are a class or an identifier. -/
def fenceSettings (t : Text) : Option (List Text × Text) :=
  let words := (Text.splitOn ' ' t).filter fun w => !w.isEmpty
  if words.any fun w => w.contains '}' then none
  else
    let classes := words.filterMap fun w => match w with
      | '.' :: r => if r.contains '=' then none else some r
      | _ => none
    let ids := words.filterMap fun w => match w with
      | '#' :: r => if r.contains '=' then none else some r
      | 'i' :: 'd' :: '=' :: r => some (r.filter (· ≠ '"'))
      | _ => none
    some (classes, ids.getLast?.getD [])

def isFenceWordChar (c : Char) : Bool :=
  Unicode.isWordChar c || c == '#' || c == '.' || c == '+' || c == '-'

/-- A quoted list of lines to highlight, which has no effect here. -/
def isHighlighting (t : Text) : Bool :=
  match Text.after? "hl_lines=".toList t with
  | some (q :: r) =>
    (q == '"' || q == '\'') && match Text.cut? [q] r with
      | some (_, rest) => rest.all (· == ' ')
      | none => false
  | _ => false

/-- Reads an opening line: a fence, and a language or settings in braces. -/
def fence? (line : Text) : Option FenceInfo :=
  match line with
  | [] => none
  | mark :: _ =>
    let fence := line.takeWhile (· == mark)
    if (mark ≠ '~' && mark ≠ '\x60') || fence.length < 3 then none
    else
      let rest := (line.drop fence.length).dropWhile (· == ' ')
      match rest with
      | '{' :: r =>
        if r.getLast? = some '}' then
          (fenceSettings r.dropLast).map fun (classes, id) =>
            { fence, lang := classes.headD [], id, classes := classes.drop 1 }
        else none
      | rest =>
        let rest := match rest with
          | '.' :: r => r
          | r => r
        let lang := rest.takeWhile isFenceWordChar
        let behind := (rest.drop lang.length).dropWhile (· == ' ')
        if behind.isEmpty || isHighlighting behind then some { fence, lang }
        else if isHighlighting rest then some { fence }
        else none

def listing (info : FenceInfo) (code : List Text) : Text :=
  let setting := fun (name : String) (value : Text) =>
    if value.isEmpty then []
    else ' ' :: name.toList ++ "=\"".toList ++ escapeMarkupAndQuotes value ++ ['"']
  let lang := if info.lang.isEmpty then [] else "language-".toList ++ info.lang
  "<pre".toList ++ setting "id" info.id ++ setting "class" (Text.join [' '] info.classes)
    ++ "><code".toList ++ setting "class" lang ++ ['>']
    ++ escapeMarkupAndQuotes (code.flatMap fun l => l ++ ['\n']) ++ "</code></pre>".toList

/-- The lines in front of the line that closes a fence, and those behind it. -/
def untilFence (fence : Text) : List Text → Option (List Text × List Text)
  | [] => none
  | l :: ls =>
    if (Text.after? fence l).any fun r => r.all (· == ' ') then some ([], ls)
    else (untilFence fence ls).map fun (code, rest) => (l :: code, rest)

def stashFences : Nat → List Text → Stash → List Text × Stash
  | 0, ls, s => (ls, s)
  | _ + 1, [], s => ([], s)
  | fuel + 1, l :: ls, s =>
    match (fence? l).bind fun info => (untilFence info.fence ls).map fun r => (info, r) with
    | some (info, code, rest) =>
      let (mark, s) := s.store (listing info code)
      let (rest, s) := stashFences fuel rest s
      ([] :: mark :: [] :: rest, s)
    | none =>
      let (ls, s) := stashFences fuel ls s
      (l :: ls, s)

end Weave.Markdown
