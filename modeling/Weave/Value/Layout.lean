import Weave.Value.Sorted
import Weave.Value.Written

/-!
# Laid-out values

A value that does not fit into what is left of a line is broken after every item of its outermost
brackets, items being aligned behind the bracket; long texts and bytes are broken into adjacent
pieces. Entries of dictionaries and items of sets are shown in the order of their keys.
-/

set_option autoImplicit false

namespace Weave.Value

mutual

/-- The value with the entries of all dictionaries and the items of all sets in order. -/
def arranged : Value → Value
  | .list xs => .list (arrangedEach xs)
  | .tuple xs => .tuple (arrangedEach xs)
  | .set xs => .set (Sorted.sort precedes (arrangedEach xs))
  | .frozenset xs => .frozenset (Sorted.sort precedes (arrangedEach xs))
  | .dict es => .dict (Sorted.sort (fun e f => precedes e.1 f.1) (arrangedEntries es))
  | v => v

def arrangedEach : List Value → List Value
  | [] => []
  | v :: vs => arranged v :: arrangedEach vs

def arrangedEntries : List (Value × Value) → List (Value × Value)
  | [] => []
  | (k, v) :: es => (arranged k, arranged v) :: arrangedEntries es

end

/-- Where a value starts in its line, and how many characters must still fit behind it. -/
structure Margins where
  width : Nat
  indent : Nat
  reserve : Nat
deriving DecidableEq, Repr

def Margins.room (m : Margins) : Int := (m.width : Int) - m.indent - m.reserve

/-- The words of a line, each with the blanks that follow it. -/
def words : Text → List Text
  | [] => []
  | c :: r =>
    match words r with
    | [] => [[c]]
    | w :: ws =>
      -- a word goes on unless a blank meets a character that is none
      match w with
      | d :: _ => if Text.isBlank c && !Text.isBlank d then [c] :: w :: ws else (c :: w) :: ws
      | [] => [c] :: ws

/-- Packs pieces greedily; `limit` says how long the written form may be after a given piece. -/
def pack (quoted : List Char → Text) (limit : Bool → Int) : List Char → List (List Char) → List Text
  | current, [] => if current.isEmpty then [] else [quoted current]
  | current, p :: ps =>
    let candidate := current ++ p
    if ((quoted candidate).length : Int) > limit ps.isEmpty then
      if current.isEmpty then pack quoted limit p ps
      else quoted current :: pack quoted limit p ps
    else pack quoted limit candidate ps

/-- The pieces of one line of a long text. -/
def linePieces (room reserve : Int) (lastLine : Bool) (line : Text) : List Text :=
  let limit := fun last : Bool => if last && lastLine then room - reserve else room
  let rep := Text.quote line
  if (rep.length : Int) ≤ (if lastLine then room - reserve else room) then [rep]
  else pack Text.quote limit [] (words line)

def textPieces (room reserve : Int) : List Text → List Text
  | [] => []
  | [l] => linePieces room reserve true l
  | l :: ls => linePieces room reserve false l ++ textPieces room reserve ls

def groupsOfFour : List UInt8 → List (List UInt8)
  | a :: b :: c :: d :: r => [a, b, c, d] :: groupsOfFour r
  | [] => []
  | bs => [bs]

/-- Packs bytes in groups of four. The room for the closing bracket is kept free only behind a last
group that is not full. -/
def bytePieces (room reserve : Int) : List UInt8 → List (List UInt8) → List Text
  | current, [] => if current.isEmpty then [] else [Text.quoteBytes current]
  | current, g :: gs =>
    let candidate := current ++ g
    let limit := if g.length < 4 then room - reserve else room
    if ((Text.quoteBytes candidate).length : Int) > limit then
      if current.isEmpty then bytePieces limit reserve g gs
      else Text.quoteBytes current :: bytePieces limit reserve g gs
    else bytePieces limit reserve candidate gs

def newline (indent : Nat) : Text := '\n' :: Text.spaces indent

/-- A long text, in brackets when nothing encloses it. -/
def layoutText (m : Margins) (outermost : Bool) (t : Text) : Text :=
  if t.isEmpty then Text.quote t
  else
    let extra := if outermost then 1 else 0
    let room := (m.width : Int) - (m.indent + extra : Nat)
    match textPieces room (m.reserve + extra : Nat) (Text.linesWithEnds t) with
    | [piece] => piece
    | pieces =>
      let body := Text.join (newline (m.indent + extra)) pieces
      if outermost then '(' :: body ++ [')'] else body

def layoutBytes (m : Margins) (outermost : Bool) (bs : List UInt8) : Text :=
  if bs.length ≤ 4 then Text.quoteBytes bs
  else
    let extra := if outermost then 1 else 0
    let room := (m.width : Int) - (m.indent + extra : Nat)
    let body := Text.join (newline (m.indent + extra))
      (bytePieces room (m.reserve + extra : Nat) [] (groupsOfFour bs))
    if outermost then '(' :: body ++ [')'] else body

mutual

/-- The value on one line if that fits, else broken inside its brackets. -/
def layoutIn (width indent reserve : Nat) (outermost : Bool) (v : Value) : Text :=
  let line := written v
  let m : Margins := ⟨width, indent, reserve⟩
  if (line.length : Int) ≤ m.room then line
  else match v with
    | .str t => layoutText m outermost t
    | .bytes bs => layoutBytes m outermost bs
    | .list xs => '[' :: layoutItems width (indent + 1) (reserve + 1) xs ++ [']']
    | .tuple xs =>
      let close : Text := match xs with
        | [_] => ",)".toList
        | _ => ")".toList
      '(' :: layoutItems width (indent + 1) (reserve + close.length) xs ++ close
    | .set xs => if xs.isEmpty then line else
      '{' :: layoutItems width (indent + 1) (reserve + 1) xs ++ ['}']
    | .frozenset xs => if xs.isEmpty then line else
      "frozenset(\x7b".toList ++ layoutItems width (indent + 11) (reserve + 2) xs ++ "\x7d)".toList
    | .dict es => '{' :: layoutEntries width (indent + 1) (reserve + 1) es ++ ['}']
    | _ => line

def layoutItems (width indent reserve : Nat) : List Value → Text
  | [] => []
  | [v] => layoutIn width indent reserve false v
  | v :: vs =>
    layoutIn width indent 1 false v ++ ',' :: newline indent ++ layoutItems width indent reserve vs

def layoutEntries (width indent reserve : Nat) : List (Value × Value) → Text
  | [] => []
  | [(k, v)] =>
    let key := written k
    key ++ ": ".toList ++ layoutIn width (indent + key.length + 2) reserve false v
  | (k, v) :: es =>
    let key := written k
    key ++ ": ".toList ++ layoutIn width (indent + key.length + 2) 1 false v
      ++ ',' :: newline indent ++ layoutEntries width indent reserve es

end

def shownWidth : Nat := 78

def layout (v : Value) : Text := layoutIn shownWidth 0 0 true (arranged v)

end Weave.Value
