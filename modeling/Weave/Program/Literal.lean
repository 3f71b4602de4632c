import Weave.Program.Misreading
import Weave.Unicode.Names

/-!
# Text literals

Texts and bytes between quotes, with letters in front that say how to read what is inside.
-/

set_option autoImplicit false

namespace Weave.Program

/-- How the inside of a literal is read. -/
structure Manner where
  /-- Backslashes stand for themselves. -/
  raw : Bool := false
  bytes : Bool := false
  /-- There are fields inside. -/
  template : Bool := false
deriving DecidableEq, Repr, Inhabited

namespace Manner

/-- The manner that letters in front of the quotes ask for. -/
def ofLetters? (letters : Text) : Option Manner :=
  let ls := letters.map Char.toLower
  if ls = [] || ls = ['u'] then some {}
  else if ls = ['r'] then some { raw := true }
  else if ls = ['b'] then some { bytes := true }
  else if ls = ['f'] then some { template := true }
  else if ls = ['b', 'r'] || ls = ['r', 'b'] then some { raw := true, bytes := true }
  else if ls = ['f', 'r'] || ls = ['r', 'f'] then some { raw := true, template := true }
  else none

end Manner

namespace Literal

/-! ### Quotes -/

/-- A literal at the front of a text. -/
structure Cut where
  manner : Manner
  inside : Text
  /-- How many characters stand in front of the inside, and how many in all. -/
  offset : Nat
  size : Nat
deriving Inhabited

/-- What stands in front of the closing quotes. Within a pair of single quotes there is no line end
without a backslash. -/
def inside? (quote : Text) : Text → Option Text
  | [] => none
  | '\\' :: c :: r => (inside? quote r).map fun t => '\\' :: c :: t
  | c :: r =>
    if quote.isPrefixOf (c :: r) then some []
    else if c = '\n' && quote.length = 1 then none
    else (inside? quote r).map fun t => c :: t

/-- What an unclosed literal takes up: the rest of the line, or everything. -/
def unclosed (quote : Text) : Text → Text
  | [] => []
  | '\\' :: c :: r => '\\' :: c :: unclosed quote r
  | c :: r => if c = '\n' && quote.length = 1 then [] else c :: unclosed quote r

/-- The literal at the front, if a text begins with one; the fault is what there is of it. -/
def take? (t : Text) : Option (Except (Bool × Text) Cut) :=
  let letters := t.takeWhile Char.isAlpha
  match Manner.ofLetters? letters, t.drop letters.length with
  | some manner, q :: r =>
    if q = '\'' || q = '"' then
      let quote := if [q, q].isPrefixOf r then [q, q, q] else [q]
      let offset := letters.length + quote.length
      some (match inside? quote (t.drop offset) with
        | some inside => .ok ⟨manner, inside, offset, offset + inside.length + quote.length⟩
        | none => .error (quote.length = 3, t.take offset ++ unclosed quote (t.drop offset)))
    else none
  | _, _ => none

/-! ### Escapes -/

def isOctal (c : Char) : Bool := '0' ≤ c && c ≤ '7'

def isHex (c : Char) : Bool := c.isDigit || ('a' ≤ c.toLower && c.toLower ≤ 'f')

def hexValue (ds : Text) : Nat :=
  ds.foldl (fun n c =>
    16 * n + (if c.isDigit then c.toNat - '0'.toNat else c.toLower.toNat - 'a'.toNat + 10)) 0

def octalValue (ds : Text) : Nat := ds.foldl (fun n c => 8 * n + (c.toNat - '0'.toNat)) 0

def controlEscapes : List (Char × Nat) :=
  [('a', 7), ('b', 8), ('f', 12), ('n', 10), ('r', 13), ('t', 9), ('v', 11)]

/-- How many hexadecimal digits follow a letter behind a backslash. -/
def hexLength? (isText : Bool) (c : Char) : Option Nat :=
  if c = 'x' then some 2
  else if isText && c = 'u' then some 4
  else if isText && c = 'U' then some 8
  else none

def truncatedReason (c : Char) : String :=
  if c = 'x' then "truncated \\xXX escape"
  else if c = 'u' then "truncated \\uXXXX escape"
  else "truncated \\UXXXXXXXX escape"

/-- An escape at the front: the character it stands for, or none for a line end, and how many characters
it takes up. The text begins behind the backslash. -/
def escape? (isText : Bool) (at_ : Nat) (t : Text) : Except Complaint (Option (Option Char × Nat)) :=
  let some_ := fun (c : Char) (n : Nat) => Except.ok (some (some c, n))
  match t with
  | [] => .ok none
  | c :: r =>
    if c = '\n' then .ok (some (none, 1))
    else if c = '\\' || c = '\'' || c = '"' then some_ c 1
    else match controlEscapes.find? fun e => e.1 = c with
      | some (_, n) => some_ (Char.ofNat n) 1
      | none =>
        if isOctal c then
          let ds := (t.take 3).takeWhile isOctal
          some_ (Char.ofNat (octalValue ds)) ds.length
        else if isText && c = 'N' then named r
        else match hexLength? isText c with
          | none => .ok none
          | some k =>
            let ds := (r.take k).takeWhile isHex
            if ds.length < k then
              .error (if isText then .badEscape at_ (at_ + 1 + ds.length) (truncatedReason c)
                else .badByteEscape at_)
            else if hexValue ds > 0x10ffff then
              .error (.badEscape at_ (at_ + 9) "illegal Unicode character")
            else some_ (Char.ofNat (hexValue ds)) (k + 1)
where
  /-- A character by its name between braces. -/
  named (r : Text) : Except Complaint (Option (Option Char × Nat)) :=
    let malformed := fun n => Except.error (.badEscape at_ (at_ + n) "malformed \\N character escape")
    match r with
    | '{' :: r =>
      let name := r.takeWhile (· ≠ '}')
      if name.length = r.length then malformed (2 + name.length)
      else if name.isEmpty then malformed 2
      else match Unicode.characterNamed? name with
        | some c => .ok (some (some c, name.length + 3))
        | none => .error (.badEscape at_ (at_ + name.length + 3) "unknown Unicode character name")
    | _ => malformed 1

/-- How far a character moves the place that complaints about escapes give. -/
def weight (c : Char) : Nat := if c.toNat < 0x80 then 1 else 10

/-- Resolves the escapes inside a literal. -/
def unescape (isText : Bool) : Nat → Nat → Text → Except Complaint Text
  | 0, _, _ => .ok []
  | _, _, [] => .ok []
  | fuel + 1, at_, '\\' :: r => do
    match ← escape? isText at_ r with
    | some (c, n) =>
      let rest ← unescape isText fuel (at_ + n + 1) (r.drop n)
      pure (c.toList ++ rest)
    | none =>
      let rest ← unescape isText fuel (at_ + 1) r
      pure ('\\' :: rest)
  | fuel + 1, at_, c :: r => (unescape isText fuel (at_ + weight c) r).map (c :: ·)

def text (raw : Bool) (inside : Text) : Except Complaint Text :=
  if raw then .ok inside else unescape true inside.length 0 inside

def bytes (raw : Bool) (inside : Text) : Except Complaint (List UInt8) :=
  if inside.any fun c => c.toNat ≥ 0x80 then .error .nonAsciiBytes
  else
    let resolved := if raw then .ok inside else unescape false inside.length 0 inside
    resolved.map fun t => t.map fun c => UInt8.ofNat c.toNat

end Literal

end Weave.Program
