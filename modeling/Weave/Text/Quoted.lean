import Weave.Text
import Weave.Unicode.Printable

/-!
# Quoted texts

The written form of a text or of bytes inside quotation marks: an apostrophe on either side, unless
the text holds an apostrophe and no double quote. Characters that are not printable are escaped.
-/

set_option autoImplicit false

namespace Weave.Text

def quoteMark (t : Text) : Char :=
  if t.contains '\'' && !t.contains '"' then '"' else '\''

/-- The escape of a control character that has a letter of its own. -/
def letterEscape? (c : Char) : Option Text :=
  if c = '\t' then some ['\\', 't']
  else if c = '\n' then some ['\\', 'n']
  else if c = '\r' then some ['\\', 'r']
  else none

def quoteChar (mark c : Char) : Text :=
  if c = mark || c = '\\' then ['\\', c]
  else match letterEscape? c with
    | some e => e
    | none =>
      if Unicode.isPrintable c then [c]
      else if c.toNat < 0x100 then '\\' :: 'x' :: hexDigits 2 c.toNat
      else if c.toNat < 0x10000 then '\\' :: 'u' :: hexDigits 4 c.toNat
      else '\\' :: 'U' :: hexDigits 8 c.toNat

def quote (t : Text) : Text :=
  let mark := quoteMark t
  mark :: t.flatMap (quoteChar mark) ++ [mark]

def quoteByte (mark : Char) (b : UInt8) : Text :=
  let c := Char.ofNat b.toNat
  if c = mark || c = '\\' then ['\\', c]
  else match letterEscape? c with
    | some e => e
    | none =>
      if 0x20 ≤ b && b < 0x7f then [c] else '\\' :: 'x' :: hexDigits 2 b.toNat

/-- Bytes are marked by a `b` and show only the printable characters of ASCII as themselves. -/
def quoteBytes (bs : List UInt8) : Text :=
  let mark := quoteMark (bs.map fun b => Char.ofNat b.toNat)
  'b' :: mark :: bs.flatMap (quoteByte mark) ++ [mark]

end Weave.Text
