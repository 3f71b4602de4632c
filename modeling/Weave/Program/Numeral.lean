import Weave.Decimal.Written
import Weave.Program.Misreading

/-!
# Numerals

Whole numbers to four bases, floating-point and imaginary numbers. Between two digits there may be an
underscore. A scan counts the characters of a numeral; its fault says how many of them belong to the
complaint.
-/

set_option autoImplicit false

namespace Weave.Program

inductive Numeral where
  | int (n : Nat)
  /-- A whole number with too many decimal digits. -/
  | long (digits : Nat)
  | float (x : Float)
  | imaginary (x : Float)
deriving Inhabited

namespace Numeral

/-- A complaint, and how many characters there are up to where it is made. -/
structure Fault where
  complaint : Complaint
  count : Nat
deriving Repr, Inhabited

def digitValue? (c : Char) : Option Nat :=
  if c.isDigit then some (c.toNat - '0'.toNat)
  else if 'a' ≤ c && c ≤ 'f' then some (c.toNat - 'a'.toNat + 10)
  else if 'A' ≤ c && c ≤ 'F' then some (c.toNat - 'A'.toNat + 10)
  else none

def isDigitOf (base : Nat) (c : Char) : Bool := (digitValue? c).any fun d => d < base

/-- The number with these digits, among which underscores do not count. -/
def valueOf (base : Nat) (ds : Text) : Nat :=
  ds.foldl (fun n c => match digitValue? c with
    | some d => base * n + d
    | none => n) 0

/-- How many characters a run of digits has, with single underscores between them. Behind an
underscore that no digit follows, the run fails. -/
def run (isDigit : Char → Bool) : Text → Except Nat Nat
  | '_' :: c :: r => if isDigit c then (run isDigit (c :: r)).map (· + 1) |>.mapError (· + 1) else .error 1
  | ['_'] => .error 1
  | c :: r => if isDigit c then (run isDigit r).map (· + 1) |>.mapError (· + 1) else .ok 0
  | [] => .ok 0

/-- The words that may follow a numeral without a blank. -/
def followers : List Text :=
  ["and", "else", "for", "if", "in", "is", "or", "not"].map String.toList

def isNamePart (c : Char) : Bool := c.isAlphanum || c = '_'

/-- Fails if what follows a numeral of `n` characters is part of a name. -/
def checkEnd (kind : String) (n : Nat) (t : Text) : Except Fault Unit :=
  if t.head?.any isNamePart && !followers.any fun w => w.isPrefixOf t then .error ⟨.badNumber kind, n⟩
  else .ok ()

def decimals (n : Nat) (t : Text) : Except Fault Nat :=
  (run Char.isDigit (t.drop n)).map (n + ·) |>.mapError fun k => ⟨.badNumber "decimal", n + k⟩

/-- A whole number behind the two characters that give its base. -/
def based (base : Nat) (kind : String) (t : Text) : Except Fault (Numeral × Nat) := do
  let isDigit := isDigitOf base
  let failAt := fun n =>
    match t.drop n with
    | c :: _ => if c.isDigit then Fault.mk (.badDigit c kind) (n + 1) else ⟨.badNumber kind, n⟩
    | [] => ⟨.badNumber kind, n⟩
  let n ← (run isDigit (t.drop 2)).map (2 + ·) |>.mapError fun k => failAt (2 + k)
  if n = 2 || (t.drop n).head?.any Char.isDigit then .error (failAt n)
  else
    checkEnd kind n (t.drop n)
    pure (.int (valueOf base ((t.take n).drop 2)), n)

/-- An exponent behind the first `n` characters, if a digit follows its letter or its sign. -/
def exponent (n : Nat) (t : Text) : Except Fault (Option Nat) :=
  match t.drop n with
  | e :: r =>
    if e = 'e' || e = 'E' then
      match r with
      | s :: r =>
        if s = '+' || s = '-' then
          if r.head?.any Char.isDigit then (decimals (n + 2) t).map some
          else .error ⟨.badNumber "decimal", n + 2⟩
        else if s.isDigit then (decimals (n + 1) t).map some
        else (checkEnd "decimal" n (t.drop n)).map fun _ => none
      | [] => (checkEnd "decimal" n (t.drop n)).map fun _ => none
    else .ok none
  | [] => .ok none

def isImaginaryMark (c : Char) : Bool := c = 'j' || c = 'J'

def floatOf (t : Text) : Float := (Decimal.toFloat? (t.filter (· ≠ '_'))).getD 0.0

/-- What follows the whole part of a decimal number. A whole number of zeros only may begin with one. -/
def decimal (whole : Nat) (t : Text) : Except Fault (Numeral × Nat) := do
  let hasPoint := (t.drop whole).head? = some '.'
  let n ← if !hasPoint then pure whole
    else if (t.drop (whole + 1)).head?.any Char.isDigit then decimals (whole + 1) t
    else pure (whole + 1)
  let e ← exponent n t
  let m := e.getD n
  let digits := t.take m
  if (t.drop m).head?.any isImaginaryMark then
    checkEnd "imaginary" (m + 1) (t.drop (m + 1))
    pure (.imaginary (floatOf digits), m + 1)
  else
    let isWhole := !hasPoint && e.isNone
    let ds := digits.filter (· ≠ '_')
    if isWhole && ds.head? = some '0' && ds.any (· ≠ '0') then
      -- the complaint is about the zeros in front
      .error ⟨.leadingZeros, (t.takeWhile fun c => c = '0' || c = '_').length⟩
    else
      checkEnd "decimal" m (t.drop m)
      pure (if isWhole then
          if ds.length > Value.digitLimit then .long ds.length else .int (valueOf 10 ds)
        else .float (floatOf digits), m)

/-- The numeral at the front of a text that begins with a digit, or with a point and a digit, and how
many characters it has. -/
def take (t : Text) : Except Fault (Numeral × Nat) :=
  match t with
  | '0' :: c :: _ =>
    let c := c.toLower
    if c = 'x' then based 16 "hexadecimal" t
    else if c = 'o' then based 8 "octal" t
    else if c = 'b' then based 2 "binary" t
    else (decimals 0 t).bind fun n => decimal n t
  | _ => (decimals 0 t).bind fun n => decimal n t

end Numeral

end Weave.Program
