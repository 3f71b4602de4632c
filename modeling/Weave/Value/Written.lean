import Weave.Value
import Weave.Text.Quoted
import Weave.Decimal.Written

/-!
# Written values

The written form of a value on one line: items between the brackets of their class, texts quoted.
-/

set_option autoImplicit false

namespace Weave.Value

def boolText (b : Bool) : Text := if b then "True".toList else "False".toList

def commaList (parts : List Text) : Text := Text.join ", ".toList parts

/-- Brackets around the items of a tuple; a lone item is followed by a comma. -/
def tupleText : List Text → Text
  | [t] => '(' :: t ++ ",)".toList
  | ts => '(' :: commaList ts ++ ")".toList

def setText (parts : List Text) : Text :=
  if parts.isEmpty then "set()".toList else '{' :: commaList parts ++ ['}']

def frozensetText (parts : List Text) : Text :=
  if parts.isEmpty then "frozenset()".toList
  else "frozenset(".toList ++ setText parts ++ [')']

def partText (x : Float) : Text :=
  let t := Decimal.ofFloat x
  if Text.endsWith t ".0".toList then t.dropLast.dropLast else t

/-- A complex number. Its real part is left out if that is zero and not negative. -/
def complexText (re im : Float) : Text :=
  let imaginary := partText im ++ ['j']
  if re.toBits = 0 then imaginary
  else
    let sign := if imaginary.head? = some '-' then [] else ['+']
    '(' :: partText re ++ sign ++ imaginary ++ [')']

def digitLimit : Nat := 4300

def writtenBound : Nat := Nat.pow 10 digitLimit

mutual

def isWritable : Value → Bool
  | .int n => n.natAbs < writtenBound
  | .list xs => areWritable xs
  | .tuple xs => areWritable xs
  | .set xs => areWritable xs
  | .frozenset xs => areWritable xs
  | .dict es => entriesWritable es
  | _ => true

def areWritable : List Value → Bool
  | [] => true
  | v :: vs => isWritable v && areWritable vs

def entriesWritable : List (Value × Value) → Bool
  | [] => true
  | (k, v) :: es => isWritable k && isWritable v && entriesWritable es

end

mutual

def written : Value → Text
  | .none => "None".toList
  | .bool b => boolText b
  | .int n => Text.ofInt n
  | .float x => Decimal.ofFloat x
  | .complex re im => complexText re im
  | .str t => Text.quote t
  | .bytes bs => Text.quoteBytes bs
  | .list xs => '[' :: commaList (writtenEach xs) ++ [']']
  | .tuple xs => tupleText (writtenEach xs)
  | .set xs => setText (writtenEach xs)
  | .frozenset xs => frozensetText (writtenEach xs)
  | .dict es => '{' :: commaList (writtenEntries es) ++ ['}']
  | .object _ _ shown => shown

def writtenEach : List Value → List Text
  | [] => []
  | v :: vs => written v :: writtenEach vs

def writtenEntries : List (Value × Value) → List Text
  | [] => []
  | (k, v) :: es => (written k ++ ": ".toList ++ written v) :: writtenEntries es

end

/-- The plain text of a value: a text stands for itself, everything else for its written form. -/
def plain : Value → Text
  | .str t => t
  | v => written v

end Weave.Value
