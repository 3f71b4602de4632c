import Weave.Exception
import Weave.Program.Place

/-!
# Misreadings

Why and where a program cannot be read.
-/

set_option autoImplicit false

namespace Weave.Program

/-- Why a program cannot be read. -/
inductive Complaint where
  | unexpected
  | unfinished
  /-- There is nothing to be read. -/
  | missing (what : String)
  | missingComma
  | missingElse
  | missingBlock (header : String) (line : Nat)
  | missingKeyColon
  | missingEntry
  /-- The statement of another time that this word would be. -/
  | missingParentheses (word : Text)
  /-- An equals sign where only a comparison could stand. -/
  | assignmentForComparison
  | assignmentInCall
  | unassignable (what : String) (mayCompare : Bool)
  | undeletable (what : String)
  | unaugmentable (what : String)
  | unexpectedIndent
  | unmatchedIndent
  | mixedIndent
  | unclosed (bracket : Char)
  | unmatched (bracket : Char)
  /-- A bracket that closes another kind of bracket, which is opened on this line. -/
  | mismatched (close opening : Char) (line : Option Nat)
  | unterminated (isLong : Bool) (line : Nat)
  | badNumber (base : String)
  | badDigit (digit : Char) (base : String)
  | leadingZeros
  | tooLongNumber (digits : Nat)
  | badCharacter (c : Char)
  | strayBackslash
  | badEscape (first last : Nat) (reason : String)
  | badByteEscape (position : Nat)
  | nonAsciiBytes
  | mixedTexts
  | starredHere
  | positionalAfterNamed (isUnpacking : Bool)
  | unpackingAfterNamed
  | nakedGenerator
  | unexpectedDedent
  /-- A statement that is not where it could have a meaning. -/
  | misplaced (what : String)
  /-- Something about a name that cannot be declared as it is. -/
  | undeclarable (what : Text)
  | repeatedArgument (name : Text)
  | parameterWithoutDefault
  | trailingComma
  | starredTarget (several : Bool)
  | starredValue
  /-- Something that no field of a text may hold. -/
  | fieldPart (what : String)
  | fieldWithout (terminator : Char)
  /-- What is wrong with a text with fields. -/
  | malformed (what : String)
  | inField (c : Complaint)
deriving DecidableEq, Repr, Inhabited

namespace Complaint

def kind : Complaint → String
  | .missingBlock .. => "IndentationError"
  | .unexpectedIndent => "IndentationError"
  | .unmatchedIndent => "IndentationError"
  | .unexpectedDedent => "IndentationError"
  | .mixedIndent => "TabError"
  | _ => "SyntaxError"

def bracket (c : Char) : Text := ['\'', c, '\'']

def comparisonHint : Text := " here. Maybe you meant '==' instead of '='?".toList

def message : Complaint → Text
  | .unexpected => "invalid syntax".toList
  | .unfinished => "unexpected EOF while parsing".toList
  | .missing what => "expected ".toList ++ what.toList
  | .missingComma => "invalid syntax. Perhaps you forgot a comma?".toList
  | .missingElse => "expected 'else' after 'if' expression".toList
  | .missingBlock header line =>
    "expected an indented block after ".toList ++ header.toList ++ " on line ".toList
      ++ Text.ofNat line
  | .missingKeyColon => "':' expected after dictionary key".toList
  | .missingEntry => "expression expected after dictionary key and ':'".toList
  | .missingParentheses word =>
    "Missing parentheses in call to ".toList ++ Text.quote word ++ ". Did you mean ".toList ++ word
      ++ "(...)?".toList
  | .assignmentForComparison =>
    "invalid syntax. Maybe you meant '==' or ':=' instead of '='?".toList
  | .assignmentInCall =>
    "expression cannot contain assignment, perhaps you meant \"==\"?".toList
  | .unassignable what mayCompare =>
    "cannot assign to ".toList ++ what.toList ++ if mayCompare then comparisonHint else []
  | .undeletable what => "cannot delete ".toList ++ what.toList
  | .unaugmentable what =>
    '\'' :: what.toList ++ "' is an illegal expression for augmented assignment".toList
  | .unexpectedIndent => "unexpected indent".toList
  | .unmatchedIndent => "unindent does not match any outer indentation level".toList
  | .mixedIndent => "inconsistent use of tabs and spaces in indentation".toList
  | .unclosed c => bracket c ++ " was never closed".toList
  | .unmatched c => "unmatched ".toList ++ bracket c
  | .mismatched c o line =>
    "closing parenthesis ".toList ++ bracket c ++ " does not match opening parenthesis ".toList
      ++ bracket o ++ match line with
        | some n => " on line ".toList ++ Text.ofNat n
        | none => []
  | .unterminated isLong line =>
    "unterminated ".toList ++ (if isLong then "triple-quoted ".toList else [])
      ++ "string literal (detected at line ".toList ++ Text.ofNat line ++ [')']
  | .badNumber base => "invalid ".toList ++ base.toList ++ " literal".toList
  | .badDigit d base =>
    "invalid digit ".toList ++ bracket d ++ " in ".toList ++ base.toList ++ " literal".toList
  | .leadingZeros =>
    "leading zeros in decimal integer literals are not permitted; use an 0o ".toList
      ++ "prefix for octal integers".toList
  | .tooLongNumber digits =>
    (Exception.tooLongNumeral digits).message ++ " - Consider hexadecimal for huge integer ".toList
      ++ "literals to avoid decimal conversion limits.".toList
  | .badCharacter c =>
    let ds := Text.hexDigits 4 c.toNat |>.map Char.toUpper
    if Unicode.isPrintable c then
      "invalid character ".toList ++ bracket c ++ " (U+".toList ++ ds ++ [')']
    else "invalid non-printable character U+".toList ++ ds
  | .strayBackslash => "unexpected character after line continuation character".toList
  | .badEscape first last reason =>
    "(unicode error) 'unicodeescape' codec can't decode bytes in position ".toList
      ++ Text.ofNat first ++ '-' :: Text.ofNat last ++ ": ".toList ++ reason.toList
  | .badByteEscape position =>
    "(value error) invalid \\x escape at position ".toList ++ Text.ofNat position
  | .nonAsciiBytes => "bytes can only contain ASCII literal characters".toList
  | .mixedTexts => "cannot mix bytes and nonbytes literals".toList
  | .starredHere => "cannot use starred expression here".toList
  | .positionalAfterNamed isUnpacking =>
    "positional argument follows keyword argument".toList
      ++ if isUnpacking then " unpacking".toList else []
  | .unpackingAfterNamed =>
    "iterable argument unpacking follows keyword argument unpacking".toList
  | .nakedGenerator => "Generator expression must be parenthesized".toList
  | .unexpectedDedent => "unexpected unindent".toList
  | .misplaced what => what.toList
  | .undeclarable what => what
  | .repeatedArgument name => "keyword argument repeated: ".toList ++ name
  | .parameterWithoutDefault => "non-default argument follows default argument".toList
  | .trailingComma => "trailing comma not allowed without surrounding parentheses".toList
  | .starredTarget several =>
    if several then "multiple starred expressions in assignment".toList
    else "starred assignment target must be in a list or tuple".toList
  | .starredValue => "can't use starred expression here".toList
  | .fieldPart what => "f-string expression part cannot include ".toList ++ what.toList
  | .fieldWithout c => "expression required before ".toList ++ bracket c
  | .malformed what => what.toList
  | .inField c => "f-string: ".toList ++ c.message

end Complaint

/-- Where a program cannot be read: lines and columns from one on, and the line. A column that is not
known is zero or less. -/
structure Place where
  line : Nat
  column : Int
  endLine : Nat
  endColumn : Int
  source : Option Text
deriving DecidableEq, Repr, Inhabited

structure Misreading where
  complaint : Complaint
  place : Place
deriving DecidableEq, Repr, Inhabited

namespace Place

def lineOf (t : Text) (n : Nat) : Text :=
  match ((Text.cutLines Text.isProgramLineEnd t)[n - 1]?) with
  | some l => l.body ++ l.ending
  | none => []

def ofSpan (t : Text) (s : Span) : Place :=
  ⟨s.start.line, s.start.column + 1, s.stop.line, s.stop.column + 1, some (lineOf t s.start.line)⟩

/-- A span of a program whose text is no longer at hand. -/
def ofBareSpan (s : Span) : Place :=
  ⟨s.start.line, s.start.column + 1, s.stop.line, s.stop.column + 1, none⟩

/-- A place in a line that is shown without its line end. -/
def withoutEnd (p : Place) : Place := { p with source := p.source.map (Text.dropEndWhile (· = '\n')) }

/-- The character in front of a spot, in a line that is shown without its line end. -/
def behind (t : Text) (p : Spot) : Place :=
  ⟨p.line, p.column, p.line, p.column, some (Text.dropEndWhile (· = '\n') (lineOf t p.line))⟩

/-- Nowhere, as there is nothing. -/
def nowhere : Place := ⟨0, 0, 0, 0, some []⟩

end Place

namespace Misreading

/-- A cause of its own, not only that there is no way to go on. -/
def isOwn (m : Misreading) : Bool := m.complaint ≠ .unexpected

def nothing : Misreading := ⟨.unexpected, .nowhere⟩

/-- Whether only the line is known of the place, and the exception does not hold it. -/
def isBare (f : Misreading) : Bool :=
  match f.complaint with
  | .undeclarable _ => true
  | _ => false

def exception (name : Text) (f : Misreading) : Exception :=
  let p := f.place
  let place := Value.tuple [.str name, .int p.line, .int p.column, (p.source.map Value.str).getD .none,
    .int p.endLine, .int p.endColumn]
  ⟨f.complaint.kind.toList, .str f.complaint.message :: if f.isBare then [] else [place]⟩

end Misreading

end Weave.Program
