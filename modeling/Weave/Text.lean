/-!
# Text

A text is its list of characters, so that positions count characters. Here are the blanks, the two
ways to cut a text into lines, and numerals.
-/

set_option autoImplicit false

namespace Weave

abbrev Text := List Char

instance : Coe String Text := ⟨String.toList⟩

/-- Texts are looked up among texts in one way, whatever else is imported. -/
instance : LawfulBEq Text := inferInstanceAs (LawfulBEq (List Char))

namespace Text

/-- The white space characters. The zero width space and the byte order mark are not among them. -/
def isBlank (c : Char) : Bool :=
  let n := c.toNat
  (0x09 ≤ n && n ≤ 0x0d) || (0x1c ≤ n && n ≤ 0x20) || n == 0x85 || n == 0xa0 || n == 0x1680
    || (0x2000 ≤ n && n ≤ 0x200a) || n == 0x2028 || n == 0x2029 || n == 0x202f || n == 0x205f
    || n == 0x3000

def dropEndWhile (p : Char → Bool) (t : Text) : Text :=
  (t.reverse.dropWhile p).reverse

/-- Without the characters at either end that satisfy `p`. -/
def trimWhile (p : Char → Bool) (t : Text) : Text :=
  dropEndWhile p (t.dropWhile p)

def trimStart (t : Text) : Text := t.dropWhile isBlank
def trimEnd (t : Text) : Text := dropEndWhile isBlank t
def trim (t : Text) : Text := trimWhile isBlank t

def trimNewlines (t : Text) : Text := trimWhile (· == '\n') t

def isBlankText (t : Text) : Bool := t.all isBlank

/-- The characters that end a line of prose or of a listing. -/
def isLineEnd (c : Char) : Bool :=
  let n := c.toNat
  (0x0a ≤ n && n ≤ 0x0d) || (0x1c ≤ n && n ≤ 0x1e) || n == 0x85 || n == 0x2028 || n == 0x2029

/-- The characters that end a line of a program. -/
def isProgramLineEnd (c : Char) : Bool := c == '\n' || c == '\r'

/-- A line and the characters that end it; only the last line may have none. -/
structure Line where
  body : Text
  ending : Text
deriving DecidableEq, Repr

/-- A carriage return directly before a line feed ends a line together with it. -/
def cutLines (ends : Char → Bool) : Text → List Line
  | [] => []
  | '\r' :: '\n' :: r => ⟨[], ['\r', '\n']⟩ :: cutLines ends r
  | c :: r =>
    if ends c then ⟨[], [c]⟩ :: cutLines ends r
    else match cutLines ends r with
      | [] => [⟨[c], []⟩]
      | l :: ls => ⟨c :: l.body, l.ending⟩ :: ls

/-- The lines of a text, without what ends them. -/
def lines (t : Text) : List Text := (cutLines isLineEnd t).map Line.body

/-- The lines of a text with what ends them. -/
def linesWithEnds (t : Text) : List Text :=
  (cutLines isLineEnd t).map fun l => l.body ++ l.ending

/-- Every line end, be it `\r\n` or a lone `\r`, as `\n`. -/
def unifyNewlines : Text → Text
  | [] => []
  | '\r' :: '\n' :: r => '\n' :: unifyNewlines r
  | c :: r => (if c = '\r' then '\n' else c) :: unifyNewlines r

def join (separator : Text) (parts : List Text) : Text := List.intercalate separator parts

theorem join_cons_cons (sep t u : Text) (us : List Text) :
    join sep (t :: u :: us) = t ++ (sep ++ join sep (u :: us)) := by
  simp [join, List.intercalate]

theorem join_append {sep : Text} {ts us : List Text} (ht : ts ≠ []) (hu : us ≠ []) :
    join sep (ts ++ us) = join sep ts ++ (sep ++ join sep us) := by
  induction ts with
  | nil => exact absurd rfl ht
  | cons t ts ih =>
    cases ts with
    | nil =>
      obtain ⟨u, us, rfl⟩ := List.exists_cons_of_ne_nil hu
      rw [List.singleton_append, join_cons_cons]
      simp [join, List.intercalate]
    | cons s ts =>
      have hjoin := ih (List.cons_ne_nil s ts)
      rw [List.cons_append] at hjoin
      rw [List.cons_append, List.cons_append, join_cons_cons, join_cons_cons, hjoin]
      simp only [List.append_assoc]

theorem join_ne_nil {sep t : Text} {ts : List Text} (h : t ≠ []) : join sep (t :: ts) ≠ [] := by
  cases ts with
  | nil => simpa [join] using h
  | cons u us =>
    rw [join_cons_cons]
    simp [h]

/-- The parts between the occurrences of a character; one part more than there are occurrences. -/
def splitOn (sep : Char) : Text → List Text
  | [] => [[]]
  | c :: r =>
    if c = sep then [] :: splitOn sep r
    else match splitOn sep r with
      | [] => [[c]]
      | p :: ps => (c :: p) :: ps

def startsWith (t start : Text) : Bool := start.isPrefixOf t

def endsWith (t ending : Text) : Bool := ending.isSuffixOf t

/-- What follows `start`, if the text starts with it. -/
def after? (start : Text) (t : Text) : Option Text :=
  match start, t with
  | [], t => some t
  | _ :: _, [] => none
  | s :: ss, c :: r => if s = c then after? ss r else none

/-- What stands before and after the first occurrence of a text. -/
def cut? (mark : Text) : Text → Option (Text × Text)
  | [] => if mark.isEmpty then some ([], []) else none
  | c :: r =>
    match after? mark (c :: r) with
    | some rest => some ([], rest)
    | none => (cut? mark r).map fun (before, rest) => (c :: before, rest)

def hasPart (t mark : Text) : Bool := (cut? mark t).isSome

/-- Every occurrence of a non-empty text, from the left, replaced. -/
def replaceAll (old new : Text) (t : Text) : Text :=
  go t.length t
where
  go : Nat → Text → Text
    | 0, t => t
    | n + 1, t =>
      match cut? old t with
      | none => t
      | some (before, rest) => if old.isEmpty then t else before ++ new ++ go n rest

def ofNat (n : Nat) : Text := Nat.toDigits 10 n

def ofInt : Int → Text
  | .ofNat n => ofNat n
  | .negSucc n => '-' :: ofNat (n + 1)

def toNat? (t : Text) : Option Nat :=
  if !t.isEmpty && t.all Char.isDigit then
    some (t.foldl (fun n c => 10 * n + (c.toNat - '0'.toNat)) 0)
  else none

/-- Two hexadecimal digits, the higher first. -/
def hexDigits (width n : Nat) : Text :=
  let ds := Nat.toDigits 16 n
  List.replicate (width - ds.length) '0' ++ ds

def spaces (n : Nat) : Text := List.replicate n ' '

def byteCount (t : Text) : Nat := t.foldl (fun n c => n + c.utf8Size) 0

end Text

end Weave
