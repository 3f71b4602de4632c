import Weave.Action
import Weave.Program.Field
import Weave.Program.Lexeme

/-!
# Reading expressions

Expressions are read from lexemes. A reader fails at the first lexeme it cannot go on with, or says what
else is wrong. The number that every reader takes bounds how deep it may go; each level of nesting costs
a fixed number of steps and at least one lexeme, so that a bound from the number of lexemes suffices.
-/

set_option autoImplicit false

namespace Weave.Program

/-- The lexemes ahead, of which the last one is the end. -/
structure Ahead where
  /-- The text that complaints show lines of. -/
  text : Text
  lexemes : List Lexeme
  /-- The lexeme passed last. -/
  latest : Lexeme := default
  /-- A lexeme further ahead that had to be looked at. -/
  beyond : Option Lexeme := none
  /-- Only what cannot be read at all is complained about, not what only makes no sense. -/
  quiet : Bool := false

abbrev Grammar (α : Type) := Action Ahead Misreading α

namespace Grammar

variable {α : Type}

def peek (a : Ahead) : Lexeme := a.lexemes.head?.getD default

def here : Grammar Lexeme := fun a => (.ok (peek a), a)

/-- The lexeme behind the next one. -/
def second : Grammar Lexeme := fun a => (.ok ((a.lexemes.drop 1).head?.getD default), a)

def latest : Grammar Lexeme := fun a => (.ok a.latest, a)

/-! ### Complaints -/

def placeOf (t : Text) (l : Lexeme) : Place :=
  if l.placed then .ofSpan t l.span
  else ⟨l.span.start.line, 0, l.span.start.line, 0, some (Place.lineOf t l.span.start.line)⟩

/-- Where reading has come to when it comes to a lexeme. -/
def placeAt (t : Text) (l : Lexeme) : Place :=
  if l.placed then .ofSpan t l.span
  else ⟨l.span.start.line, l.span.start.column, l.span.start.line, -1,
    some (Place.lineOf t l.span.start.line)⟩

def obstacle (a : Ahead) : Misreading :=
  let l := a.beyond.getD (peek a)
  match l.kind with
  | .barrier why => why
  | .indent => ⟨.unexpectedIndent, placeAt a.text l⟩
  | .dedent => ⟨.unexpectedDedent, placeAt a.text l⟩
  | _ => ⟨.unexpected, placeOf a.text l⟩

def fail : Grammar α := fun a => (.error (obstacle a), a)

/-- Complains about a piece of the source. Of a line behind which reading has come, the end is not
shown. -/
def blame (s : Span) (c : Complaint) : Grammar α := fun a =>
  let p := Place.ofSpan a.text s
  (.error ⟨c, if s.start.line < (peek a).span.start.line then p.withoutEnd else p⟩, a)

def blameHere (c : Complaint) : Grammar α := fun a => (.error ⟨c, placeAt a.text (peek a)⟩, a)

def unlessQuiet (g : Grammar Unit) : Grammar Unit := fun a => if a.quiet then (.ok (), a) else g a

/-- Fails with a complaint, if complaints are wanted. -/
def orFail (g : Grammar α) : Grammar α := fun a => if a.quiet then fail a else g a

/-- What would be read, and the lexemes at its end and behind it, without reading on. The reading ends if
what is ahead has a fault of its own. -/
def foresee? (g : Grammar α) : Grammar (Option (α × Lexeme × Lexeme)) := fun a =>
  match g a with
  | (.ok x, b) =>
    match (peek b).kind with
    | .barrier why => (.error why, a)
    | _ => (.ok (some (x, b.latest, peek b)), a)
  | (.error m, _) => if m.isOwn then (.error m, a) else (.ok none, a)

def quietly (g : Grammar α) : Grammar α := fun a =>
  let (r, b) := g { a with quiet := true }
  (r, { b with quiet := a.quiet })

/-! ### Lexemes -/

def skip : Grammar Unit := fun a =>
  (.ok (), { a with lexemes := a.lexemes.drop 1, latest := peek a, beyond := none })

/-- From a spot to where the latest lexeme ended. -/
def spanFrom (start : Spot) : Grammar Span := fun a => (.ok ⟨start, a.latest.span.stop⟩, a)

def isMark (m : String) (l : Lexeme) : Bool :=
  match l.kind with
  | .mark t => t = m.toList
  | _ => false

def isWord (w : String) (l : Lexeme) : Bool :=
  match l.kind with
  | .word t => t = w.toList
  | _ => false

def isName (l : Lexeme) : Bool :=
  match l.kind with
  | .name _ => true
  | _ => false

def isQuoted (l : Lexeme) : Bool :=
  match l.kind with
  | .quoted .. => true
  | _ => false

def isLineEnd (l : Lexeme) : Bool :=
  match l.kind with
  | .lineEnd => true
  | _ => false

def isIndent (l : Lexeme) : Bool :=
  match l.kind with
  | .indent => true
  | _ => false

def isDedent (l : Lexeme) : Bool :=
  match l.kind with
  | .dedent => true
  | _ => false

def isFinish (l : Lexeme) : Bool :=
  match l.kind with
  | .finish => true
  | _ => false

def skipIf (p : Lexeme → Bool) : Grammar Bool := do
  if p (← here) then
    skip
    pure true
  else pure false

def expect (p : Lexeme → Bool) : Grammar Unit := do
  if ← skipIf p then pure () else fail

def mark (m : String) : Grammar Unit := expect (isMark m)

def word (w : String) : Grammar Unit := expect (isWord w)

def identifier : Grammar Text := do
  match (← here).kind with
  | .name t =>
    skip
    pure t
  | _ => fail

def dotted : Nat → Grammar Text
  | 0 => fail
  | fuel + 1 => do
    let n ← identifier
    if ← skipIf (isMark ".") then
      let rest ← dotted fuel
      pure (n ++ '.' :: rest)
    else pure n

def startsOperand (l : Lexeme) : Bool :=
  isName l || isQuoted l || isMark "\x7b" l || isMark "~" l || isMark "..." l
    || ["not", "lambda", "None", "True", "False"].any (fun w => isWord w l)
    || match l.kind with
      | .number _ => true
      | _ => false

def startsItem (l : Lexeme) : Bool :=
  startsOperand l || ["(", "[", "-", "+", "*"].any fun m => isMark m l

/-! ### Operators -/

/-- The binary operators from the loosest to the tightest. -/
def levels : List (List (String × BinaryOp)) :=
  [ [("|", .bitOr)], [("^", .bitXor)], [("&", .bitAnd)],
    [("<<", .shiftLeft), (">>", .shiftRight)],
    [("+", .add), ("-", .subtract)],
    [("*", .multiply), ("//", .floorDivide), ("/", .divide), ("%", .modulo),
      ("@", .matrixMultiply)] ]

def operatorOf (table : List (String × BinaryOp)) (l : Lexeme) : Option BinaryOp :=
  (table.find? fun e => isMark e.1 l).map Prod.snd

def comparisonMarks : List (String × Comparison) :=
  [ ("==", .equal), ("!=", .unequal), ("<=", .lessEqual), (">=", .greaterEqual), ("<", .less),
    (">", .greater) ]

def comparison? : Grammar (Option Comparison) := do
  let l ← here
  match comparisonMarks.find? fun e => isMark e.1 l with
  | some (_, c) =>
    skip
    pure (some c)
  | none =>
    if isWord "in" l then
      skip
      pure (some .within)
    else if isWord "is" l then
      skip
      if ← skipIf (isWord "not") then pure (some .different) else pure (some .same)
    else if isWord "not" l then
      let next ← second
      if isWord "in" next then
        skip
        skip
        pure (some .without)
      else fun a => (.ok none, { a with beyond := some next })
    else pure none

def unaryMarks : List (String × UnaryOp) := [("-", .minus), ("+", .plus), ("~", .invert)]

/-! ### Literals -/

def wordValue? (t : Text) : Option Value :=
  if t = "None".toList then some .none
  else if t = "True".toList then some (.bool true)
  else if t = "False".toList then some (.bool false)
  else none

def numberValue (l : Lexeme) : Numeral → Grammar Value
  | .int n => pure (.int n)
  | .float x => pure (.float x)
  | .imaginary x => pure (.complex 0.0 x)
  | .long digits => fun a =>
    let p := placeOf a.text { l with placed := false }
    (.error ⟨.tooLongNumber digits, p⟩, a)

def adjoin : Value → Value → Value
  | .str s, .str t => .str (s ++ t)
  | .bytes a, .bytes b => .bytes (a ++ b)
  | v, _ => v

def addPart (parts : List Expr) (e : Expr) : List Expr :=
  match parts.getLast?, e with
  | some (.literal s v), .literal _ w => parts.dropLast ++ [.literal s (adjoin v w)]
  | _, e => parts ++ [e]

/-- Complains at the lexeme that comes next, unless there is nothing to complain about. -/
def orBlameHere : Except Complaint α → Grammar α
  | .ok x => pure x
  | .error c => blameHere c

/-- What a lexeme holds that is a literal between quotes. -/
structure Quoted where
  manner : Manner
  inside : Text
  offset : Nat
  lexeme : Lexeme

/-- The adjoining literals that come next. -/
def adjoining : Nat → Grammar (List Quoted)
  | 0 => pure []
  | fuel + 1 => do
    let l ← here
    match l.kind with
    | .quoted manner inside offset =>
      skip
      let rest ← adjoining fuel
      pure (⟨manner, inside, offset, l⟩ :: rest)
    | _ => pure []

/-- A complaint about a field, which shows the field between parentheses. -/
def inField (l : Lexeme) (m : Misreading) : Misreading :=
  let p := m.place
  let down := l.span.start.line - 1
  ⟨.inField m.complaint, { p with line := p.line + down, endLine := p.endLine + down }⟩

/-- Reads a field with its braces as parentheses. It is read on its own, where the complaints belong, and
then in its place. -/
def readField (read : Grammar Expr) (q : Quoted) (source : Text) (brace : Nat) : Grammar Expr :=
  let text := '(' :: source ++ ")\n".toList
  let start := q.lexeme.span.start
  match scan text with
  | (_, some m) => fun a =>
    (.error { m with place := (inField q.lexeme m).place }, a)
  | (ls, none) => fun a =>
    match read { text, lexemes := ls } with
    | (.error m, _) => (.error (inField q.lexeme m), a)
    | (.ok _, _) =>
      let moved := ls.map fun m => { m with span := m.span.within start (q.offset + brace) }
      match read { text, lexemes := moved } with
      | (.ok e, _) => (.ok e, a)
      | (.error m, _) => (.error m, a)

mutual

/-- The parts of a text that its pieces stand for. A field stands where the whole text does. -/
def templateParts (read : Grammar Expr) (s : Span) (q : Quoted) : List Piece → Grammar (List Expr)
  | [] => pure []
  | p :: ps => do
    let es ← templatePart read s q p
    let rest ← templateParts read s q ps
    pure (es ++ rest)

def templatePart (read : Grammar Expr) (s : Span) (q : Quoted) : Piece → Grammar (List Expr)
  | .text t => do
    let t ← orBlameHere (Literal.text q.manner.raw t)
    pure [.literal q.lexeme.span (.str t)]
  | .field source brace shown c format => do
    let e ← readField read q source brace
    let format ← templateParts read s q format
    let field := Expr.field s e c format
    pure (if shown.isEmpty then [field] else [.literal q.lexeme.span (.str shown), field])

end

/-- The parts of one of the literals that stand at a piece of the source. -/
def quotedParts (read : Grammar Expr) (whole : Span) (q : Quoted) : Grammar (List Expr) := do
  let s := q.lexeme.span
  if q.manner.bytes then
    match Literal.bytes q.manner.raw q.inside with
    | .ok bs => pure [.literal s (.bytes bs)]
    | .error .nonAsciiBytes => blame s .nonAsciiBytes
    | .error c => blameHere c
  else if q.manner.template then
    let cut := Piece.ofInside q.manner.raw q.inside
    let es ← templateParts read whole q cut.pieces
    match cut.fault with
    | some c => blameHere c
    | none => pure (.template s [] :: es)
  else
    let t ← orBlameHere (Literal.text q.manner.raw q.inside)
    pure [.literal s (.str t)]

/-- Adjoining literals as one expression. All of them are bytes, or none is. -/
def joined (read : Grammar Expr) (s : Span) : Bool → List Expr → List Quoted → Grammar Expr
  | _, parts, [] =>
    match parts with
    | [.literal _ v] => pure (.literal s v)
    | parts => pure (.template s parts)
  | bytes, parts, q :: qs => do
    let new ← quotedParts read s q
    if q.manner.bytes ≠ bytes then blameHere .mixedTexts
    else joined read s bytes (new.foldl addPart parts) qs

def texts (fuel : Nat) (read : Grammar Expr) : Grammar Expr := do
  let start := (← here).span.start
  let qs ← adjoining fuel
  let s ← spanFrom start
  joined read s (qs.head?.any fun q => q.manner.bytes) [] qs

/-! ### Common complaints -/

/-- The words that once began statements and are functions now. -/
def isLegacy : Expr → Bool
  | .name _ n => n = "print".toList || n = "exec".toList
  | _ => false

/-- Names that may begin statements of their own. -/
def isSoft (l : Lexeme) : Bool :=
  match l.kind with
  | .name t => ["_", "case", "match"].any fun w => w.toList = t
  | _ => false

/-- Complains about a missing comma if another expression follows within brackets. -/
def checkComma (read : Grammar Expr) (e : Expr) : Grammar Unit := unlessQuiet do
  if startsOperand (← here) then
    match ← foresee? (quietly read) with
    | some (r, l, _) =>
      if l.depth ≠ 0 && !isLegacy e then blame ⟨e.span.start, r.span.stop⟩ .missingComma else pure ()
    | none => pure ()
  else pure ()

/-- Complains about missing parentheses if a word of old is followed by expressions. -/
def checkLegacy (read : Grammar Expr) (e : Expr) : Grammar Unit := unlessQuiet do
  match e with
  | .name s n =>
    if isLegacy e && startsOperand (← here) then
      match ← foresee? read with
      | some (r, _) => blame ⟨s.start, r.span.stop⟩ (.missingParentheses n)
      | none => pure ()
    else pure ()
  | _ => pure ()

/-- Complains about an assignment where only a comparison makes sense. -/
def checkComparison (read : Grammar Expr) (isLoneName isEnclosed : Bool) (e : Expr) : Grammar Unit :=
  unlessQuiet do
  if isMark "=" (← here) && (isLoneName || ((isEnclosed || e.isOperand) && !e.isPlural)) then
    match ← foresee? (do
      skip
      read) with
    | some (r, _, next) =>
      if isMark "=" next || isMark ":=" next then pure ()
      else if isLoneName then blame ⟨e.span.start, r.span.stop⟩ .assignmentForComparison
      else blame e.span (.unassignable e.label true)
    | none => pure ()
  else pure ()

/-- Complains about what cannot be assigned to, or deleted. -/
def checkTarget (isDeletion : Bool) (e : Expr) : Grammar Unit :=
  match e.obstacle? isDeletion with
  | none => pure ()
  | some o =>
    orFail <| blame o.span (if isDeletion then .undeletable o.label else .unassignable o.label false)

/-- Complains about the end of a key. -/
def missingColon (k : Expr) : Grammar α := orFail fun a =>
  let stop := k.span.stop
  let p := Place.ofSpan a.text ⟨⟨k.span.start.line, stop.column - 1⟩, stop⟩
  (.error ⟨.missingKeyColon, { p with endColumn := 0 }⟩, a)

/-! ### Expressions -/

mutual

def expression (fuel : Nat) : Grammar Expr := do
  match fuel with
  | 0 => fail
  | fuel + 1 => do
    let first ← here
    if isWord "lambda" first then lambda fuel
    else
      let next ← second
      let e ← disjunction fuel
      if isWord "if" (← here) then
        skip
        let condition ← disjunction fuel
        let l ← here
        if isWord "else" l then
          skip
          let no ← expression fuel
          pure (.choice ⟨first.span.start, (← latest).span.stop⟩ condition e no)
        else if isMark ":" l then fail
        else orFail <| blame ⟨e.span.start, condition.span.stop⟩ .missingElse
      else
        if !(isName first && isQuoted next) && !isSoft first then checkComma (expression fuel) e
        if isName first then checkLegacy (expressions fuel) e
        pure e

def lambda (fuel : Nat) : Grammar Expr := do
  match fuel with
  | 0 => fail
  | fuel + 1 => do
    let start := (← here).span.start
    skip
    let ps ← parameters fuel false
    mark ":"
    let e ← expression fuel
    pure (.function (← spanFrom start) ps e)

def parameters (fuel : Nat) (afterDefault : Bool) : Grammar (List (Text × Option Expr)) := do
  match fuel with
  | 0 => fail
  | fuel + 1 => do
    let l ← here
    if isName l then
      let n ← identifier
      let default ←
        if ← skipIf (isMark "=") then
          let e ← expression fuel
          pure (some e)
        else if afterDefault then orFail <| blame l.span .parameterWithoutDefault
        else pure none
      let others ← if ← skipIf (isMark ",") then parameters fuel default.isSome else pure []
      pure ((n, default) :: others)
    else pure []

def disjunction (fuel : Nat) : Grammar Expr := do
  match fuel with
  | 0 => fail
  | fuel + 1 => do
    let start := (← here).span.start
    let l ← conjunction fuel
    if ← skipIf (isWord "or") then
      let r ← disjunction fuel
      pure (.either (← spanFrom start) l r)
    else pure l

def conjunction (fuel : Nat) : Grammar Expr := do
  match fuel with
  | 0 => fail
  | fuel + 1 => do
    let start := (← here).span.start
    let l ← negation fuel
    if ← skipIf (isWord "and") then
      let r ← conjunction fuel
      pure (.both (← spanFrom start) l r)
    else pure l

def negation (fuel : Nat) : Grammar Expr := do
  match fuel with
  | 0 => fail
  | fuel + 1 => do
    let start := (← here).span.start
    if ← skipIf (isWord "not") then
      let e ← negation fuel
      pure (.unary (← spanFrom start) .not e)
    else
      let e ← arithmetic fuel levels
      let others ← comparisons fuel
      if others.isEmpty then pure e else pure (.compare (← spanFrom start) e others)

def comparisons (fuel : Nat) : Grammar (List (Comparison × Expr)) := do
  match fuel with
  | 0 => fail
  | fuel + 1 => do
    match ← comparison? with
    | none => pure []
    | some c => do
      let e ← arithmetic fuel levels
      let others ← comparisons fuel
      pure ((c, e) :: others)

/-- Operands with the operators of the first level between them. -/
def arithmetic (fuel : Nat) (ls : List (List (String × BinaryOp))) : Grammar Expr := do
  match fuel, ls with
  | 0, _ => fail
  | fuel + 1, [] => signed fuel
  | fuel + 1, table :: tighter => do
    let start := (← here).span.start
    let l ← arithmetic fuel tighter
    arithmeticRest fuel table tighter start l

def arithmeticRest (fuel : Nat) (table : List (String × BinaryOp))
    (tighter : List (List (String × BinaryOp))) (start : Spot) (l : Expr) : Grammar Expr := do
  match fuel with
  | 0 => fail
  | fuel + 1 => do
    match operatorOf table (← here) with
    | none => pure l
    | some op => do
      skip
      let r ← arithmetic fuel tighter
      let s ← spanFrom start
      arithmeticRest fuel table tighter start (.binary s op l r)

def signed (fuel : Nat) : Grammar Expr := do
  match fuel with
  | 0 => fail
  | fuel + 1 => do
    let l ← here
    match unaryMarks.find? fun e => isMark e.1 l with
    | some (_, op) => do
      skip
      let e ← signed fuel
      pure (.unary (← spanFrom l.span.start) op e)
    | none => do
      let e ← postfix_ fuel
      if ← skipIf (isMark "**") then
        let r ← signed fuel
        pure (.binary (← spanFrom l.span.start) .power e r)
      else pure e

/-- An atom with calls, members and indices behind it. -/
def postfix_ (fuel : Nat) : Grammar Expr := do
  match fuel with
  | 0 => fail
  | fuel + 1 => do
    let start := (← here).span.start
    let e ← atom fuel
    postfixRest fuel start e

def postfixRest (fuel : Nat) (start : Spot) (e : Expr) : Grammar Expr := do
  match fuel with
  | 0 => fail
  | fuel + 1 => do
    let l ← here
    if isMark "." l then
      skip
      let n ← identifier
      let s ← spanFrom start
      postfixRest fuel start (.member s e n)
    else if isMark "(" l then
      skip
      let (arguments, named) ← callArguments fuel l.span.start none false false
      mark ")"
      let s ← spanFrom start
      postfixRest fuel start (.call s e arguments named)
    else if isMark "[" l then
      skip
      let i ← subscripts fuel
      mark "]"
      let s ← spanFrom start
      postfixRest fuel start (.subscript s e i)
    else pure e

/-- The arguments of a call whose bracket opens at `open_`, behind the first one if there is one. A
comprehension needs no brackets of its own if it is the only one, and arguments by position come
first. -/
def callArguments (fuel : Nat) (open_ : Spot) (first : Option Spot) (seenNamed seenUnpacking : Bool) :
    Grammar (List Expr × List (Option Text × Span × Expr)) := do
  match fuel with
  | 0 => fail
  | fuel + 1 => do
    let l ← here
    let start := l.span.start
    let begin_ := first.getD start
    let before ← latest
    if isMark ")" l then pure ([], [])
    else if isMark "**" l then
      skip
      let e ← expression fuel
      let s ← spanFrom start
      let (es, ns) ← moreArguments fuel open_ begin_ true true
      pure (es, (none, s, e) :: ns)
    else if isMark "*" l then
      skip
      if seenUnpacking then orFail <| blame ⟨begin_, before.span.start⟩ .unpackingAfterNamed
      else
        let e ← expression fuel
        let s ← spanFrom start
        let (es, ns) ← moreArguments fuel open_ begin_ seenNamed seenUnpacking
        pure (.starred s e :: es, ns)
    else do
      let next ← second
      let sign : Span := ⟨start, next.span.stop⟩
      match l.kind, isMark "=" next with
      | .name n, true => do
        skip
        skip
        let e ← expression fuel
        if isWord "for" (← here) then orFail <| blame sign .assignmentForComparison
        else
          let s ← spanFrom start
          let (es, ns) ← moreArguments fuel open_ begin_ true seenUnpacking
          pure (es, (some n, s, e) :: ns)
      | kind, isNamed => do
        match kind, isNamed with
        | .word w, true =>
          if (wordValue? w).isSome then orFail <| blame sign (.unassignable (String.ofList w) false)
          else pure ()
        | _, _ => pure ()
        let e ← expression fuel
        let next ← here
        if isMark "=" next then orFail <| blame ⟨e.span.start, next.span.stop⟩ .assignmentInCall
        else if isWord "for" next then
          let clauses ← comprehensionClauses fuel
          let stop := (← latest).span.stop
          let l ← here
          if first.isNone && isMark ")" l then
            pure ([.comprehension ⟨open_, l.span.stop⟩ .tuple e clauses], [])
          else orFail <| blame ⟨e.span.start, stop⟩ .nakedGenerator
        else if seenNamed then
          let _ ← moreArguments fuel open_ begin_ false false
          orFail <| blameHere (.positionalAfterNamed seenUnpacking)
        else
          let (es, ns) ← moreArguments fuel open_ begin_ false false
          pure (e :: es, ns)

def moreArguments (fuel : Nat) (open_ first : Spot) (seenNamed seenUnpacking : Bool) :
    Grammar (List Expr × List (Option Text × Span × Expr)) := do
  match fuel with
  | 0 => fail
  | fuel + 1 => do
    if ← skipIf (isMark ",") then callArguments fuel open_ (some first) seenNamed seenUnpacking
    else pure ([], [])

/-- What stands between the brackets of a subscript. -/
def subscripts (fuel : Nat) : Grammar Expr := do
  match fuel with
  | 0 => fail
  | fuel + 1 => do
    let start := (← here).span.start
    let e ← slice fuel
    if isMark "," (← here) then
      let others ← moreSlices fuel
      pure (.items (← spanFrom start) .tuple (e :: others))
    else pure e

def moreSlices (fuel : Nat) : Grammar (List Expr) := do
  match fuel with
  | 0 => fail
  | fuel + 1 => do
    if ← skipIf (isMark ",") then
      let l ← here
      if startsItem l || isMark ":" l then
        let e ← slice fuel
        let others ← moreSlices fuel
        pure (e :: others)
      else pure []
    else pure []

def slice (fuel : Nat) : Grammar Expr := do
  match fuel with
  | 0 => fail
  | fuel + 1 => do
    let start := (← here).span.start
    let first ← bound fuel
    if isMark ":" (← here) then
      skip
      let stop ← bound fuel
      let step ← if ← skipIf (isMark ":") then bound fuel else pure none
      pure (.slice (← spanFrom start) first stop step)
    else match first with
      | some e => pure e
      | none => fail

def bound (fuel : Nat) : Grammar (Option Expr) := do
  match fuel with
  | 0 => fail
  | fuel + 1 => do
    let l ← here
    if isMark ":" l || isMark "]" l || isMark "," l then pure none
    else
      let e ← item fuel
      pure (some e)

def comprehensionClauses (fuel : Nat) : Grammar (List (Expr × Expr × List Expr)) := do
  match fuel with
  | 0 => fail
  | fuel + 1 => do
    if ← skipIf (isWord "for") then
      let target ← loopTargets fuel
      word "in"
      let source ← disjunction fuel
      let conditions ← comprehensionConditions fuel
      let others ← comprehensionClauses fuel
      pure ((target, source, conditions) :: others)
    else pure []

def comprehensionConditions (fuel : Nat) : Grammar (List Expr) := do
  match fuel with
  | 0 => fail
  | fuel + 1 => do
    if ← skipIf (isWord "if") then
      let c ← disjunction fuel
      let others ← comprehensionConditions fuel
      pure (c :: others)
    else pure []

/-- What a loop binds, up to the word behind it. -/
def loopTargets (fuel : Nat) : Grammar Expr := do
  match fuel with
  | 0 => fail
  | fuel + 1 => do
    let e ← looseList fuel
    checkTarget false e
    if isWord "in" (← here) then pure ()
    else checkComma (expression fuel) e
    pure e

/-- Operands with commas between them. -/
def looseList (fuel : Nat) : Grammar Expr := do
  match fuel with
  | 0 => fail
  | fuel + 1 => do
    let start := (← here).span.start
    let e ← looseItem fuel
    if isMark "," (← here) then
      let others ← looseItems fuel
      pure (.items (← spanFrom start) .tuple (e :: others))
    else pure e

def looseItem (fuel : Nat) : Grammar Expr := do
  match fuel with
  | 0 => fail
  | fuel + 1 => do
    let start := (← here).span.start
    if ← skipIf (isMark "*") then
      let e ← arithmetic fuel levels
      pure (.starred (← spanFrom start) e)
    else arithmetic fuel levels

def looseItems (fuel : Nat) : Grammar (List Expr) := do
  match fuel with
  | 0 => fail
  | fuel + 1 => do
    if ← skipIf (isMark ",") then
      if startsItem (← here) then
        let e ← looseItem fuel
        let others ← looseItems fuel
        pure (e :: others)
      else pure []
    else pure []

def atom (fuel : Nat) : Grammar Expr := do
  match fuel with
  | 0 => fail
  | fuel + 1 => do
    let l ← here
    let start := l.span.start
    match l.kind with
    | .name n => do
      skip
      pure (.name l.span n)
    | .word w =>
      match wordValue? w with
      | some v => do
        skip
        pure (.literal l.span v)
      | none => fail
    | .number n => do
      skip
      let v ← numberValue l n
      pure (.literal l.span v)
    | .quoted .. => texts fuel (expressions fuel)
    | .mark _ =>
      if isMark "..." l then do
        skip
        pure (.ellipsis l.span)
      else if isMark "(" l then do
        skip
        parenthesized fuel start
      else if isMark "[" l then do
        skip
        bracketed fuel start
      else if isMark "\x7b" l then do
        skip
        braced fuel start
      else fail
    | _ => fail

/-- What follows an opening parenthesis: a lone expression, several items, or a comprehension. -/
def parenthesized (fuel : Nat) (start : Spot) : Grammar Expr := do
  match fuel with
  | 0 => fail
  | fuel + 1 => do
    if ← skipIf (isMark ")") then pure (.items (← spanFrom start) .tuple [])
    else
      let e ← item fuel
      let l ← here
      if isMark "," l then
        let others ← moreItems fuel
        mark ")"
        pure (.items (← spanFrom start) .tuple (e :: others))
      else match e with
        | .starred s _ => if isMark ")" l then orFail <| blame s .starredHere else fail
        | e =>
          if isWord "for" l then
            let clauses ← comprehensionClauses fuel
            mark ")"
            pure (.comprehension (← spanFrom start) .tuple e clauses)
          else
            mark ")"
            pure e

/-- What follows an opening square bracket. -/
def bracketed (fuel : Nat) (start : Spot) : Grammar Expr := do
  match fuel with
  | 0 => fail
  | fuel + 1 => do
    if ← skipIf (isMark "]") then pure (.items (← spanFrom start) .list [])
    else
      let e ← item fuel
      if isWord "for" (← here) then
        let clauses ← comprehensionClauses fuel
        mark "]"
        pure (.comprehension (← spanFrom start) .list e clauses)
      else
        let others ← moreItems fuel
        mark "]"
        pure (.items (← spanFrom start) .list (e :: others))

/-- What follows an opening brace: entries, or the members of a set. -/
def braced (fuel : Nat) (start : Spot) : Grammar Expr := do
  match fuel with
  | 0 => fail
  | fuel + 1 => do
    let l ← here
    if ← skipIf (isMark "\x7d") then pure (.mapping (← spanFrom start) [])
    else if isMark "**" l then
      let es ← entries fuel
      mark "\x7d"
      pure (.mapping (← spanFrom start) es)
    else
      let e ← item fuel
      let l ← here
      if isMark ":" l && !(match e with | .starred .. => true | _ => false) then
        skip
        let v ← entryValue fuel l
        if isWord "for" (← here) then
          let clauses ← comprehensionClauses fuel
          mark "\x7d"
          pure (.mappingComprehension (← spanFrom start) e v clauses)
        else
          let others ← if ← skipIf (isMark ",") then entries fuel else pure []
          mark "\x7d"
          pure (.mapping (← spanFrom start) ((some e, v) :: others))
      else if isWord "for" l then
        let clauses ← comprehensionClauses fuel
        mark "\x7d"
        pure (.comprehension (← spanFrom start) .set e clauses)
      else
        let others ← moreItems fuel
        mark "\x7d"
        pure (.items (← spanFrom start) .set (e :: others))

/-- The value of an entry behind its colon. -/
def entryValue (fuel : Nat) (colon : Lexeme) : Grammar Expr := do
  match fuel with
  | 0 => fail
  | fuel + 1 => do
    let l ← here
    if isMark "\x7d" l || isMark "," l then orFail <| blame colon.span .missingEntry
    else expression fuel

def entries (fuel : Nat) : Grammar (List (Option Expr × Expr)) := do
  match fuel with
  | 0 => fail
  | fuel + 1 => do
    let l ← here
    if isMark "\x7d" l then pure []
    else
      let entry ←
        if isMark "**" l then do
          skip
          let e ← arithmetic fuel levels
          pure (none, e)
        else do
          match ← foresee? (quietly (expression fuel)) with
          | some (k, _, next) => if isMark ":" next then pure () else missingColon k
          | none => pure ()
          let k ← expression fuel
          let l ← here
          mark ":"
          let v ← entryValue fuel l
          pure (some k, v)
      let others ← if ← skipIf (isMark ",") then entries fuel else pure []
      pure (entry :: others)

/-- An item of a list: an expression, or several items behind a star. -/
def item (fuel : Nat) : Grammar Expr := do
  match fuel with
  | 0 => fail
  | fuel + 1 => do
    let first ← here
    if ← skipIf (isMark "*") then
      let e ← arithmetic fuel levels
      pure (.starred (← spanFrom first.span.start) e)
    else condition fuel

def condition (fuel : Nat) : Grammar Expr := do
  match fuel with
  | 0 => fail
  | fuel + 1 => do
    let first ← here
    let e ← expression fuel
    checkComparison (arithmetic fuel levels) (isName first && (← latest).span = first.span)
      (first.span.start ≠ e.span.start) e
    pure e

def moreItems (fuel : Nat) : Grammar (List Expr) := do
  match fuel with
  | 0 => fail
  | fuel + 1 => do
    if ← skipIf (isMark ",") then
      if startsItem (← here) then
        let e ← item fuel
        let others ← moreItems fuel
        pure (e :: others)
      else pure []
    else pure []

def expressions (fuel : Nat) : Grammar Expr := do
  match fuel with
  | 0 => fail
  | fuel + 1 => do
    let start := (← here).span.start
    let e ← starOrExpression fuel
    if isMark "," (← here) then
      let others ← moreExpressions fuel
      pure (.items (← spanFrom start) .tuple (e :: others))
    else pure e

def starOrExpression (fuel : Nat) : Grammar Expr := do
  match fuel with
  | 0 => fail
  | fuel + 1 => do
    let start := (← here).span.start
    if ← skipIf (isMark "*") then
      let e ← arithmetic fuel levels
      pure (.starred (← spanFrom start) e)
    else expression fuel

def moreExpressions (fuel : Nat) : Grammar (List Expr) := do
  match fuel with
  | 0 => fail
  | fuel + 1 => do
    if ← skipIf (isMark ",") then
      if startsItem (← here) then
        let e ← starOrExpression fuel
        let others ← moreExpressions fuel
        pure (e :: others)
      else pure []
    else pure []

end

end Grammar

end Weave.Program
