import Weave.Program.Grammar

/-!
# Reading statements

A program is a list of statements, or a lone expression.
-/

set_option autoImplicit false

namespace Weave.Program

namespace Grammar

def augmentations : List (String × BinaryOp) :=
  [ ("+=", .add), ("-=", .subtract), ("*=", .multiply), ("/=", .divide), ("//=", .floorDivide),
    ("%=", .modulo), ("**=", .power), ("|=", .bitOr), ("&=", .bitAnd), ("^=", .bitXor),
    ("<<=", .shiftLeft), (">>=", .shiftRight), ("@=", .matrixMultiply) ]

/-! ### Assignments -/

/-- The last of several items, if nothing follows it. -/
def lastItem (e : Expr) : Expr :=
  match e with
  | .items s .tuple es =>
    match es.getLast? with
    | some last => if last.span.stop = s.stop then last else e
    | none => e
  | e => e

/-- Whether an expression is a name without parentheses. -/
def isBareName (e : Expr) (l : Lexeme) : Bool :=
  match e with
  | .name s _ => s = l.span
  | _ => false

def assignments : Nat → Grammar (List Expr)
  | 0 => fail
  | fuel + 1 => do
    if isMark "=" (← here) then
      skip
      let e ← expressions fuel
      if isMark "=" (← here) then checkTarget false e
      let others ← assignments fuel
      pure (e :: others)
    else pure []

/-- An assignment to what has been read, behind which an equals sign comes next. -/
def assignment (fuel : Nat) (start : Spot) (e : Expr) : Grammar Stmt := do
  if !e.isTarget then
    let last := lastItem e
    checkComparison (arithmetic fuel levels) (isBareName last (← latest)) (start ≠ e.span.start) last
    checkTarget false e
  let others ← assignments fuel
  match others.getLast? with
  | none => fail
  | some value => pure (.assign (← spanFrom start) (e :: others.dropLast) value)

def augmentation (fuel : Nat) (start : Spot) (e : Expr) (op : BinaryOp) : Grammar Stmt := do
  let whole : Grammar Expr := do
    skip
    expressions fuel
  if e.isSingleTarget then
    let r ← whole
    pure (.augment (← spanFrom start) e op r)
  else
    match ← foresee? whole with
    | some _ => orFail <| blame e.span (.unaugmentable e.label)
    | none => fail

def expressionStatement (fuel : Nat) : Grammar Stmt := do
  let start := (← here).span.start
  let e ← expressions fuel
  let l ← here
  match augmentations.find? fun a => isMark a.1 l with
  | some (_, op) => augmentation fuel start e op
  | none =>
    if isMark "=" l then assignment fuel start e
    else pure (.expr (← spanFrom start) e)

/-! ### Names -/

def alias? : Grammar (Option Text) := do
  if ← skipIf (isWord "as") then
    let n ← identifier
    pure (some n)
  else pure none

def moduleList : Nat → Grammar (List (Text × Option Text))
  | 0 => fail
  | fuel + 1 => do
    let m ← dotted fuel
    let a ← alias?
    if ← skipIf (isMark ",") then
      let others ← moduleList fuel
      pure ((m, a) :: others)
    else pure [(m, a)]

def nameList : Nat → Grammar (List Text)
  | 0 => fail
  | fuel + 1 => do
    let n ← identifier
    if ← skipIf (isMark ",") then
      let others ← nameList fuel
      pure (n :: others)
    else pure [n]

/-- The names that are taken from a module. Only between parentheses may a comma follow the last one. -/
def importedNames (isEnclosed : Bool) : Nat → Grammar (List (Text × Option Text))
  | 0 => fail
  | fuel + 1 => do
    let n ← identifier
    let a ← alias?
    if ← skipIf (isMark ",") then
      let l ← here
      if isEnclosed && isMark ")" l then pure [(n, a)]
      else if !isEnclosed && isLineEnd l then orFail <| blameHere .trailingComma
      else
        let others ← importedNames isEnclosed fuel
        pure ((n, a) :: others)
    else pure [(n, a)]

def importList (fuel : Nat) : Grammar (List (Text × Option Text)) := do
  if ← skipIf (isMark "*") then pure [(['*'], none)]
  else if ← skipIf (isMark "(") then
    let ns ← importedNames true fuel
    mark ")"
    pure ns
  else importedNames false fuel

/-! ### Statements -/

def isStop (l : Lexeme) : Bool := isLineEnd l || isMark ";" l || isFinish l

def optionally (g : Grammar Expr) : Grammar (Option Expr) := do
  if isStop (← here) then pure none
  else
    let e ← g
    pure (some e)

def deletion (fuel : Nat) (start : Spot) : Grammar Stmt := do
  let e ← expressions fuel
  checkTarget true e
  let s ← spanFrom start
  match e with
  | .items _ .tuple es => pure (.delete s es)
  | e => pure (.delete s [e])

/-- A statement that holds no others. -/
def simple (fuel : Nat) : Grammar Stmt := do
  let l ← here
  let start := l.span.start
  match l.kind with
  | .word w =>
    let is := fun (v : String) => w = v.toList
    if is "pass" then
      skip
      pure (.pass l.span)
    else if is "break" then
      skip
      pure (.leave l.span)
    else if is "continue" then
      skip
      pure (.proceed l.span)
    else if is "del" then
      skip
      deletion fuel start
    else if is "return" then
      skip
      let e ← optionally (expressions fuel)
      pure (.give (← spanFrom start) e)
    else if is "raise" then
      skip
      let e ← optionally (expression fuel)
      let cause ← if e.isSome && isWord "from" (← here) then do
          skip
          let c ← expression fuel
          pure (some c)
        else pure none
      pure (.raise (← spanFrom start) e cause)
    else if is "global" then
      skip
      let ns ← nameList fuel
      pure (.share (← spanFrom start) ns)
    else if is "nonlocal" then
      skip
      let ns ← nameList fuel
      pure (.borrow (← spanFrom start) ns)
    else if is "assert" then
      skip
      let c ← expression fuel
      let message ←
        if ← skipIf (isMark ",") then
          let e ← expression fuel
          pure (some e)
        else pure none
      pure (.check (← spanFrom start) c message)
    else if is "import" then
      skip
      let ms ← moduleList fuel
      pure (.load (← spanFrom start) ms)
    else if is "from" then
      skip
      let m ← dotted fuel
      word "import"
      let ns ← importList fuel
      pure (.loadFrom (← spanFrom start) m ns)
    else expressionStatement fuel
  | _ => expressionStatement fuel

def simpleLine : Nat → Grammar (List Stmt)
  | 0 => fail
  | fuel + 1 => do
    let s ← simple fuel
    if ← skipIf (isMark ";") then
      if ← skipIf isLineEnd then pure [s]
      else
        let others ← simpleLine fuel
        pure (s :: others)
    else
      expect isLineEnd
      pure [s]

/-- The colon in front of a block, which is missed at the end of a line, or wherever it is not. -/
def colon (isForced : Bool) : Grammar Unit := do
  let l ← here
  if isMark ":" l then skip
  else if isForced || isLineEnd l then blameHere (.missing "':'")
  else fail

mutual

/-- The statements of one line, or one statement with its blocks. -/
def statement (fuel : Nat) : Grammar (List Stmt) := do
  match fuel with
  | 0 => fail
  | fuel + 1 => do
    let l ← here
    let start := l.span.start
    if isWord "if" l then
      skip
      let s ← conditional fuel l "'if' statement"
      pure [s]
    else if isWord "while" l then
      skip
      let c ← condition fuel
      colon false
      let body ← block fuel "'while' statement" start.line
      let no ← otherwise fuel
      pure [.repeatWhile (← spanFrom start) c body no]
    else if isWord "for" l then
      skip
      let t ← loopTargets fuel
      word "in"
      let source ← expressions fuel
      colon false
      let body ← block fuel "'for' statement" start.line
      let no ← otherwise fuel
      pure [.forEach (← spanFrom start) t source body no]
    else if isWord "def" l then
      skip
      let n ← identifier
      if isMark "(" (← here) then skip else blameHere (.missing "'('")
      let ps ← parameters fuel false
      mark ")"
      colon true
      let body ← block fuel "function definition" start.line
      pure [.define (← spanFrom start) n ps body]
    else simpleLine fuel

/-- What follows the word that asks for a condition. -/
def conditional (fuel : Nat) (l : Lexeme) (header : String) : Grammar Stmt := do
  match fuel with
  | 0 => fail
  | fuel + 1 => do
    let c ← condition fuel
    colon false
    let yes ← block fuel header l.span.start.line
    let next ← here
    let no ←
      if isWord "elif" next then do
        skip
        let s ← conditional fuel next "'elif' statement"
        pure [s]
      else otherwise fuel
    pure (.branch (← spanFrom l.span.start) c yes no)

/-- The block for the other case, if there is one. -/
def otherwise (fuel : Nat) : Grammar (List Stmt) := do
  match fuel with
  | 0 => fail
  | fuel + 1 => do
    let l ← here
    if isWord "else" l then
      skip
      colon true
      block fuel "'else' statement" l.span.start.line
    else pure []

def block (fuel : Nat) (header : String) (line : Nat) : Grammar (List Stmt) := do
  match fuel with
  | 0 => fail
  | fuel + 1 => do
    if ← skipIf isLineEnd then
      if ← skipIf isIndent then
        let body ← statements fuel
        expect isDedent
        pure body
      else blameHere (.missingBlock header line)
    else simpleLine fuel

def statements (fuel : Nat) : Grammar (List Stmt) := do
  match fuel with
  | 0 => fail
  | fuel + 1 => do
    let l ← here
    if isDedent l || isFinish l then pure []
    else
      let ss ← statement fuel
      let others ← statements fuel
      pure (ss ++ others)

end

/-- Enough steps for so many lexemes. -/
def stepsFor (ls : List Lexeme) : Nat := 32 * (ls.length + 2)

def program (fuel : Nat) : Grammar (List Stmt) := do
  let ss ← statements fuel
  expect isFinish
  pure ss

def lineEnds : Nat → Grammar Unit
  | 0 => pure ()
  | fuel + 1 => do
    if ← skipIf isLineEnd then lineEnds fuel else pure ()

def loneExpression (fuel : Nat) : Grammar Expr := do
  if isMark "*" (← here) then fail
  else
    let e ← expressions fuel
    lineEnds fuel
    expect isFinish
    pure e

end Grammar

/-- Reads the lexemes of a text. If it ends within brackets that are opened in front of the line where
reading fails, that is the fault. -/
def readWith {α : Type} (t : Text) (g : Nat → Grammar α) : Except Misreading α :=
  match scan t with
  | (_, some m) => .error m
  | (ls, none) =>
    match g (Grammar.stepsFor ls) { text := t, lexemes := ls } with
    | (.ok a, _) => .ok a
    | (.error m, a) =>
      match ls.getLast? with
      | some ⟨.barrier why, _, _, _⟩ =>
        let line := (a.beyond.getD (Grammar.peek a)).span.start.line
        match why.complaint with
        | .unclosed _ => .error (if why.place.line < line then why else m)
        | _ => .error m
      | _ => .error m

def endLine (t : Text) : Text := if t.getLast? = some '\n' || t.isEmpty then t else t ++ ['\n']

def readStatements (t : Text) : Except Misreading (List Stmt) :=
  readWith (endLine (Text.unifyNewlines t)) Grammar.program

def readExpression (t : Text) : Except Misreading Expr :=
  if t.isEmpty then .error .nothing else readWith (Text.unifyNewlines t) Grammar.loneExpression

end Weave.Program
