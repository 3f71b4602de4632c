import Weave.Value.Written

/-!
# Exceptions

What a snippet, or a function handed to this library, raises: a class and its arguments.
-/

set_option autoImplicit false

namespace Weave

structure Exception where
  kind : Text
  args : List Value
deriving Inhabited

namespace Exception

def ofMessage (kind : String) (message : Text) : Exception := ⟨kind.toList, [.str message]⟩

/-- A whole number has too many digits to be written. -/
def tooManyDigits : Exception :=
  .ofMessage "ValueError" ("Exceeds the limit (".toList ++ Text.ofNat Value.digitLimit
    ++ " digits) for integer string conversion; use sys.set_int_max_str_digits() to increase the limit".toList)

/-- A numeral has too many digits to be read. -/
def tooLongNumeral (digits : Nat) : Exception :=
  .ofMessage "ValueError" ("Exceeds the limit (".toList ++ Text.ofNat Value.digitLimit
    ++ " digits) for integer string conversion: value has ".toList ++ Text.ofNat digits
    ++ " digits; use sys.set_int_max_str_digits() to increase the limit".toList)

/-- Each class of exceptions that programs know by name, with the one it specialises. -/
def parents : List (String × String) :=
  [ ("NotImplementedError", "RuntimeError"), ("RecursionError", "RuntimeError"),
    ("UnicodeError", "ValueError"), ("UnicodeDecodeError", "UnicodeError"),
    ("UnicodeEncodeError", "UnicodeError"), ("UnicodeTranslateError", "UnicodeError"),
    ("KeyError", "LookupError"), ("IndexError", "LookupError"),
    ("ZeroDivisionError", "ArithmeticError"), ("OverflowError", "ArithmeticError"),
    ("FloatingPointError", "ArithmeticError"),
    ("ModuleNotFoundError", "ImportError"), ("UnboundLocalError", "NameError"),
    ("BlockingIOError", "OSError"), ("ChildProcessError", "OSError"), ("ConnectionError", "OSError"),
    ("BrokenPipeError", "ConnectionError"), ("ConnectionAbortedError", "ConnectionError"),
    ("ConnectionRefusedError", "ConnectionError"), ("ConnectionResetError", "ConnectionError"),
    ("FileExistsError", "OSError"), ("FileNotFoundError", "OSError"), ("InterruptedError", "OSError"),
    ("IsADirectoryError", "OSError"), ("NotADirectoryError", "OSError"), ("PermissionError", "OSError"),
    ("ProcessLookupError", "OSError"), ("TimeoutError", "OSError"),
    ("IndentationError", "SyntaxError"), ("TabError", "IndentationError"),
    ("BytesWarning", "Warning"), ("DeprecationWarning", "Warning"), ("EncodingWarning", "Warning"),
    ("FutureWarning", "Warning"), ("ImportWarning", "Warning"), ("PendingDeprecationWarning", "Warning"),
    ("ResourceWarning", "Warning"), ("RuntimeWarning", "Warning"), ("SyntaxWarning", "Warning"),
    ("UnicodeWarning", "Warning"), ("UserWarning", "Warning"),
    ("ArithmeticError", "Exception"), ("AssertionError", "Exception"), ("AttributeError", "Exception"),
    ("BufferError", "Exception"), ("EOFError", "Exception"), ("ImportError", "Exception"),
    ("LookupError", "Exception"), ("MemoryError", "Exception"), ("NameError", "Exception"),
    ("OSError", "Exception"), ("ReferenceError", "Exception"), ("RuntimeError", "Exception"),
    ("StopAsyncIteration", "Exception"), ("StopIteration", "Exception"), ("SyntaxError", "Exception"),
    ("SystemError", "Exception"), ("TypeError", "Exception"), ("ValueError", "Exception"),
    ("Warning", "Exception"),
    ("Exception", "BaseException"), ("SystemExit", "BaseException"),
    ("KeyboardInterrupt", "BaseException"), ("GeneratorExit", "BaseException") ]

def furtherParents : List (String × String) :=
  [ ("TransformationExhaustedError", "RuntimeError"), ("DocumentEvaluationError", "RuntimeError"),
    ("ValidationError", "ValueError"), ("JSONDecodeError", "ValueError") ]

def parent? (kind : Text) : Option Text :=
  ((parents ++ furtherParents).find? fun p => p.1.toList = kind).map fun p => p.2.toList

/-- Whether a class is `ancestor` or specialises it, looking at most `fuel` classes up. -/
def descends (ancestor : Text) : Nat → Text → Bool
  | 0, kind => kind = ancestor
  | fuel + 1, kind =>
    kind = ancestor || match parent? kind with
      | some p => descends ancestor fuel p
      | none => false

def isKind (ancestor : String) (kind : Text) : Bool :=
  descends ancestor.toList parents.length kind

def kinds : List Text := "BaseException".toList :: parents.map fun p => p.1.toList

def aliases : List (String × String) := [("IOError", "OSError"), ("EnvironmentError", "OSError")]

/-- The class of a failed system call with a number, if that has one of its own. -/
def numberedKinds : List (Nat × String) :=
  [ (1, "PermissionError"), (2, "FileNotFoundError"), (3, "ProcessLookupError"),
    (4, "InterruptedError"), (10, "ChildProcessError"), (11, "BlockingIOError"),
    (13, "PermissionError"), (17, "FileExistsError"), (20, "NotADirectoryError"),
    (21, "IsADirectoryError"), (32, "BrokenPipeError"), (103, "ConnectionAbortedError"),
    (104, "ConnectionResetError"), (108, "BrokenPipeError"), (110, "TimeoutError"),
    (111, "ConnectionRefusedError"), (114, "BlockingIOError"), (115, "BlockingIOError") ]

/-- The exception of a class with arguments. A failed system call is of the class that its number
stands for. -/
def ofCall (kind : Text) (args : List Value) : Exception :=
  match args with
  | .int n :: _ :: _ =>
    match if kind = "OSError".toList then numberedKinds.find? fun k => (k.1 : Int) = n else none with
    | some (_, k) => ⟨k.toList, args⟩
    | none => ⟨kind, args⟩
  | _ => ⟨kind, args⟩

/-- The classes that insist on a number of arguments. -/
def fixedCounts : List (String × Nat) :=
  [("UnicodeDecodeError", 5), ("UnicodeEncodeError", 5), ("UnicodeTranslateError", 4)]

/-- Makes an exception of a class, or the one that says how many arguments that takes. -/
def make (kind : Text) (args : List Value) : Except Exception Exception :=
  match fixedCounts.find? fun c => c.1.toList = kind with
  | some (_, n) =>
    if args.length = n then .ok (ofCall kind args)
    else .error (.ofMessage "TypeError" ("function takes exactly ".toList ++ Text.ofNat n
      ++ " arguments (".toList ++ Text.ofNat args.length ++ " given)".toList))
  | none => .ok (ofCall kind args)

/-- The classes whose text is that of a failed system call: number, reason and file. -/
def isSystemError (kind : Text) : Bool := isKind "OSError" kind

def shownArgs (e : Exception) : List Value :=
  if isSystemError e.kind && e.args.length = 3 then e.args.take 2 else e.args

def written (e : Exception) : Text :=
  e.kind ++ '(' :: Value.commaList (Value.writtenEach e.shownArgs) ++ [')']

def numbered (n reason : Value) : Text :=
  "[Errno ".toList ++ n.plain ++ "] ".toList ++ reason.plain

/-- The text of an exception: nothing, its one argument, or the tuple of its arguments. A missing key
is quoted. -/
def message (e : Exception) : Text :=
  match e.args with
  | [] => []
  | [v] => if e.kind = "KeyError".toList then v.written else v.plain
  | [n, reason] =>
    if isSystemError e.kind then numbered n reason else (Value.tuple e.args).written
  | [n, reason, file] =>
    if isSystemError e.kind then numbered n reason ++ ": ".toList ++ file.written
    else (Value.tuple e.args).written
  | args => (Value.tuple args).written

def line (e : Exception) : Text :=
  let t := e.message
  if t.isEmpty then e.kind else e.kind ++ ": ".toList ++ t

/-- Whether the exception has a text and a written form. -/
def isWritable (e : Exception) : Bool := Value.areWritable e.args

end Exception

namespace Value

/-- The written form of a value, unless a whole number in it is too long for that. -/
def tryWritten (v : Value) : Except Exception Text :=
  if v.isWritable then .ok v.written else .error .tooManyDigits

/-- The plain text of a value, unless a whole number in it is too long for that. -/
def tryPlain (v : Value) : Except Exception Text :=
  if v.isWritable then .ok v.plain else .error .tooManyDigits

end Value

end Weave
