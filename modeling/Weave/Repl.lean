import Weave.Dictionary
import Weave.Exception

/-!
# The `repl` object

Snippets may configure the prompt they would otherwise be typed into. Settings are kept so that they
can be read back; printers are dropped, and whatever else is called does nothing.
-/

set_option autoImplicit false

namespace Weave

/-- What a name of the object stands for. -/
inductive ReplMember (α : Type) where
  | value (v : α)
  /-- Takes one argument of this name. -/
  | adder (name argument : Text)
  /-- Ignores its arguments. -/
  | ignorer
  | eventLoop

/-- The names that have been set, over values of a type `α`. -/
structure Repl (α : Type) where
  settings : Dictionary α
deriving Inhabited

namespace Repl

variable {α : Type}

def defaults : List (String × Value) :=
  [ ("float_format", .str ".10g".toList), ("format_locale", .str ['C']),
    ("print_width", .int 78), ("print_depth", .int 100), ("print_length", .int 100),
    ("print_size", .int 10000), ("show_declaration_values", .bool true),
    ("show_properties", .bool true), ("show_iterables", .bool true), ("show_dicts", .bool true),
    ("added_printers", .list []), ("command_line_args", .list [.str "penscript".toList]) ]

def initial (ofValue : Value → α) : Repl α :=
  ⟨⟨defaults.map fun d => (d.1.toList, ofValue d.2)⟩⟩

def loopName : Text := "event_loop".toList
def ownLoopName : Text := "_event_loop".toList

def adders : List (Text × Text) :=
  [("add_printer".toList, "printer".toList), ("add_print_transformer".toList, "transformer".toList)]

/-- What every object can be asked for. -/
def common : List String :=
  [ "__class__", "__delattr__", "__dir__", "__eq__", "__format__", "__ge__", "__getattr__",
    "__getattribute__", "__getstate__", "__gt__", "__hash__", "__init__", "__init_subclass__",
    "__le__", "__lt__", "__ne__", "__new__", "__reduce__", "__reduce_ex__", "__repr__",
    "__setattr__", "__sizeof__", "__str__", "__subclasshook__" ]

/-- Every name stands for something, except for unknown ones that start with two underscores. -/
def get? (r : Repl α) (name : Text) : Option (ReplMember α) :=
  if name = loopName then
    match r.settings.get? ownLoopName with
    | some v => some (.value v)
    | none => some .eventLoop
  else match r.settings.get? name with
    | some v => some (.value v)
    | none =>
      if name = ownLoopName then some .eventLoop
      else match adders.find? fun a => a.1 = name with
        | some (n, argument) => some (.adder n argument)
        | none =>
          if common.any fun n => n.toList = name then some .ignorer
          else if ['_', '_'].isPrefixOf name then none
          else some .ignorer

/-- The event loop itself stays. -/
def set (r : Repl α) (name : Text) (v : α) : Repl α :=
  if name = loopName then r else ⟨r.settings.set name v⟩

def missing (name : Text) : Exception := .ofMessage "AttributeError" name

def typeError (t : Text) : Exception := .ofMessage "TypeError" t

/-- Whether a function of one argument accepts so many arguments and these named ones. -/
def checkAdder (name argument : Text) (count : Nat) (named : List Text) : Except Exception Unit :=
  let label := "NoOpReplObject.".toList ++ name ++ "() ".toList
  match named.find? fun n => n ≠ argument with
  | some n =>
    .error (typeError (label ++ "got an unexpected keyword argument ".toList ++ Text.quote n))
  | none =>
    if count ≥ 1 && !named.isEmpty then
      .error (typeError (label ++ "got multiple values for argument ".toList ++ Text.quote argument))
    else if count > 1 then
      .error (typeError (label ++ "takes 2 positional arguments but ".toList
        ++ Text.ofNat (count + 1) ++ " were given".toList))
    else if count = 0 && named.isEmpty then
      .error (typeError (label ++ "missing 1 required positional argument: ".toList
        ++ Text.quote argument))
    else .ok ()

def notCallable (className : Text) : Exception :=
  typeError (Text.quote className ++ " object is not callable".toList)

def loopClass : Text := "NoOpEventLoop".toList

/-- Calls a member, which returns nothing; `classOf` names the class of a value. -/
def call (classOf : α → Text) (m : ReplMember α) (count : Nat) (named : List Text) :
    Except Exception Unit :=
  match m with
  | .ignorer => .ok ()
  | .adder name argument => checkAdder name argument count named
  | .value v => .error (notCallable (classOf v))
  | .eventLoop => .error (notCallable loopClass)

end Repl

end Weave
