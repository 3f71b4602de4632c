import Weave.Section
import Weave.Token

/-!
# Faults of documents

Why a text is no document.
-/

set_option autoImplicit false

namespace Weave.Document

inductive Fault where
  /-- A token of another kind was expected. -/
  | unexpected (wanted : TokenKind) (found : Token)
  /-- There is nothing to search for. -/
  | emptyBreak
  /-- No command is closed at this offset. -/
  | unclosed (offset : Nat)
  | unknownCommand (word : Text)
  | header (fault : HeaderFault)
  /-- A directive that no code precedes. -/
  | orphan (directive : Text)
deriving Inhabited

/-- What is said about a fault; issues of headers are listed instead. -/
def Fault.message : Fault → Text
  | .unexpected wanted found =>
    "Expected ".toList ++ wanted.label ++ ", but found ".toList ++ found.written Text.quote
  | .emptyBreak => "Need at least one type to break on".toList
  | .unclosed offset =>
    "Failed to match a command close at offset ".toList ++ Text.ofNat offset
  | .unknownCommand word =>
    "Unknown command \"".toList ++ word ++ "\", expected one of [".toList
      ++ Text.join ", ".toList (CommandWord.table.map fun e => Text.quote e.1) ++ [']']
  | .header (.raised e) => e.message
  | .header _ => []
  | .orphan directive => '"' :: directive ++ "\" must follow a code chunk".toList

end Weave.Document
