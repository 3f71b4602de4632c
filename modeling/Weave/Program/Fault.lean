import Weave.Exception
import Weave.Program.Tree

/-!
# Faults of operations

The exceptions that operations on values raise most often. Their messages name operators by their
symbols and values by their classes.
-/

set_option autoImplicit false

namespace Weave.Program

def typeError (t : Text) : Exception := .ofMessage "TypeError" t
def valueError (t : Text) : Exception := .ofMessage "ValueError" t
def overflowError (t : String) : Exception := .ofMessage "OverflowError" t.toList
def zeroDivision (t : String) : Exception := .ofMessage "ZeroDivisionError" t.toList

def classQuoted (v : Value) : Text := '\'' :: v.className ++ ['\'']

namespace UnaryOp

def symbol : UnaryOp → Text
  | plus => ['+']
  | minus => ['-']
  | invert => ['~']
  | not => "not".toList

end UnaryOp

namespace BinaryOp

def symbol : BinaryOp → Text
  | add => ['+']
  | subtract => ['-']
  | multiply => ['*']
  | power => "**".toList
  | divide => ['/']
  | floorDivide => "//".toList
  | modulo => ['%']
  | shiftLeft => "<<".toList
  | shiftRight => ">>".toList
  | bitAnd => ['&']
  | bitOr => ['|']
  | bitXor => ['^']
  | matrixMultiply => ['@']

def label (op : BinaryOp) : Text := if op = power then "** or pow()".toList else op.symbol

end BinaryOp

namespace Comparison

def symbol : Comparison → Text
  | equal => "==".toList
  | unequal => "!=".toList
  | less => ['<']
  | lessEqual => "<=".toList
  | greater => ['>']
  | greaterEqual => ">=".toList
  | within => "in".toList
  | without => "not in".toList
  | same => "is".toList
  | different => "is not".toList

end Comparison

def unsupportedAs (label : Text) (v w : Value) : Exception :=
  typeError ("unsupported operand type(s) for ".toList ++ label ++ ": ".toList ++ classQuoted v
    ++ " and ".toList ++ classQuoted w)

def unsupported (op : BinaryOp) (v w : Value) : Exception := unsupportedAs op.label v w

end Weave.Program
