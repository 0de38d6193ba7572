import ExprTree.Failure
import ExprTree.Value.Convert

/-! The unary operators on an evaluated operand. -/
namespace ExprTree

inductive UnaryOperator where
  | minus
  | plus
  | not
  | bitNot
  | typeof
  | void
  deriving DecidableEq, Repr

namespace UnaryOperator

def ofSymbol? : String → Option UnaryOperator
  | "-" => some minus
  | "+" => some plus
  | "!" => some not
  | "~" => some bitNot
  | "typeof" => some typeof
  | "void" => some void
  | _ => none

def apply (op : UnaryOperator) (argument : Value) : Value :=
  match op with
  | minus => .number argument.toNumber.neg
  | plus => .number argument.toNumber
  | not => .bool !argument.truthy
  | bitNot => .number (Double.ofInt (~~~argument.toInt32).toInt)
  | typeof => .text argument.typeName
  | void => .undefined

end UnaryOperator

/-- Applies the operator with a symbol. -/
def applyUnary (symbol : String) (argument : Value) : Except Failure Value :=
  match UnaryOperator.ofSymbol? symbol with
  | some op => .ok (op.apply argument)
  | none => .error (.unsupportedUnary symbol)

end ExprTree
