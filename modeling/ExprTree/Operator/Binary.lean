import ExprTree.Double.Power
import ExprTree.Failure
import ExprTree.Value.Equality

/-! The binary operators on evaluated operands. Both operands are at hand, so `&&` and `||` only
choose between them. -/
namespace ExprTree

inductive BinaryOperator where
  | add
  | subtract
  | multiply
  | divide
  | remainder
  | power
  | looseEqual
  | looseUnequal
  | strictEqual
  | strictUnequal
  | less
  | lessEqual
  | greater
  | greaterEqual
  | and
  | or
  | bitOr
  | bitAnd
  | bitXor
  | shiftLeft
  | shiftRight
  | shiftRightZero
  deriving DecidableEq, Repr

namespace BinaryOperator

def ofSymbol? : String → Option BinaryOperator
  | "+" => some add
  | "-" => some subtract
  | "*" => some multiply
  | "/" => some divide
  | "%" => some remainder
  | "**" => some power
  | "==" => some looseEqual
  | "!=" => some looseUnequal
  | "===" => some strictEqual
  | "!==" => some strictUnequal
  | "<" => some less
  | "<=" => some lessEqual
  | ">" => some greater
  | ">=" => some greaterEqual
  | "&&" => some and
  | "||" => some or
  | "|" => some bitOr
  | "&" => some bitAnd
  | "^" => some bitXor
  | "<<" => some shiftLeft
  | ">>" => some shiftRight
  | ">>>" => some shiftRightZero
  | _ => none

/-- Joins texts as soon as one side is text after conversion, adds numbers otherwise. -/
def sum (left right : Value) : Value :=
  match left.toPrimitive, right.toPrimitive with
  | .text a, r => .text (a ++ r.toText)
  | l, .text b => .text (l.toText ++ b)
  | l, r => .number (l.toNumber.add r.toNumber)

/-- How two values compare: texts by code units, all else as numbers, and not at all with NaN. -/
def order? (left right : Value) : Option Ordering :=
  match left.toPrimitive, right.toPrimitive with
  | .text a, .text b => some (Text.compare a b)
  | l, r =>
    let a := l.toNumber
    let b := r.toNumber
    if a.isNaN || b.isNaN then none
    else if a.lt b then some .lt
    else if b.lt a then some .gt
    else some .eq

def ordered (left right : Value) (test : Ordering → Bool) : Value :=
  .bool ((order? left right).any test)

def arithmetic (left right : Value) (op : Double → Double → Double) : Value :=
  .number (op left.toNumber right.toNumber)

def ofInt32 (i : Int32) : Value :=
  .number (Double.ofInt i.toInt)

/-- Shifts count modulo 32. -/
def shiftCount (v : Value) : UInt32 :=
  v.toUInt32 &&& 31

def apply (op : BinaryOperator) (left right : Value) : Value :=
  match op with
  | add => sum left right
  | subtract => arithmetic left right Double.sub
  | multiply => arithmetic left right Double.mul
  | divide => arithmetic left right Double.div
  | remainder => arithmetic left right Double.rem
  | power => arithmetic left right Double.pow
  | looseEqual => .bool (left.looseEquals right)
  | looseUnequal => .bool !(left.looseEquals right)
  | strictEqual => .bool (left.strictEquals right)
  | strictUnequal => .bool !(left.strictEquals right)
  | less => ordered left right (· == .lt)
  | lessEqual => ordered left right (· != .gt)
  | greater => ordered left right (· == .gt)
  | greaterEqual => ordered left right (· != .lt)
  | and => if left.truthy then right else left
  | or => if left.truthy then left else right
  | bitOr => ofInt32 (left.toInt32 ||| right.toInt32)
  | bitAnd => ofInt32 (left.toInt32 &&& right.toInt32)
  | bitXor => ofInt32 (left.toInt32 ^^^ right.toInt32)
  | shiftLeft => ofInt32 (left.toUInt32 <<< shiftCount right).toInt32
  | shiftRight => ofInt32 (left.toInt32 >>> (shiftCount right).toInt32)
  | shiftRightZero => .number (Double.ofNat (left.toUInt32 >>> shiftCount right).toNat)

end BinaryOperator

/-- Applies the operator with a symbol. -/
def applyBinary (symbol : String) (left right : Value) : Except Failure Value :=
  match BinaryOperator.ofSymbol? symbol with
  | some op => .ok (op.apply left right)
  | none => .error (.unsupportedBinary symbol)

end ExprTree
