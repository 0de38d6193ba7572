import ExprTree.Text.Units
import ExprTree.Value.Convert

/-! Equality of values: strict, loose and, for comparing results, strict up to NaN. -/
namespace ExprTree.Value

/-- Same kind and same content; containers and functions compare by identity. -/
def strictEquals : Value → Value → Bool
  | undefined, undefined => true
  | null, null => true
  | bool a, bool b => a == b
  | number a, number b => a.eq b
  | text a, text b => a == b
  | object a _, object b _ => a == b
  | array a _, array b _ => a == b
  | function a, function b => a.code == b.code
  | _, _ => false

/-- How many conversions may still happen to an operand of `looseEquals`. -/
def conversions : Value → Nat
  | object .. => 2
  | array .. => 2
  | function _ => 2
  | bool _ => 1
  | _ => 0

private theorem conversions_toPrimitive {v : Value} (reference : v.isReference = true) :
    (toPrimitive v).conversions < v.conversions := by
  cases v <;> simp_all [toPrimitive, isReference, conversions]

/-- Equality after conversion: null equals undefined, a boolean counts as its number, a container
against anything else counts as its text, and text against a number counts as its number. -/
def looseEquals (a b : Value) : Bool :=
  if a.kind = b.kind then strictEquals a b
  else if a.isNullish || b.isNullish then a.isNullish && b.isNullish
  else
    match a, b with
    | number x, text s => x.eq (textNumber s)
    | text s, number x => (textNumber s).eq x
    | bool p, b => looseEquals (number (bool p).toNumber) b
    | a, bool q => looseEquals a (number (bool q).toNumber)
    | a, b =>
      if a.isReference && !b.isReference then looseEquals a.toPrimitive b
      else if b.isReference && !a.isReference then looseEquals a b.toPrimitive
      else false
termination_by a.conversions + b.conversions
decreasing_by
  all_goals simp_all [conversions]
  · exact conversions_toPrimitive (by simp_all)
  · exact conversions_toPrimitive (by simp_all)

/-- Strict equality, except that NaN equals itself. -/
def same : Value → Value → Bool
  | number a, number b => (a.isNaN && b.isNaN) || a.eq b
  | a, b => strictEquals a b

end ExprTree.Value
