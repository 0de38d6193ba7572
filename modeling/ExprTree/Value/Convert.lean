import ExprTree.Numeral
import ExprTree.Text.Space
import ExprTree.Value

/-! Conversion of values to booleans, numbers and text. Containers go through their text form. -/
namespace ExprTree

/-- Digits of a base accumulated in binary64, rounding at each digit; NaN unless all of them are
digits of the base and there is one. -/
def radixNumber (base : Nat) (digits : List Char) : Double :=
  if digits.isEmpty || digits.any (fun c => base ≤ Numeral.digitValue c) then .nan
  else digits.foldl
    (fun sum c => (sum.mul (Double.ofNat base)).add (Double.ofNat (Numeral.digitValue c)))
    (.zero false)

/-- The base that a literal's mark names. -/
def radixOfMark? (c : Char) : Option Nat :=
  if c = 'x' ∨ c = 'X' then some 16
  else if c = 'o' ∨ c = 'O' then some 8
  else if c = 'b' ∨ c = 'B' then some 2
  else none

/-- The number a trimmed text spells as a decimal literal, NaN if it is none. -/
def decimalNumber (body : List Char) : Double :=
  (Numeral.decimal? body).getD .nan

/-- The number a text spells: nothing is zero, and everything but a decimal literal, an infinity or
digits after a base mark is NaN. -/
def textNumber (text : String) : Double :=
  let body := Text.trimChars Text.isSpace text.toList
  if body.isEmpty then .zero false
  else if body = "Infinity".toList ∨ body = "+Infinity".toList then .infinite false
  else if body = "-Infinity".toList then .infinite true
  else
    match body with
    | '0' :: mark :: c :: rest =>
      match radixOfMark? mark with
      | some base => radixNumber base (c :: rest)
      | none => decimalNumber body
    | _ => decimalNumber body

namespace Value

mutual

/-- The text form. An array is its items joined by commas, where null and undefined leave nothing;
an object shows only that it is one. -/
def toText : Value → String
  | undefined => "undefined"
  | null => "null"
  | bool b => if b then "true" else "false"
  | number x => x.toText
  | text s => s
  | object .. => "[object Object]"
  | array _ items => ",".intercalate (itemTexts items)
  | function f => "function " ++ f.name ++ "() \x7b [native code] \x7d"

def itemTexts : List Value → List String
  | [] => []
  | item :: rest => (if item.isNullish then "" else toText item) :: itemTexts rest

end

/-- Values without identity are kept; the others become their text form. -/
def toPrimitive (v : Value) : Value :=
  if v.isReference then text v.toText else v

def truthy : Value → Bool
  | undefined => false
  | null => false
  | bool b => b
  | number x => !(x.isZero || x.isNaN)
  | text s => s != ""
  | _ => true

def toNumber (v : Value) : Double :=
  match v with
  | undefined => .nan
  | null => .zero false
  | bool b => if b then 1 else .zero false
  | number x => x
  | text s => textNumber s
  | v => textNumber v.toText

def toUInt32 (v : Value) : UInt32 :=
  v.toNumber.toUInt32

def toInt32 (v : Value) : Int32 :=
  v.toNumber.toInt32

end Value

end ExprTree
