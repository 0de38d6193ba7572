import ExprTree.Double.Power
import ExprTree.Failure
import ExprTree.Json.Nesting
import ExprTree.Text.Base64
import ExprTree.Text.Percent
import ExprTree.Value.Render

/-! What the standard functions compute. A function that makes a container gets the number under
which the containers of this call are known. -/
namespace ExprTree

/-- The argument at a place, undefined when there is none. -/
def argument (args : List Value) (place : Nat) : Value :=
  args[place]?.getD .undefined

namespace Builtin

/-- The number of a digit sequence in a base: exact below `2^63`, accumulated in binary64 beyond. -/
def digitsNumber (base : Nat) (digits : List Char) : Double :=
  match Numeral.signed64 base digits with
  | .ok n => Double.ofInt n
  | .error _ => radixNumber base digits

/-- Takes the mark of base 16 off. -/
def dropHexMark : List Char → Option (List Char)
  | '0' :: mark :: rest => if mark = 'x' ∨ mark = 'X' then some rest else none
  | _ => none

/-- The longest prefix of base digits. Radix 0 stands for 10, or 16 after the mark `0x`, which
radix 16 skips too. -/
def parseIntIn (text : String) (radix : Int) : Double :=
  let (negative, body) := Numeral.splitSign (Text.trimChars Text.isSpace text.toList)
  let (base, body) :=
    if radix = 0 ∨ radix = 16 then
      match dropHexMark body with
      | some rest => (16, rest)
      | none => (if radix = 0 then 10 else 16, body)
    else (radix, body)
  if base < 2 ∨ 36 < base then .nan
  else
    let digits := body.takeWhile fun c => Numeral.digitValue c < base.toNat
    if digits.isEmpty then .nan
    else
      let size := digitsNumber base.toNat digits
      if negative then size.neg else size

/-- The number of the longest decimal literal or infinity at the front of a text. -/
def parseFloatPrefix (text : String) : Double :=
  let body := Text.trimChars Text.isSpace text.toList
  let (negative, unsigned) := Numeral.splitSign body
  if "Infinity".toList.isPrefixOf unsigned then .infinite negative
  else
    match Numeral.scan body with
    | some (literal, _) => literal.toDouble
    | none => .nan

/-- One step of the maximum: zero counts above negative zero. -/
def larger (best x : Double) : Double :=
  if best.lt x || (x.isZero && best.isZero && !x.signBit) then x else best

/-- One step of the minimum. -/
def smaller (best x : Double) : Double :=
  if x.lt best || (x.isZero && best.isZero && x.signBit) then x else best

/-- Folds numbers, stopping with NaN at the first one. -/
def extreme (pick : Double → Double → Double) : Double → List Double → Double
  | best, [] => best
  | best, x :: rest => if x.isNaN then .nan else extreme pick (pick best x) rest

/-- The indent that the third argument of `JSON.stringify` asks for: up to ten blanks or
characters. -/
def indentOf : Value → String
  | .number x =>
    if x.isNaN then ""
    else
      let count := if x.lt 10 then x else 10
      String.ofList (List.replicate count.toInt.toNat ' ')
  | .text s => String.ofList (s.toList.take 10)
  | _ => ""

def stringify (v space : Value) : Except Failure Value :=
  if v.isSkipped then .ok .undefined
  else
    let shown : Except Json.WriteFault String := do
      let text ← v.write
      let indent := indentOf space
      if indent = "" then .ok (String.ofList text) else Json.layOut indent text
    (shown.map Value.text).mapError .unwritable

/-- An array made by a call, of texts. -/
def textArray (origin : Nat) (texts : List String) : Value :=
  .array (Ref.ofOrigin origin) (texts.map Value.text)

def keysOf (origin : Nat) : Value → Except Failure Value
  | .undefined => .error .nullishToObject
  | .null => .error .nullishToObject
  | .object _ entries => .ok (textArray origin (Entries.keys entries))
  | .array _ items =>
    .ok (textArray origin ((List.range items.length).map fun i => (Double.ofNat i).toText))
  | _ => .ok (textArray origin [])

def valuesOf (origin : Nat) : Value → Except Failure Value
  | .undefined => .error .nullishToObject
  | .null => .error .nullishToObject
  | .object _ entries => .ok (.array (Ref.ofOrigin origin) (Entries.values entries))
  | .array _ items => .ok (.array (Ref.ofOrigin origin) items)
  | _ => .ok (.array (Ref.ofOrigin origin) [])

/-- Applies a standard function. -/
def call (origin : Nat) (b : Builtin) (args : List Value) : Except Failure Value :=
  let first := argument args 0
  let numeric (f : Double → Double) : Except Failure Value := .ok (.number (f first.toNumber))
  match b with
  | toNumber => .ok (.number (if args.isEmpty then .zero false else first.toNumber))
  | toText => .ok (.text (if args.isEmpty then "" else first.toText))
  | toBoolean => .ok (.bool first.truthy)
  | parseInt => .ok (.number (parseIntIn first.toText (argument args 1).toInt32.toInt))
  | parseFloat => .ok (.number (parseFloatPrefix first.toText))
  | isNaN => .ok (.bool first.toNumber.isNaN)
  | isFinite => .ok (.bool first.toNumber.isFinite)
  | mathAbs => numeric Double.abs
  | mathFloor => numeric Double.floor
  | mathCeil => numeric Double.ceil
  | mathTrunc => numeric Double.trunc
  | mathSqrt => numeric Double.sqrt
  | mathRound => numeric Double.round
  | mathSign => numeric Double.sign
  | mathPow => .ok (.number (first.toNumber.pow (argument args 1).toNumber))
  | mathMax => .ok (.number (extreme larger (.infinite true) (args.map Value.toNumber)))
  | mathMin => .ok (.number (extreme smaller (.infinite false) (args.map Value.toNumber)))
  | jsonStringify => stringify first (argument args 2)
  | jsonParse =>
    match Json.parse? first.toText.toList with
    | some document => .ok (Value.ofDatum (Ref.ofOrigin origin) document.toDatum)
    | none => .error .malformedJson
  | objectKeys => keysOf origin first
  | objectValues => valuesOf origin first
  | arrayIsArray => .ok (.bool (first.kind == .array))
  | encodeComponent => .ok (.text (Text.percentEncode first.toText))
  | decodeComponent =>
    match Text.percentDecode? first.toText with
    | some decoded => .ok (.text decoded)
    | none => .error .malformedComponent
  | toBase64 =>
    match Base64.ofText? first.toText with
    | some encoded => .ok (.text encoded)
    | none => .error .outsideLatin
  | ofBase64 =>
    match Base64.toText? first.toText with
    | some decoded => .ok (.text decoded)
    | none => .error .malformedBase64

end Builtin

end ExprTree
