import ExprTree.Double.Bits
import ExprTree.Text.Utf8
import ExprTree.Wire
import ExprTree.Wire.Field

/-!
The binary form of protocol values. A value is a message in which one field, the kind, is set;
fields that are not known are passed over. Of several kinds the last counts, but a struct or list
that comes again goes on where it was, and in a struct the last value of a key counts.
-/
namespace ExprTree.Wire

/-- Why octets are no message. -/
inductive CodecFault where
  | malformed
  | tooDeep
  | notUtf8
  deriving DecidableEq, Repr

def CodecFault.message : CodecFault → String
  | malformed => "proto: cannot parse invalid wire-format data"
  | tooDeep => "proto: exceeded maximum recursion depth"
  | notUtf8 => "string field contains invalid UTF-8"

/-- How many messages may stand in each other. -/
def nestingLimit : Nat := 10000

/-- A field of text. -/
def textOf (octets : List UInt8) : Except CodecFault String :=
  match Utf8.decode? octets with
  | some chars => .ok (String.ofList chars)
  | none => .error .notUtf8

/-- Goes through the fields of a message in turn. A field that is out of order is found out only
after those before it are read. -/
def foldFields (step : α → Field → Except CodecFault α) (start : α) (octets : List UInt8) :
    Except CodecFault α := do
  let (fields, complete) := Field.scan octets
  let last ← fields.foldlM step start
  if complete then .ok last else .error .malformed

/-- The fields of a struct that goes on, none after another kind. -/
def structSoFar : Wire → List (String × Wire)
  | .struct fields => fields
  | _ => []

/-- The items of a list that goes on, none after another kind. -/
def listSoFar : Wire → List Wire
  | .list items => items
  | _ => []

mutual

/-- Reads a value message on top of what was read before. -/
def readValue : Nat → Wire → List UInt8 → Except CodecFault Wire
  | 0, _, _ => .error .tooDeep
  | depth + 1, before, octets =>
    foldFields (fun value field =>
      match field.number, field.payload with
      | 1, .varint _ => .ok .null
      | 2, .fixed64 bits => .ok (.number (Double.ofBits bits))
      | 3, .octets content => do .ok (.text (← textOf content))
      | 4, .varint n => .ok (.bool (n != 0))
      | 5, .octets content => do .ok (.struct (← readStruct depth (structSoFar value) content))
      | 6, .octets content => do .ok (.list (← readList depth (listSoFar value) content))
      | _, _ => .ok value) before octets

/-- Reads a struct message: each field is an entry with a key and a value. -/
def readStruct : Nat → List (String × Wire) → List UInt8 → Except CodecFault (List (String × Wire))
  | 0, _, _ => .error .tooDeep
  | depth + 1, before, octets =>
    foldFields (fun entries field =>
      match field.number, field.payload with
      | 1, .octets content => do
        let (key, value) ← foldFields (fun (key, value) part =>
          match part.number, part.payload with
          | 1, .octets name => do .ok (← textOf name, value)
          | 2, .octets body => do .ok (key, ← readValue depth value body)
          | _, _ => .ok (key, value)) ("", Wire.unset) content
        .ok (Entries.set entries key value)
      | _, _ => .ok entries) before octets

/-- Reads a list message, whose fields are value messages. -/
def readList : Nat → List Wire → List UInt8 → Except CodecFault (List Wire)
  | 0, _, _ => .error .tooDeep
  | depth + 1, before, octets =>
    foldFields (fun items field =>
      match field.number, field.payload with
      | 1, .octets content => do .ok (items ++ [← readValue depth .unset content])
      | _, _ => .ok items) before octets

end

/-- The value of a message. -/
def decode (octets : List UInt8) : Except CodecFault Wire :=
  readValue nestingLimit .unset octets

/-- The fields of a struct message. -/
def decodeStruct (octets : List UInt8) : Except CodecFault (List (String × Wire)) :=
  readStruct nestingLimit [] octets

mutual

/-- The message of a value. -/
def encode : Wire → List UInt8
  | .unset => []
  | .null => Field.writeVarint 1 0
  | .number x => Field.writeFixed 2 x.toBits
  | .text s => Field.writeOctets 3 (Utf8.encode s.toList)
  | .bool b => Field.writeVarint 4 (if b then 1 else 0)
  | .struct fields => Field.writeOctets 5 (encodeStruct fields)
  | .list items => Field.writeOctets 6 (encodeList items)

/-- The message of the fields of a struct. -/
def encodeStruct : List (String × Wire) → List UInt8
  | [] => []
  | (key, value) :: rest =>
    Field.writeOctets 1
        (Field.writeOctets 1 (Utf8.encode key.toList) ++ Field.writeOctets 2 (encode value))
      ++ encodeStruct rest

/-- The message of the items of a list. -/
def encodeList : List Wire → List UInt8
  | [] => []
  | item :: rest => Field.writeOctets 1 (encode item) ++ encodeList rest

end

/-- The octets of a struct message, which holds no text that is not UTF-8. -/
def marshal (fields : List (String × Wire)) : Except CodecFault (List UInt8) :=
  if (brokenField? fields).isSome then .error .notUtf8 else .ok (encodeStruct fields)

end ExprTree.Wire
