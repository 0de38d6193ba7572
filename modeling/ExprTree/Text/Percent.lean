import ExprTree.Numeral
import ExprTree.Text.Utf8

/-! Percent escapes of a text used as one component of an address. Escapes stand for octets, and
the octets of the whole text have to be UTF-8 again. -/
namespace ExprTree.Text

/-- Characters that stand for themselves. -/
def isUnreserved (c : Char) : Bool :=
  c.isAlphanum || c ∈ ['-', '_', '.', '!', '~', '*', '\'', '(', ')']

def upperHexDigit (n : Nat) : Char :=
  if n < 10 then Char.ofNat ('0'.toNat + n) else Char.ofNat ('A'.toNat + (n - 10))

/-- An octet as itself or as its escape. -/
def percentOctet (octet : UInt8) : List Char :=
  let c := Char.ofNat octet.toNat
  if octet < 0x80 && isUnreserved c then [c]
  else ['%', upperHexDigit (octet.toNat / 16), upperHexDigit (octet.toNat % 16)]

def percentEncode (text : String) : String :=
  String.ofList ((Utf8.encode text.toList).flatMap percentOctet)

/-- The octets of a text in which escapes stand for one octet each; a percent sign that starts no
escape is refused. -/
def percentOctets? : List Char → Option (List UInt8)
  | [] => some []
  | '%' :: a :: b :: rest =>
    if Numeral.digitValue a < 16 && Numeral.digitValue b < 16 then
      (percentOctets? rest).map
        (UInt8.ofNat (Numeral.digitValue a * 16 + Numeral.digitValue b) :: ·)
    else none
  | c :: rest =>
    if c = '%' then none else (percentOctets? rest).map (String.utf8EncodeChar c ++ ·)

def percentDecode? (text : String) : Option String :=
  ((percentOctets? text.toList).bind Utf8.decode?).map String.ofList

end ExprTree.Text
