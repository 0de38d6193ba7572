/-! UTF-8 as a decoder on octets. Each octet that starts no character is reported on its own, so
one pass serves the strict reader and the one that puts U+FFFD in place of bad octets. -/
namespace ExprTree.Utf8

/-- What stands in place of an octet that belongs to no character. -/
def replacement : Char := '\uFFFD'

/-- Whether an octet continues a character. -/
def isTail (octet : UInt8) : Bool :=
  0x80 ≤ octet && octet < 0xC0

/-- The six bits a continuing octet carries. -/
def tailBits (octet : UInt8) : Nat :=
  octet.toNat % 64

/-- The character with a code point, if there is one. -/
def scalar? (code : Nat) : Option Char :=
  if valid : code.isValidChar then some (Char.ofNatAux code valid) else none

/-- The character of two octets. -/
def two? (a b : UInt8) : Option Char :=
  if 0xC2 ≤ a && a < 0xE0 && isTail b then scalar? (a.toNat % 32 * 64 + tailBits b) else none

/-- The character of three octets; shorter forms of a character are refused. -/
def three? (a b c : UInt8) : Option Char :=
  let code := (a.toNat % 16 * 64 + tailBits b) * 64 + tailBits c
  if 0xE0 ≤ a && a < 0xF0 && isTail b && isTail c && 0x800 ≤ code then scalar? code else none

/-- The character of four octets; shorter forms of a character are refused. -/
def four? (a b c d : UInt8) : Option Char :=
  let code := ((a.toNat % 8 * 64 + tailBits b) * 64 + tailBits c) * 64 + tailBits d
  if 0xF0 ≤ a && a < 0xF5 && isTail b && isTail c && isTail d && 0x10000 ≤ code then scalar? code
  else none

/-- The character at the front and how many octets follow its first. -/
def first? : List UInt8 → Option (Char × Nat)
  | [] => none
  | a :: rest =>
    if a < 0x80 then (scalar? a.toNat).map (·, 0)
    else
      match rest with
      | [] => none
      | [b] => (two? a b).map (·, 1)
      | [b, c] => (two? a b).map (·, 1) <|> (three? a b c).map (·, 2)
      | b :: c :: d :: _ =>
        (two? a b).map (·, 1) <|> (three? a b c).map (·, 2) <|> (four? a b c d).map (·, 3)

/-- The pieces of what is left once the given number of octets is passed over. -/
def piecesAfter : Nat → List UInt8 → List (Option Char)
  | _, [] => []
  | passed + 1, _ :: rest => piecesAfter passed rest
  | 0, a :: rest =>
    match first? (a :: rest) with
    | some (c, more) => some c :: piecesAfter more rest
    | none => none :: piecesAfter 0 rest

/-- The characters of an octet sequence, with `none` for each octet that starts no character. -/
def pieces (octets : List UInt8) : List (Option Char) :=
  piecesAfter 0 octets

/-- The text of an octet sequence that is UTF-8 throughout. -/
def decode? (octets : List UInt8) : Option (List Char) :=
  (pieces octets).mapM id

/-- The text of an octet sequence with U+FFFD for each bad octet. -/
def decodeLossy (octets : List UInt8) : List Char :=
  (pieces octets).map (·.getD replacement)

def encode (text : List Char) : List UInt8 :=
  text.flatMap String.utf8EncodeChar

end ExprTree.Utf8
