/-! Base64 with the letters of the standard alphabet. The reader takes a text without padding; what
is left of a last group of two or three letters below a full octet is dropped. -/
namespace ExprTree.Base64

/-- The letter of a value below 64. -/
def letter (n : Nat) : Char :=
  if n < 26 then Char.ofNat ('A'.toNat + n)
  else if n < 52 then Char.ofNat ('a'.toNat + (n - 26))
  else if n < 62 then Char.ofNat ('0'.toNat + (n - 52))
  else if n = 62 then '+'
  else '/'

/-- The value of a letter. -/
def value? (c : Char) : Option Nat :=
  if 'A' ≤ c ∧ c ≤ 'Z' then some (c.toNat - 'A'.toNat)
  else if 'a' ≤ c ∧ c ≤ 'z' then some (c.toNat - 'a'.toNat + 26)
  else if '0' ≤ c ∧ c ≤ '9' then some (c.toNat - '0'.toNat + 52)
  else if c = '+' then some 62
  else if c = '/' then some 63
  else none

/-- Four letters for three octets, with padding in the last group. -/
def encode : List Nat → List Char
  | [] => []
  | [a] => [letter (a / 4), letter (a % 4 * 16), '=', '=']
  | [a, b] => [letter (a / 4), letter (a % 4 * 16 + b / 16), letter (b % 16 * 4), '=']
  | a :: b :: c :: rest =>
    letter (a / 4) :: letter (a % 4 * 16 + b / 16) :: letter (b % 16 * 4 + c / 64)
      :: letter (c % 64) :: encode rest

/-- The octets of a list of letter values; one letter alone is no octet. -/
def octets? : List Nat → Option (List Nat)
  | [] => some []
  | [_] => none
  | [a, b] => some [a * 4 + b / 16]
  | [a, b, c] => some [a * 4 + b / 16, b % 16 * 16 + c / 4]
  | a :: b :: c :: d :: rest =>
    (octets? rest).map fun more =>
      (a * 4 + b / 16) :: (b % 16 * 16 + c / 4) :: (c % 4 * 64 + d) :: more

def decode? (text : List Char) : Option (List Nat) :=
  (text.mapM value?).bind octets?

/-- The octets of a text, when each of its characters is one. -/
def latin? (text : String) : Option (List Nat) :=
  text.toList.mapM fun c => if c.toNat ≤ 0xFF then some c.toNat else none

/-- Encodes a text whose characters are octets. -/
def ofText? (text : String) : Option String :=
  (latin? text).map fun octets => String.ofList (encode octets)

def isBlank (c : Char) : Bool :=
  c == ' ' || c == '\t' || c == '\n' || c == '\x0c' || c == '\r'

/-- Decodes to one character for each octet. Blanks are skipped wherever they stand, and padding at
the end is not looked at. -/
def toText? (text : String) : Option String :=
  let letters := text.toList.filter fun c => !isBlank c
  let body := (letters.reverse.dropWhile (· == '=')).reverse
  (decode? body).map fun octets => String.ofList (octets.map Char.ofNat)

end ExprTree.Base64
