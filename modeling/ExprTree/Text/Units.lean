import ExprTree.Text.Utf8

/-! UTF-16 code units: length, indexing and order of texts count these, whatever the texts are
stored as. -/
namespace ExprTree.Text

/-- One unit for a character of the basic plane, a surrogate pair for the others. -/
def charUnits (c : Char) : List Nat :=
  let code := c.toNat
  if code < 0x10000 then [code]
  else [0xD800 + (code - 0x10000) / 0x400, 0xDC00 + (code - 0x10000) % 0x400]

def units (text : String) : List Nat :=
  text.toList.flatMap charUnits

/-- The character a unit reads as on its own; half of a pair reads as U+FFFD. -/
def unitChar (unit : Nat) : Char :=
  (Utf8.scalar? unit).getD Utf8.replacement

/-- Lexicographic order. -/
def compareCodes : List Nat → List Nat → Ordering
  | [], [] => .eq
  | [], _ :: _ => .lt
  | _ :: _, [] => .gt
  | a :: as, b :: bs => if a < b then .lt else if b < a then .gt else compareCodes as bs

def isAscii (text : String) : Bool :=
  text.toList.all fun c => c.toNat < 0x80

/-- Orders two texts by code units. Where every character is one octet the characters are compared
as they stand. -/
def compare (a b : String) : Ordering :=
  if isAscii a && isAscii b then
    compareCodes (a.toList.map Char.toNat) (b.toList.map Char.toNat)
  else
    compareCodes (units a) (units b)

end ExprTree.Text
