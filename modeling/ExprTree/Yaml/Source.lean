import ExprTree.Text.Utf8

/-!
The characters of a YAML stream. A byte order mark selects UTF-16, and without one the octets are
UTF-8. The octets are decoded in portions; a portion that holds anything but YAML characters cannot
be read at all, and everything before it can.
-/
namespace ExprTree.Yaml

structure Source where
  chars : Array Char
  /-- How many characters there are up to the end of each portion. -/
  ends : List Nat
  /-- What follows the characters cannot be read. -/
  broken : Bool

/-- How the octets spell characters. -/
inductive Encoding where
  | utf8
  | utf16 (bigEndian : Bool)
  deriving DecidableEq, Repr

/-- Characters that may occur in a stream. -/
def isAllowed (c : Char) : Bool :=
  let code := c.toNat
  code == 0x09 || code == 0x0A || code == 0x0D || (0x20 ≤ code && code ≤ 0x7E) || code == 0x85
    || (0xA0 ≤ code && code ≤ 0xFFFD) || 0x10000 ≤ code

/-- What stands at the front of a portion. -/
inductive Front where
  | char (c : Char) (size : Nat)
  /-- The portion ends inside a character. -/
  | cut
  | bad

/-- How many octets a character has by its first one. -/
def utf8Size? (first : UInt8) : Option Nat :=
  if first < 0x80 then some 1
  else if 0xC0 ≤ first && first < 0xE0 then some 2
  else if 0xE0 ≤ first && first < 0xF0 then some 3
  else if 0xF0 ≤ first && first < 0xF8 then some 4
  else none

def utf8Front (octets : List UInt8) : Front :=
  match octets with
  | [] => .cut
  | first :: _ =>
    match utf8Size? first with
    | none => .bad
    | some size =>
      if (octets.take size).length < size then .cut
      else
        match Utf8.first? octets with
        | some (c, more) => if more + 1 = size then .char c size else .bad
        | none => .bad

def unit16 (bigEndian : Bool) (a b : UInt8) : Nat :=
  if bigEndian then a.toNat * 256 + b.toNat else b.toNat * 256 + a.toNat

def utf16Front (bigEndian : Bool) (octets : List UInt8) : Front :=
  match octets with
  | a :: b :: rest =>
    let unit := unit16 bigEndian a b
    if 0xDC00 ≤ unit ∧ unit < 0xE000 then .bad
    else if 0xD800 ≤ unit ∧ unit < 0xDC00 then
      match rest with
      | c :: d :: _ =>
        let low := unit16 bigEndian c d
        if 0xDC00 ≤ low ∧ low < 0xE000 then
          .char (Char.ofNat (0x10000 + (unit - 0xD800) * 0x400 + (low - 0xDC00))) 4
        else .bad
      | _ => .cut
    else .char (Char.ofNat unit) 2
  | _ => .cut

def front (encoding : Encoding) (octets : List UInt8) : Front :=
  match encoding with
  | .utf8 => utf8Front octets
  | .utf16 bigEndian => utf16Front bigEndian octets

/-- The characters of a portion and how many octets they take; `none` if the portion is bad. -/
def decodePortion (encoding : Encoding) : Nat → List UInt8 → Nat → List Char →
    Option (Nat × List Char)
  | 0, _, size, done => some (size, done)
  | fuel + 1, octets, size, done =>
    match front encoding octets with
    | .cut => some (size, done)
    | .bad => none
    | .char c width =>
      if isAllowed c then decodePortion encoding fuel (octets.drop width) (size + width) (c :: done)
      else none

/-- Decodes portion by portion, and tells whether a bad one ends the list. A character cut off by
the end of the stream makes a bad portion. -/
def decodeAll (encoding : Encoding) : Nat → Nat → List UInt8 → List (List Char) × Bool
  | 0, _, _ => ([], false)
  | fuel + 1, room, octets =>
    if octets.isEmpty then ([], false)
    else
      match decodePortion encoding (room + 1) (octets.take room) 0 [] with
      | none => ([], true)
      | some (0, _) => ([], true)
      | some (size, chars) =>
        let (portions, broken) := decodeAll encoding fuel portionSize (octets.drop size)
        (chars.reverse :: portions, broken)
where
  portionSize : Nat := 512

/-- Where portions end that follow a number of characters. -/
def portionEnds : Nat → List (List Char) → List Nat
  | _, [] => []
  | start, chars :: rest => (start + chars.length) :: portionEnds (start + chars.length) rest

/-- The encoding and the octets behind the byte order mark. -/
def detect : List UInt8 → Encoding × Nat
  | 0xFF :: 0xFE :: _ => (.utf16 false, 2)
  | 0xFE :: 0xFF :: _ => (.utf16 true, 2)
  | 0xEF :: 0xBB :: 0xBF :: _ => (.utf8, 3)
  | _ => (.utf8, 0)

def Source.ofOctets (octets : List UInt8) : Source :=
  let (encoding, markSize) := detect octets
  let (portions, broken) :=
    decodeAll encoding (octets.length + 1) (decodeAll.portionSize - markSize) (octets.drop markSize)
  ⟨portions.flatten.toArray, portionEnds 0 portions, broken⟩

end ExprTree.Yaml
