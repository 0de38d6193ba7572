import ExprTree.Brotli.Code

/-!
Contexts of symbols. The code of a literal depends on the two octets in front of it and that of a
distance on the length of the copy; a map from contexts says which code it is.
-/
namespace ExprTree.Brotli

open Deflate (Read Code bit bits)

/-- The class of an ASCII character in front of a literal: blanks, marks, digits, letters. -/
def asciiClasses : Array Nat :=
  #[0, 0, 0, 0, 0, 0, 0, 0, 0, 1, 1, 0, 0, 1, 0, 0, 0, 0, 0, 0, 0, 0, 0, 0, 0, 0, 0, 0, 0, 0, 0, 0,
    2, 3, 4, 3, 3, 5, 3, 4, 6, 7, 3, 3, 8, 3, 9, 3, 11, 11, 11, 11, 11, 11, 11, 11, 11, 11, 8, 8, 6,
    10, 7, 3, 3, 12, 13, 13, 13, 12, 13, 13, 13, 12, 13, 13, 13, 13, 13, 12, 13, 13, 13, 13, 13, 12,
    13, 13, 13, 13, 13, 6, 3, 7, 3, 3, 3, 14, 15, 15, 15, 14, 15, 15, 15, 14, 15, 15, 15, 15, 15,
    14, 15, 15, 15, 15, 15, 14, 15, 15, 15, 15, 15, 6, 3, 7, 3, 0]

/-- What the last octet of a text says of the next one. -/
def nearClass (octet : Nat) : Nat :=
  if octet < 128 then 4 * asciiClasses.getD octet 0
  else if octet < 192 then octet % 2
  else 2 + octet % 2

def isDigitOrCapital (octet : Nat) : Bool :=
  (48 ≤ octet && octet < 58) || (65 ≤ octet && octet < 91)

/-- What the octet before the last one of a text says of the next one. -/
def farClass (octet : Nat) : Nat :=
  if octet ≤ 32 || (127 ≤ octet && octet < 224) then 0
  else if 97 ≤ octet && octet < 123 then 3
  else if isDigitOrCapital octet || 224 ≤ octet then 2
  else 1

/-- The size class of an octet that holds a number with a sign. -/
def signedClass (octet : Nat) : Nat :=
  ([1, 16, 64, 128, 192, 240, 255].filter (· ≤ octet)).length

/-- The context of a literal, below 64, in one of four modes. -/
def literalContext (mode last beforeLast : Nat) : Nat :=
  match mode with
  | 0 => last % 64
  | 1 => last / 4
  | 2 => nearClass last ||| farClass beforeLast
  | _ => 8 * signedClass last + signedClass beforeLast

/-- The context of a distance, below 4. -/
def distanceContext (length : Nat) : Nat := min (length - 2) 3

/-- The entries of a map. Symbols up to `longest` stand for rows of zeros, the others for one entry.
Each step adds an entry. -/
def mapEntries (code : Code) (longest size : Nat) : Nat → Array Nat → Read (Array Nat)
  | 0, _ => throw invalid
  | fuel + 1, done => do
    if done.size = size then pure done
    else
      let next ← symbol code
      if next = 0 || longest < next then
        mapEntries code longest size fuel (done.push (next - longest))
      else
        let count := Nat.pow 2 next + (← bits next)
        if size < done.size + count then throw invalid
        mapEntries code longest size fuel (done ++ Array.replicate count 0)

/-- Values from their places in a list in which each value read moves to the front. -/
def fromPlaces : List Nat → List Nat → List Nat
  | _, [] => []
  | values, place :: rest =>
    let value := values.getD place 0
    value :: fromPlaces (value :: values.eraseIdx place) rest

/-- The number of codes and the map from contexts to them. -/
def contextMap (size : Nat) : Read (Nat × Array Nat) := do
  let codes := (← smallNumber) + 1
  if codes = 1 then pure (1, Array.replicate size 0)
  else
    let longest ← if (← bit) = 0 then pure 0 else do pure ((← bits 4) + 1)
    let code ← readCode (codes + longest)
    let entries ← mapEntries code longest size (size + 1) #[]
    let moved ← bit
    if moved = 0 then pure (codes, entries)
    else pure (codes, (fromPlaces (List.range 256) entries.toList).toArray)

end ExprTree.Brotli
