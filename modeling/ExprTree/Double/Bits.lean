import ExprTree.Double

/-! The interchange form of a number: one sign bit, eleven bits for the power and 52 for the digits
behind the leading one. -/
namespace ExprTree.Double

/-- How many patterns share one power. -/
def digitPatterns : Nat := Nat.pow 2 52

/-- The pattern of a magnitude. The counts of units below `2^52` stand for themselves; above, the
power counts the spare bits and the leading digit is left out. -/
def magnitudeBits (units : Nat) : Nat :=
  if units < digitPatterns then units
  else spareBits units * digitPatterns + units / Nat.pow 2 (spareBits units)

/-- The magnitude of a pattern whose power is not the greatest. -/
def magnitudeUnits (bits : Nat) : Nat :=
  if bits / digitPatterns = 0 then bits
  else (digitPatterns + bits % digitPatterns) * Nat.pow 2 (bits / digitPatterns - 1)

/-- The pattern of infinity without its sign. -/
def infinityBits : Nat := 2047 * digitPatterns

/-- The 64 bits of a number, as a natural number. -/
def toBits : Double → Nat
  | nan => infinityBits + Nat.pow 2 51
  | infinite negative => (if negative then Nat.pow 2 63 else 0) + infinityBits
  | finite negative units _ => (if negative then Nat.pow 2 63 else 0) + magnitudeBits units

/-- The number of 64 bits. -/
def ofBits (bits : Nat) : Double :=
  let negative := bits / Nat.pow 2 63 % 2 == 1
  let pattern := bits % Nat.pow 2 63
  if infinityBits < pattern then nan
  else if pattern = infinityBits then infinite negative
  else ofUnits negative (magnitudeUnits pattern)

end ExprTree.Double
