import ExprTree.Double.Decimal

/-!
Estimates of decimals. Digits that fit one word of 64 bits are multiplied by the first bits of their
power of ten. The product settles how the decimal rounds, unless the bits cut off could change it or
the result is no normal number.
-/
namespace ExprTree.Decimal

/-- The numbers that a word of 64 bits can hold. -/
def wordSize : Nat := Nat.pow 2 64

/-- The first 128 bits of `10 ^ exponent`. -/
def powerBits (exponent : Int) : Nat :=
  let power := Nat.pow 10 exponent.natAbs
  let size := power.log2 + 1
  if exponent < 0 then Nat.pow 2 (127 + size) / power
  else if size ≤ 128 then power * Nat.pow 2 (128 - size)
  else power / Nat.pow 2 (size - 128)

/-- The first two words of `digits * 10 ^ exponent`, for digits that fill a word. The second word of
the power is only looked at where it may carry into the bits that a number keeps; `none` if what is
behind it may do so too. -/
def product? (digits : Nat) (exponent : Int) : Option Nat :=
  let power := powerBits exponent
  let near := digits * (power / wordSize)
  if near / wordSize % 512 = 511 ∧ wordSize ≤ near % wordSize + digits then
    let far := digits * (power % wordSize)
    let wider := near + far / wordSize
    if wider / wordSize % 512 = 511 ∧ wider % wordSize + 1 = wordSize
        ∧ wordSize ≤ far % wordSize + digits then none
    else some wider
  else some near

/-- Whether a product of two words is no middle between two numbers and gives a normal number: `scale`
is the stored exponent of the number if the product filled its words. -/
def roundsToNormal (product : Nat) (scale : Int) : Bool :=
  let high := product / wordSize
  let top := high / Nat.pow 2 63
  let kept := high / Nat.pow 2 (top + 9)
  let middle := product % wordSize = 0 ∧ high % 512 = 0 ∧ kept % 4 = 1
  let carry := (kept + kept % 2) / Nat.pow 2 54
  let stored := scale - 1 + top + carry
  !middle && 1 ≤ stored && stored ≤ 2046

/-- Whether the estimate of a decimal tells the number nearest to it. There are estimates for powers
of ten from `10 ^ -348` to `10 ^ 347`. -/
def settles (d : Decimal) : Bool :=
  if d.exponent < -348 ∨ 347 < d.exponent then false
  else
    let lift := 63 - d.digits.log2
    match product? (d.digits * Nat.pow 2 lift) d.exponent with
    | none => false
    | some product => roundsToNormal product (d.exponent * 217706 / 65536 + 1087 - lift)

end ExprTree.Decimal
