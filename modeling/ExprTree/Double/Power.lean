import ExprTree.Double

/-!
Square roots and powers. A root is taken of an integer with several hundred spare bits and rounded
once. A power with a whole exponent is a product of repeated squares, each rounded; one with a
fraction in its exponent is a product of repeated squares and roots that are carried with far more
bits than the result keeps, so that the one rounding at the end decides it.
-/
namespace ExprTree

/-- The integer part of the square root, by Newton's iteration from above. -/
def floorSqrt (n : Nat) : Nat :=
  go (n.log2 + 2) (Nat.pow 2 (n.log2 / 2 + 1))
where
  go : Nat → Nat → Nat
    | 0, guess => guess
    | fuel + 1, guess =>
      let next := (guess + n / guess) / 2
      if next < guess then go fuel next else guess

namespace Double

/-- The nearest number to the square root; the bit appended below the integer root records whether
anything was cut off. -/
def sqrt : Double → Double
  | nan => nan
  | infinite negative => if negative then nan else infinite false
  | finite negative units fits =>
    if units = 0 then finite negative units fits
    else if negative then nan
    else
      let square := units * oneUnits
      let root := floorSqrt square
      let cut := if root * root = square then 0 else 1
      ofRatio false (2 * root + cut) 2

/-- A positive number `digits * 2 ^ exponent` during the computation of a power. -/
structure Wide where
  digits : Nat
  exponent : Int

namespace Wide

/-- Bits that are kept after each step. -/
def precision : Nat := 384

/-- Drops the bits beyond the kept ones. -/
def cut (x : Wide) : Wide :=
  let extra := x.digits.log2 + 1 - precision
  ⟨x.digits / Nat.pow 2 extra, x.exponent + extra⟩

def mul (x y : Wide) : Wide :=
  cut ⟨x.digits * y.digits, x.exponent + y.exponent⟩

def sqrt (x : Wide) : Wide :=
  let shift := 2 * precision + (x.exponent % 2).toNat
  cut ⟨floorSqrt (x.digits * Nat.pow 2 shift), (x.exponent - shift) / 2⟩

def inv (x : Wide) : Wide :=
  let shift := x.digits.log2 + 1 + precision
  cut ⟨Nat.pow 2 shift / x.digits, -(x.exponent + shift)⟩

/-- `base ^ n` by repeated squaring over the bits of `n`. -/
def powNat (base : Wide) : Nat → Nat → Wide
  | 0, _ => ⟨1, 0⟩
  | fuel + 1, n =>
    if n = 0 then ⟨1, 0⟩
    else
      let rest := powNat (base.mul base) fuel (n / 2)
      if n % 2 = 1 then base.mul rest else rest

/-- `base ^ (numerator / Nat.pow 2 places)` for a numerator below `2 ^ places`, by repeated roots. -/
def powFraction (base : Wide) : Nat → Nat → Wide
  | 0, _ => ⟨1, 0⟩
  | places + 1, numerator =>
    let root := base.sqrt
    let rest := powFraction root places (numerator % Nat.pow 2 places)
    if numerator / Nat.pow 2 places = 1 then root.mul rest else rest

/-- The nearest binary64 number, with the given sign. -/
def toDouble (negative : Bool) (x : Wide) : Double :=
  let scaled := x.exponent + 1074
  if 4000 < scaled + x.digits.log2 then .infinite negative
  else if scaled + x.digits.log2 < -4000 then .zero negative
  else if 0 ≤ scaled then ofUnits negative (x.digits * Nat.pow 2 scaled.toNat)
  else ofRatio negative x.digits (Nat.pow 2 (-scaled).toNat)

end Wide

/-- The power of two magnitudes in units, the first not zero and the second with a fraction below
`2 ^ 64`. -/
def fractionalPower (invert : Bool) (base exponent : Nat) : Double :=
  let whole := exponent / oneUnits
  let fraction := exponent % oneUnits / Nat.pow 2 (1074 - 128)
  let wide : Wide := ⟨base, -1074⟩
  let product := (wide.powNat 65 whole).mul (wide.powFraction 128 fraction)
  (if invert then product.inv else product).toDouble false

/-- The number nearest to `x * 2 ^ e`. -/
def scale : Double → Int → Double
  | finite negative units _, e =>
    if 0 ≤ e then ofUnits negative (units * Nat.pow 2 e.toNat)
    else ofRatio negative units (Nat.pow 2 (-e).toNat)
  | x, _ => x

/-- A number as a fraction from one half up to one, with its sign, times a power of two. -/
structure Split where
  fraction : Double
  exponent : Int

namespace Split

def one : Split := ⟨1, 0⟩

/-- The parts of a finite number that is not zero. -/
def ofDouble : Double → Split
  | finite negative units _ =>
    let size := units.log2 + 1
    ⟨ofRatio negative (units * oneUnits) (Nat.pow 2 size), (size : Int) - 1074⟩
  | x => ⟨x, 0⟩

/-- Multiplies the fractions, which may leave one below one half. -/
def times (x y : Split) : Split :=
  ⟨x.fraction.mul y.fraction, x.exponent + y.exponent⟩

def squared (x : Split) : Split :=
  let fraction := x.fraction.mul x.fraction
  if fraction.lt half then ⟨fraction.add fraction, 2 * x.exponent - 1⟩
  else ⟨fraction, 2 * x.exponent⟩

/-- Multiplies by `base ^ n` over the bits of `n`, from the lowest one. Once the exponent of the
square is far out of range, it alone decides the result. -/
def timesPower (product base : Split) : Nat → Nat → Split
  | 0, _ => product
  | bits + 1, n =>
    if n = 0 then product
    else if base.exponent < -4096 ∨ 4096 < base.exponent then
      ⟨product.fraction, product.exponent + base.exponent⟩
    else timesPower (if n % 2 = 1 then product.times base else product) base.squared bits (n / 2)

/-- The reciprocal, or the product itself, as a number. -/
def toDouble (x : Split) (invert : Bool) : Double :=
  if invert then ((1 : Double).div x.fraction).scale (-x.exponent) else x.fraction.scale x.exponent

end Split

/-- Whether a finite number is an odd integer. -/
def isOddInteger : Double → Bool
  | finite _ units _ => units % oneUnits == 0 && units / oneUnits % 2 == 1
  | _ => false

/-- The power of zero with a sign, whose exponent is not zero. -/
def powZero (negative : Bool) (y : Double) : Double :=
  if y.lt (zero false) then infinite (negative && y.isOddInteger)
  else zero (negative && y.isOddInteger)

/-- The power of two finite numbers other than zero. The exponent decides alone when it is `2 ^ 63`
or more. For an exponent with a fraction the library multiplies by an exponential of a logarithm
whose last bits depend on the machine: the nearest number stands in for its result. -/
def powFinite (x : Double) (invert : Bool) (exponent : Nat) : Double :=
  let whole := exponent / oneUnits
  if exponent % oneUnits ≠ 0 then
    match x with
    | finite false base _ => fractionalPower invert base exponent
    | _ => nan
  else if Nat.pow 2 63 ≤ whole then
    if x.eq (neg 1) then 1
    else if x.abs.lt 1 = !invert then zero false
    else infinite false
  else (Split.one.timesPower (Split.ofDouble x) 63 whole).toDouble invert

/-- The power of two numbers as the library has it. -/
def powStandard (x y : Double) : Double :=
  if y.isZero || x.eq 1 then 1
  else if y.eq 1 then x
  else
    match x, y with
    | nan, _ => nan
    | _, nan => nan
    | x, infinite down =>
      if x.eq (neg 1) then 1
      else if x.abs.lt 1 = !down then zero false
      else infinite false
    | infinite s, y => powZero s y.neg
    | x, finite t exponent fits =>
      let y := finite t exponent fits
      if x.isZero then powZero x.signBit y
      else if y.abs = half then if t then (1 : Double).div x.sqrt else x.sqrt
      else powFinite x t exponent

/-- The power of two numbers. NaN, and an infinite exponent over a base of magnitude one, give
NaN. -/
def pow (x y : Double) : Double :=
  if y.isNaN || (!y.isFinite && x.abs.eq 1) then nan else x.powStandard y

end Double

end ExprTree
