import ExprTree.Double

/-!
Decimal text of binary64 numbers. Reading rounds the exact decimal once. Writing takes the fewest
digits that read back: on the grids of 1, 2, ... 17 digits the two neighbours of the number are
tried, and the first grid with a neighbour inside the rounding interval gives the digits.
-/
namespace ExprTree

/-- The number `digits * 10 ^ exponent`. -/
structure Decimal where
  digits : Nat
  exponent : Int
  deriving DecidableEq, Repr

namespace Double

/-- The number nearest to a decimal. The two guards only avoid powers of ten that are far outside
the range: a decimal above `10^400` is infinite and one below `10^-400` is zero. -/
def ofDecimal (negative : Bool) (d : Decimal) : Double :=
  if d.digits = 0 then zero negative
  else if 400 < d.exponent then infinite negative
  else if d.exponent + (d.digits.log2 / 3 + 1 : Nat) < -400 then zero negative
  else if 0 ≤ d.exponent then ofUnits negative (d.digits * Nat.pow 10 d.exponent.toNat * oneUnits)
  else ofRatio negative (d.digits * oneUnits) (Nat.pow 10 (-d.exponent).toNat)

/-- The reals that round to a magnitude, in quarters of a unit; the ends belong to it when `closed`. -/
structure Interval where
  low : Nat
  high : Nat
  closed : Bool

/-- Half a step on both sides, a quarter below a power of two, where the steps get smaller. -/
def interval (units : Nat) : Interval :=
  let step := Nat.pow 2 (spareBits units)
  let narrow := spareBits units ≠ 0 ∧ units = Nat.pow 2 52 * step
  { low := 4 * units - (if narrow then step else 2 * step)
    high := 4 * units + 2 * step
    closed := units / step % 2 == 0 }

/-- Whether `num / den` quarters lie in the interval. -/
def Interval.contains (i : Interval) (num den : Nat) : Bool :=
  if i.closed then i.low * den ≤ num && num ≤ i.high * den
  else i.low * den < num && num < i.high * den

/-- The power of ten `10 ^ exponent` in quarters of a unit, as a fraction. -/
def tenPower (exponent : Int) : Nat × Nat :=
  if 0 ≤ exponent then (Nat.pow 10 exponent.toNat * (4 * oneUnits), 1)
  else (4 * oneUnits, Nat.pow 10 (-exponent).toNat)

/-- The multiple of `10 ^ exponent` next to a magnitude that lies in its interval: the nearer one if
both neighbours do, the even one if they are equally near. -/
def onGrid? (units : Nat) (exponent : Int) : Option Nat :=
  let (num, den) := tenPower exponent
  let low := 4 * units * den / num
  let rest := 4 * units * den % num
  let lowFits := (interval units).contains (low * num) den
  let highFits := (interval units).contains ((low + 1) * num) den
  if lowFits && highFits then
    if 2 * rest < num ∨ (2 * rest = num ∧ low % 2 = 0) then some low else some (low + 1)
  else if lowFits then some low
  else if highFits then some (low + 1)
  else none

/-- The least `p`, from `start` on, with the magnitude below `10 ^ p`. -/
def pointFrom (units : Nat) : Nat → Int → Int
  | 0, start => start
  | fuel + 1, start =>
    let (num, den) := tenPower start
    if 4 * units * den < num then start else pointFrom units fuel (start + 1)

/-- How many digits a positive magnitude has before the point, zero or negative below one tenth. -/
def point (units : Nat) : Int :=
  pointFrom units 5 (((units.log2 : Int) - 1074) * 30103 / 100000 - 1)

/-- Removes the zeros at the end of the digits. -/
def Decimal.stripZeros : Nat → Decimal → Decimal
  | 0, d => d
  | fuel + 1, d =>
    if d.digits % 10 = 0 then stripZeros fuel ⟨d.digits / 10, d.exponent + 1⟩ else d

/-- The decimal with the fewest digits, from `count` digits on, that rounds to a magnitude. -/
def shortestFrom (units : Nat) (top : Int) : Nat → Nat → Decimal
  | 0, count => ⟨(onGrid? units (top - count)).getD 0, top - count⟩
  | fuel + 1, count =>
    match onGrid? units (top - count) with
    | some digits => Decimal.stripZeros 20 ⟨digits, top - count⟩
    | none => shortestFrom units top fuel (count + 1)

/-- The decimal with the fewest digits that rounds to a positive magnitude. -/
def shortest (units : Nat) : Decimal :=
  shortestFrom units (point units) 17 1

/-- Digits with a point after the first `place` of them, padded with zeros on the side that needs
them. -/
def positional (digits : List Char) (place : Int) : List Char :=
  if place ≤ 0 then
    '0' :: '.' :: (List.replicate (-place).toNat '0' ++ digits)
  else
    let whole := digits.take place.toNat
    let fraction := digits.drop place.toNat
    let padded := whole ++ List.replicate (place.toNat - whole.length) '0'
    if fraction.isEmpty then padded else padded ++ '.' :: fraction

/-- One digit before the point, then the signed power of ten. -/
def scientific (digits : List Char) (place : Int) : List Char :=
  let mantissa :=
    match digits with
    | first :: second :: rest => first :: '.' :: second :: rest
    | short => short
  let power := place - 1
  mantissa ++ 'e' :: (if power < 0 then '-' else '+') :: (toString power.natAbs).toList

/-- The text of a number: positional from one millionth up to `10^21`, scientific outside, and
`0` for both zeros. -/
def toText : Double → String
  | nan => "NaN"
  | infinite negative => if negative then "-Infinity" else "Infinity"
  | finite negative units fits =>
    if units = 0 then "0"
    else
      let d := shortest units
      let digits := (toString d.digits).toList
      let place := d.exponent + digits.length
      let magnitude := finite false units fits
      let body :=
        if (ofDecimal false ⟨1, -6⟩).le magnitude && magnitude.lt (ofDecimal false ⟨1, 21⟩) then
          positional digits place
        else
          scientific digits place
      String.ofList (if negative then '-' :: body else body)

end Double

end ExprTree
