import ExprTree.Double.Decimal

/-! Binary32 numbers as the binary64 numbers that equal them. -/
namespace ExprTree.Double

/-- The binary32 number nearest to `± num / den` units of `2^-149`: 24 significant bits, infinite
from `2^128` on. -/
def singleOfRatio (negative : Bool) (num den : Nat) : Double :=
  let step := Nat.pow 2 ((num / den).log2 - 23)
  let units := nearestEven num (den * step) * step
  if units < Nat.pow 2 277 then ofUnits negative (units * Nat.pow 2 (1074 - 149)) else infinite negative

/-- The binary32 number nearest to a decimal. -/
def singleOfDecimal (negative : Bool) (d : Decimal) : Double :=
  if d.digits = 0 then zero negative
  else if 400 < d.exponent then infinite negative
  else if d.exponent + (d.digits.log2 / 3 + 1 : Nat) < -400 then zero negative
  else if 0 ≤ d.exponent then singleOfRatio negative (d.digits * Nat.pow 10 d.exponent.toNat * Nat.pow 2 149) 1
  else singleOfRatio negative (d.digits * Nat.pow 2 149) (Nat.pow 10 (-d.exponent).toNat)

end ExprTree.Double
