/-!
Binary64 numbers with exact arithmetic. A finite magnitude is a count of units of `2^-1074`, the
smallest positive step, so that sums, remainders and comparisons are those of natural numbers and
every inexact operation is one exact quotient followed by one rounding.
-/
namespace ExprTree

namespace Double

/-- A power of two. The two constants below are too large to be written out in digits. -/
def twoPow (bits : Nat) : Nat := Nat.pow 2 bits

/-- The number one, in units. -/
def oneUnits : Nat := twoPow 1074

/-- The first power of two, in units, that lies beyond the finite range. -/
def limitUnits : Nat := twoPow 2098

/-- How many low bits a magnitude has to leave zero: all but the leading 53. -/
def spareBits (units : Nat) : Nat := units.log2 - 52

/-- A magnitude that is stored without rounding. -/
def Representable (units : Nat) : Prop :=
  units < limitUnits ∧ Nat.pow 2 (spareBits units) ∣ units

instance (units : Nat) : Decidable (Representable units) :=
  inferInstanceAs (Decidable (_ ∧ _))

/-- The integer nearest to `num / den`; a half goes to the even neighbour. -/
def nearestEven (num den : Nat) : Nat :=
  let low := num / den
  let rest := 2 * (num % den)
  if rest < den ∨ (rest = den ∧ low % 2 = 0) then low else low + 1

/-- The multiple of a power of two nearest to `num / den` that has at most 53 significant bits. -/
def roundUnits (num den : Nat) : Nat :=
  let step := Nat.pow 2 (spareBits (num / den))
  nearestEven num (den * step) * step

theorem nearestEven_le (num den : Nat) : nearestEven num den ≤ num / den + 1 := by
  unfold nearestEven
  dsimp only
  split <;> omega

/-- The quotient that is rounded has at most 53 bits. -/
theorem quotient_lt (num den : Nat) :
    num / (den * Nat.pow 2 (spareBits (num / den))) < Nat.pow 2 53 := by
  simp only [Nat.pow_eq]
  rw [← Nat.div_div_eq_div_mul, Nat.div_lt_iff_lt_mul (Nat.two_pow_pos _), ← Nat.pow_add]
  refine Nat.lt_of_lt_of_le Nat.lt_log2_self (Nat.pow_le_pow_right (by decide) ?_)
  unfold spareBits
  omega

/-- At most 53 bits leave the spare bits zero, whatever power of two they are scaled by. -/
theorem spare_dvd_scaled (digits spare : Nat) (small : digits ≤ Nat.pow 2 53) :
    Nat.pow 2 (spareBits (digits * Nat.pow 2 spare)) ∣ digits * Nat.pow 2 spare := by
  simp only [Nat.pow_eq] at small ⊢
  rcases Nat.eq_or_lt_of_le small with full | below
  · subst full
    rw [← Nat.pow_add, spareBits, Nat.log2_two_pow]
    exact Nat.pow_dvd_pow 2 (by omega)
  · by_cases zero : digits = 0
    · subst zero
      simp
    · refine Nat.dvd_trans (Nat.pow_dvd_pow 2 ?_) (Nat.dvd_mul_left _ _)
      have positive : digits * 2 ^ spare ≠ 0 := by
        have := Nat.two_pow_pos spare
        exact Nat.mul_ne_zero zero (by omega)
      have bound : digits * 2 ^ spare < 2 ^ (53 + spare) := by
        rw [Nat.pow_add]
        exact Nat.mul_lt_mul_of_pos_right below (Nat.two_pow_pos spare)
      have := (Nat.log2_lt positive).2 bound
      unfold spareBits
      omega

/-- Rounding leaves the spare bits zero. -/
theorem spare_dvd_roundUnits (num den : Nat) :
    Nat.pow 2 (spareBits (roundUnits num den)) ∣ roundUnits num den := by
  apply spare_dvd_scaled
  have := nearestEven_le num (den * Nat.pow 2 (spareBits (num / den)))
  have := quotient_lt num den
  omega

end Double

/-- A binary64 number. There is one NaN; zero has a sign. -/
inductive Double where
  | nan
  | infinite (negative : Bool)
  | finite (negative : Bool) (units : Nat) (fits : Double.Representable units)
  deriving DecidableEq

namespace Double

/-- The number nearest to `± num / den` units, an infinity when that is beyond the finite range. -/
def ofRatio (negative : Bool) (num den : Nat) : Double :=
  if small : roundUnits num den < limitUnits then
    .finite negative (roundUnits num den) ⟨small, spare_dvd_roundUnits num den⟩
  else
    .infinite negative

/-- The number nearest to a whole count of units. -/
def ofUnits (negative : Bool) (units : Nat) : Double :=
  ofRatio negative units 1

/-- The number nearest to a natural number. -/
def ofNat (n : Nat) : Double :=
  ofUnits false (n * oneUnits)

/-- The number nearest to an integer. -/
def ofInt (i : Int) : Double :=
  ofUnits (i < 0) (i.natAbs * oneUnits)

theorem twoPow_pos (bits : Nat) : 0 < twoPow bits :=
  Nat.two_pow_pos bits

theorem representable_zero : Representable 0 :=
  ⟨twoPow_pos _, Nat.dvd_zero _⟩

/-- Positive or negative zero. -/
def zero (negative : Bool) : Double :=
  .finite negative 0 representable_zero

instance : Inhabited Double := ⟨zero false⟩
instance (n : Nat) : OfNat Double n := ⟨ofNat n⟩

def isNaN : Double → Bool
  | nan => true
  | _ => false

def isFinite : Double → Bool
  | finite .. => true
  | _ => false

def isZero : Double → Bool
  | finite _ units _ => units == 0
  | _ => false

/-- The sign bit; NaN has none. -/
def signBit : Double → Bool
  | nan => false
  | infinite negative => negative
  | finite negative _ _ => negative

/-- The same magnitude with another sign. -/
def withSign (negative : Bool) : Double → Double
  | nan => nan
  | infinite _ => infinite negative
  | finite _ units fits => finite negative units fits

def neg : Double → Double
  | nan => nan
  | infinite negative => infinite !negative
  | finite negative units fits => finite (!negative) units fits

def abs (x : Double) : Double :=
  x.withSign false

/-- A magnitude with its sign, as an integer count of units. -/
def signed (negative : Bool) (units : Nat) : Int :=
  if negative then -(units : Int) else units

/-- A sum of zero is negative only when both summands are. -/
def add : Double → Double → Double
  | nan, _ => nan
  | _, nan => nan
  | infinite s, infinite t => if s = t then infinite s else nan
  | infinite s, finite .. => infinite s
  | finite .., infinite t => infinite t
  | finite s a _, finite t b _ =>
    let sum := signed s a + signed t b
    if sum = 0 then zero (s && t) else ofUnits (sum < 0) sum.natAbs

def sub (x y : Double) : Double :=
  x.add y.neg

def mul : Double → Double → Double
  | nan, _ => nan
  | _, nan => nan
  | infinite s, infinite t => infinite (s != t)
  | infinite s, finite t b _ => if b = 0 then nan else infinite (s != t)
  | finite s a _, infinite t => if a = 0 then nan else infinite (s != t)
  | finite s a _, finite t b _ => ofRatio (s != t) (a * b) oneUnits

def div : Double → Double → Double
  | nan, _ => nan
  | _, nan => nan
  | infinite _, infinite _ => nan
  | infinite s, finite t _ _ => infinite (s != t)
  | finite s _ _, infinite t => zero (s != t)
  | finite s a _, finite t b _ =>
    if b = 0 then
      if a = 0 then nan else infinite (s != t)
    else
      ofRatio (s != t) (a * oneUnits) b

/-- The remainder of the division that truncates; it has the sign of the dividend. -/
def rem : Double → Double → Double
  | nan, _ => nan
  | _, nan => nan
  | infinite _, _ => nan
  | finite s a fits, infinite _ => finite s a fits
  | finite s a _, finite _ b _ => if b = 0 then nan else ofUnits s (a % b)

/-- Numeric equality: NaN differs from itself and the two zeros agree. -/
def eq : Double → Double → Bool
  | nan, _ => false
  | _, nan => false
  | infinite s, infinite t => s == t
  | finite s a _, finite t b _ => signed s a == signed t b
  | _, _ => false

/-- Numeric order; false as soon as one side is NaN. -/
def lt : Double → Double → Bool
  | nan, _ => false
  | _, nan => false
  | infinite s, infinite t => s && !t
  | infinite s, finite .. => s
  | finite .., infinite t => !t
  | finite s a _, finite t b _ => signed s a < signed t b

def le (x y : Double) : Bool :=
  x.lt y || x.eq y

/-- Toward zero. -/
def trunc : Double → Double
  | finite s a _ => ofUnits s (a / oneUnits * oneUnits)
  | x => x

def floor : Double → Double
  | finite s a _ =>
    if s && a % oneUnits != 0 then ofUnits s ((a / oneUnits + 1) * oneUnits)
    else ofUnits s (a / oneUnits * oneUnits)
  | x => x

def ceil (x : Double) : Double :=
  x.neg.floor.neg

/-- The integer part of a finite number, zero for the others. -/
def toInt : Double → Int
  | finite s a _ => signed s (a / oneUnits)
  | _ => 0

/-- One half. -/
def half : Double := ofRatio false oneUnits 2

/-- To the nearest integer; a half goes up, and a zero keeps the sign of the argument. -/
def round : Double → Double
  | finite s a fits =>
    let x := finite s a fits
    let below := x.floor
    let near := if half.le (x.sub below) then below.add 1 else below
    if near.isZero then zero s else near
  | x => x

/-- The sign as a number; NaN and the zeros are returned unchanged. -/
def sign (x : Double) : Double :=
  if x.isNaN || x.isZero then x
  else if x.signBit then (1 : Double).neg else 1

/-- The residue of the integer part modulo `2^32`: its remainder, raised by `2^32` when that is
negative, and zero where there is nothing to divide. -/
def wrapped (x : Double) : Double :=
  if !x.isFinite || x.isZero then zero false
  else
    let rest := x.trunc.rem (ofNat (Nat.pow 2 32))
    if rest.lt (zero false) then rest.add (ofNat (Nat.pow 2 32)) else rest

def toUInt32 (x : Double) : UInt32 :=
  UInt32.ofNat x.wrapped.toInt.toNat

def toInt32 (x : Double) : Int32 :=
  x.toUInt32.toInt32

end Double

end ExprTree
