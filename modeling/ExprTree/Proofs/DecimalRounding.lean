import ExprTree.Proofs.DigitRounding
import Mathlib.Algebra.Order.Field.Power
import Mathlib.Tactic.FieldSimp
import Mathlib.Tactic.Positivity

/-!
Which decimals read as a number. Main statements: a decimal reads as a magnitude exactly when it
lies in the rounding interval of the magnitude, and reading keeps the order of decimals.
-/
namespace ExprTree

/-- The rational number that a decimal spells. -/
def Decimal.value (d : Decimal) : ℚ :=
  d.digits * 10 ^ d.exponent

namespace Double

theorem oneUnits_cast_pos : (0 : ℚ) < oneUnits :=
  Nat.cast_pos.mpr oneUnits_pos

theorem tenPower_cast (e : Int) :
    ((tenPower e).1 : ℚ) = 10 ^ e * (4 * oneUnits) * (tenPower e).2 := by
  rcases Int.lt_or_le e 0 with negative | nonneg
  · have power : (10 : ℚ) ^ e * 10 ^ (-e).toNat = 1 := by
      rw [← zpow_natCast, ← zpow_add₀ (by norm_num), Int.toNat_of_nonneg (by omega),
        Int.add_right_neg, zpow_zero]
    rw [tenPower_of_neg negative]
    push_cast
    rw [mul_right_comm, power, one_mul]
  · have power : (10 : ℚ) ^ e.toNat = 10 ^ e := by
      rw [← zpow_natCast, Int.toNat_of_nonneg nonneg]
    rw [tenPower_of_nonneg nonneg]
    push_cast
    rw [power, mul_one]

/-- Decimals are compared by cross products of their fractions. -/
theorem value_le_iff (d d' : Decimal) :
    d.value ≤ d'.value ↔ d.digits * (tenPower d.exponent).1 * (tenPower d'.exponent).2 ≤
      d'.digits * (tenPower d'.exponent).1 * (tenPower d.exponent).2 := by
  have first : (0 : ℚ) < (tenPower d.exponent).2 := Nat.cast_pos.mpr (tenPower_den_pos _)
  have second : (0 : ℚ) < (tenPower d'.exponent).2 := Nat.cast_pos.mpr (tenPower_den_pos _)
  rw [← @Nat.cast_le ℚ]
  push_cast
  rw [tenPower_cast d.exponent, tenPower_cast d'.exponent, Decimal.value, Decimal.value]
  have unit := oneUnits_cast_pos
  generalize (oneUnits : ℚ) = one at *
  generalize ((tenPower d.exponent).2 : ℚ) = den at *
  generalize ((tenPower d'.exponent).2 : ℚ) = den' at *
  have scale : 0 < 4 * one * den * den' := by positivity
  rw [← mul_le_mul_iff_left₀ scale]
  constructor <;> intro le <;> linarith

theorem lt_finite {a b : Nat} (first : Representable a) (second : Representable b) :
    (Double.finite false a first).lt (.finite false b second) = true ↔ a < b := by
  simp [lt, signed]

theorem le_finite {a b : Nat} (first : Representable a) (second : Representable b) :
    (Double.finite false a first).le (.finite false b second) = true ↔ a ≤ b := by
  rw [le, Bool.or_eq_true, lt_finite, Nat.le_iff_lt_or_eq]
  simp [eq, signed]

section Reading

variable (negative : Bool)

theorem ofRatio_ne_nan (num den : Nat) : ofRatio negative num den ≠ .nan := by
  unfold ofRatio
  split <;> simp

private theorem roundUnits_eq_zero {num den : Nat} (positive : 0 < den) (small : 4 * num ≤ den) :
    roundUnits num den = 0 := by
  have least : roundUnits num den ≤ roundUnits 1 4 :=
    roundUnits_mono positive (by decide) (by omega)
  exact Nat.le_zero.mp least

theorem stored_two_pow (k : Nat) : Stored (2 ^ k) := by
  rw [← Nat.one_mul (2 ^ k)]
  exact stored_scaled k (by decide)

private theorem limitUnits_le_roundUnits {num den : Nat} (positive : 0 < den)
    (large : limitUnits * den ≤ num) : limitUnits ≤ roundUnits num den := by
  have stored : Stored limitUnits := by
    rw [limitUnits, twoPow_eq]
    exact stored_two_pow 2098
  calc limitUnits = roundUnits limitUnits 1 := stored.roundUnits_one.symm
    _ ≤ roundUnits num den := roundUnits_mono Nat.one_pos positive (by rwa [Nat.mul_one])

/-- Reading rounds the exact fraction; the guards change nothing. -/
theorem ofDecimal_eq_ofRatio (d : Decimal) :
    ofDecimal negative d =
      ofRatio negative (d.digits * (tenPower d.exponent).1) (4 * (tenPower d.exponent).2) := by
  obtain ⟨n, e⟩ := d
  have den : 0 < 4 * (tenPower e).2 := Nat.mul_pos (by decide) (tenPower_den_pos e)
  unfold ofDecimal
  dsimp only
  split_ifs with none high low nonneg
  · refine (ofRatio_eq negative representable_zero (roundUnits_eq_zero den ?_)).symm
    rw [none, Nat.zero_mul]
    exact Nat.zero_le _
  · have beyond : limitUnits ≤ roundUnits (n * (tenPower e).1) (4 * (tenPower e).2) := by
      refine limitUnits_le_roundUnits den ?_
      have huge : vast ≤ 10 ^ e.toNat := vast_le (by omega)
      have power := Nat.mul_le_mul_right (4 * oneUnits) huge
      have digits := Nat.le_mul_of_pos_left (10 ^ e.toNat * (4 * oneUnits)) (Nat.pos_of_ne_zero none)
      have limit := lt_vast.2
      rw [tenPower_of_nonneg (by omega)]
      dsimp only
      omega
    rw [ofRatio, dif_neg (Nat.not_lt.mpr beyond)]
  · refine (ofRatio_eq negative representable_zero (roundUnits_eq_zero den ?_)).symm
    have split : (-e).toNat = (n.log2 / 3 + 1) + (-(e + (n.log2 / 3 + 1 : Nat))).toNat := by omega
    have tiny : vast ≤ 10 ^ (-(e + (n.log2 / 3 + 1 : Nat))).toNat := vast_le (by omega)
    rw [tenPower_of_neg (by omega)]
    dsimp only
    rw [split, Nat.pow_add]
    refine Nat.mul_le_mul_left 4 (Nat.mul_le_mul (lt_ten_pow n).le ?_)
    exact lt_vast.1.le.trans tiny
  · have same : n * (tenPower e).1 = n * Nat.pow 10 e.toNat * oneUnits * 4 := by
      rw [tenPower_of_nonneg nonneg, Nat.pow_eq]
      ring
    rw [ofUnits, same, tenPower_of_nonneg nonneg]
    exact ofRatio_congr negative (roundUnits_scale _ 1 (by decide)).symm
  · have same : n * (tenPower e).1 = n * oneUnits * 4 := by
      rw [tenPower_of_neg (by omega)]
      ring
    rw [same, tenPower_of_neg (by omega), Nat.mul_comm 4]
    exact ofRatio_congr negative (roundUnits_scale _ _ (by decide)).symm

theorem ofDecimal_ne_nan (d : Decimal) : ofDecimal negative d ≠ .nan := by
  rw [ofDecimal_eq_ofRatio]
  exact ofRatio_ne_nan negative _ _

end Reading

/-- Only what lies in the rounding interval of a magnitude rounds to it: beyond either end another
magnitude is nearer. -/
theorem contains_of_nearest {units num den : Nat} (positive : 0 < units) (nonzero : 0 < den)
    (nearest : NearestUnits num den units) : (interval units).contains (4 * num) den = true := by
  obtain ⟨lead, normal⟩ := nearest.stored.normal
  rw [normal.contains_iff positive]
  have even := nearest.even
  rw [normal.quotient] at even
  have close := nearest.nearest
  have same := normal.same
  have leading := normal.leading
  have fits := normal.fits
  generalize spareBits units = spare at *
  have some : 0 < lead := by
    refine Nat.pos_of_ne_zero fun zero => ?_
    rw [same, zero, Nat.zero_mul] at positive
    exact Nat.lt_irrefl 0 positive
  have step := Nat.two_pow_pos spare
  have next : (lead + 1) * 2 ^ spare = units + 2 ^ spare := by rw [Nat.succ_mul, ← same]
  have above : Stored (units + 2 ^ spare) := next ▸ stored_scaled spare fits
  have upper := close _ above
  have upperTie := even _ above (by omega)
  rw [Nat.add_mul] at upper upperTie
  unfold Nat.dist at upper upperTie
  -- The magnitude below is a step away, or half a step where the steps get smaller.
  obtain ⟨v, lowerStep, stored, less⟩ : ∃ v, 2 * (units - v) = margin lead spare ∧
      Stored v ∧ v < units := by
    unfold margin
    by_cases narrow : spare ≠ 0 ∧ lead = 2 ^ 52
    · obtain ⟨spared, rfl⟩ := narrow
      obtain ⟨fewer, rfl⟩ := Nat.exists_eq_succ_of_ne_zero spared
      have halved : 2 ^ (fewer + 1) = 2 * 2 ^ fewer := Nat.pow_succ'
      have bits := Nat.two_pow_pos fewer
      refine ⟨(2 ^ 53 - 1) * 2 ^ fewer, ?_, stored_scaled fewer (by decide), ?_⟩
      · rw [if_pos ⟨spared, rfl⟩, same]
        omega
      · omega
    · refine ⟨(lead - 1) * 2 ^ spare, ?_, stored_scaled spare (by omega), ?_⟩
      · rw [if_neg narrow, Nat.sub_mul, ← same]
        have := normal.step_le positive
        omega
      · rw [Nat.sub_mul, ← same]
        have := normal.step_le positive
        omega
  have lower := close _ stored
  have lowerTie := even _ stored less.ne
  unfold Nat.dist at lower lowerTie
  have scaled : margin lead spare * den = 2 * (units * den - v * den) := by
    rw [← lowerStep, Nat.mul_assoc, Nat.sub_mul]
  have order : v * den < units * den := Nat.mul_lt_mul_of_pos_right less nonzero
  have width : 0 < 2 ^ spare * den := Nat.mul_pos step nonzero
  rw [scaled, Nat.mul_assoc 4, Nat.mul_assoc 2 (2 ^ spare)]
  exact ⟨by omega, by omega, fun ends => ends.elim (fun low => lowerTie (by omega))
    fun high => upperTie (by omega)⟩

section Within

variable {units : Nat} {d : Decimal}

theorem within_iff_roundUnits (fits : Representable units) (positive : 0 < units) :
    Within units d ↔
      roundUnits (d.digits * (tenPower d.exponent).1) (4 * (tenPower d.exponent).2) = units := by
  have den := tenPower_den_pos d.exponent
  have quarters : 0 < 4 * (tenPower d.exponent).2 := Nat.mul_pos (by decide) den
  have same : (interval units).contains (d.digits * (tenPower d.exponent).1) (tenPower d.exponent).2 =
      (interval units).contains (4 * (d.digits * (tenPower d.exponent).1))
        (4 * (tenPower d.exponent).2) :=
    Interval.contains_congr _ den quarters (by ring)
  unfold Within
  rw [same]
  constructor
  · exact roundUnits_of_contains fits positive quarters
  · intro rounded
    refine contains_of_nearest positive quarters ?_
    have nearest := roundUnits_nearest (d.digits * (tenPower d.exponent).1) quarters
    rwa [rounded] at nearest

/-- A decimal reads as a magnitude exactly when it lies in its rounding interval. -/
theorem ofDecimal_eq_iff (negative : Bool) (fits : Representable units) (positive : 0 < units) :
    ofDecimal negative d = .finite negative units fits ↔ Within units d := by
  refine ⟨fun reads => (within_iff_roundUnits fits positive).mpr ?_,
    ofDecimal_of_within negative fits positive⟩
  rw [ofDecimal_eq_ofRatio, ofRatio] at reads
  split at reads
  · exact (Double.finite.inj reads).2
  · cases reads

/-- Reading keeps the order of decimals. -/
theorem le_of_value_le {units' : Nat} {d' : Decimal} (fits : Representable units)
    (fits' : Representable units') (positive : 0 < units) (positive' : 0 < units')
    (inside : Within units d) (inside' : Within units' d') (le : d.value ≤ d'.value) :
    units ≤ units' := by
  rw [within_iff_roundUnits fits positive] at inside
  rw [within_iff_roundUnits fits' positive'] at inside'
  rw [← inside, ← inside']
  refine roundUnits_mono (Nat.mul_pos (by decide) (tenPower_den_pos _))
    (Nat.mul_pos (by decide) (tenPower_den_pos _)) ?_
  have crossed := Nat.mul_le_mul_left 4 ((value_le_iff d d').mp le)
  linarith

end Within

end Double

end ExprTree
