import ExprTree.Builtin.Call
import ExprTree.Proofs.IntegerPart

/-!
Rounding to an integer, a half going up. A number is split into the integer below it and a rest of
less than one. The rest may be rounded when it is computed, but never across one half: from one half
on rounding keeps the order, and a smaller rest is a multiple of the last bit of the number and no
longer than it, so that it is exact. Adding one is exact too, since a number with a rest has few
integer digits.
-/
namespace ExprTree

namespace Double

/-- The number one half, in units. -/
def halfUnits : Nat := twoPow 1073

private theorem oneUnits_halves : oneUnits = halfUnits * 2 := by
  rw [oneUnits_eq, halfUnits, twoPow_eq, ← Nat.pow_succ]

private theorem stored_halfUnits : Stored halfUnits := by
  rw [halfUnits, twoPow_eq]
  exact stored_two_pow 1073

private theorem representable_half : Representable halfUnits := by
  refine stored_halfUnits.representable ?_
  rw [halfUnits, twoPow_eq]
  exact two_pow_lt_twoPow (by decide)

private theorem oneUnits_lt_limitUnits : oneUnits < limitUnits := by
  rw [oneUnits_eq]
  exact two_pow_lt_twoPow (by decide)

private theorem half_eq : half = .finite false halfUnits representable_half := by
  have rounded : roundUnits (halfUnits * 2) (1 * 2) = halfUnits := by
    rw [roundUnits_scale _ _ Nat.two_pos]
    exact stored_halfUnits.roundUnits_one
  rw [half, oneUnits_halves]
  exact ofRatio_eq false representable_half rounded

private theorem signed_mul (negative : Bool) (n k : Nat) :
    signed negative (n * k) = signed negative n * k := by
  cases negative <;> simp [signed]

private theorem quotient_oneUnits (n : Nat) {rest : Nat} (less : rest < oneUnits) :
    (n * oneUnits + rest) / oneUnits = n := by
  rw [Nat.add_comm, Nat.add_mul_div_right _ _ oneUnits_pos, Nat.div_eq_of_lt less, Nat.zero_add]

private theorem zero_eq (negative : Bool) {units : Nat} (fits : Representable units)
    (none : units = 0) :
    zero negative = .finite negative units fits := by
  subst none
  rfl

/-- A zero that takes the sign it has stays as it is. -/
theorem zero_of_isZero (negative : Bool) {units : Nat} (fits : Representable units) :
    (if (Double.finite negative units fits).isZero then zero negative
      else .finite negative units fits) = .finite negative units fits := by
  split
  · rename_i none
    exact zero_eq negative fits (by simpa [isZero] using none)
  · rfl

section Split

variable {negative : Bool} {units : Nat} {i : Int} {rest : Nat}

/-- The units of a number as a whole number of ones and a rest. -/
structure SplitAt (negative : Bool) (units : Nat) (i : Int) (rest : Nat) : Prop where
  same : signed negative units = i * oneUnits + rest
  less : rest < oneUnits

private theorem exists_splitAt (negative : Bool) (units : Nat) :
    ∃ i rest, SplitAt negative units i rest := by
  have positive : (0 : Int) < oneUnits := Int.natCast_pos.mpr oneUnits_pos
  have low := Int.emod_nonneg (signed negative units) positive.ne'
  have high := Int.emod_lt_of_pos (signed negative units) positive
  refine ⟨signed negative units / oneUnits, (signed negative units % oneUnits).toNat, ?_, by omega⟩
  rw [Int.toNat_of_nonneg low, Int.mul_comm]
  exact (Int.mul_ediv_add_emod _ _).symm

/-- The integer below a number has its sign, unless it is zero. -/
theorem SplitAt.whole (split : SplitAt negative units i rest) : signed negative i.natAbs = i := by
  obtain ⟨same, less⟩ := split
  have positive := oneUnits_pos
  cases negative with
  | false =>
    have nonneg : 0 ≤ i := by
      by_contra below
      have : i * oneUnits ≤ -1 * oneUnits := Int.mul_le_mul_of_nonneg_right (by omega) (by omega)
      simp only [signed, Bool.false_eq_true, if_false] at same
      omega
    simp only [signed, Bool.false_eq_true, if_false]
    omega
  | true =>
    have nonpos : i ≤ 0 := by
      by_contra above
      have : 1 * (oneUnits : Int) ≤ i * oneUnits :=
        Int.mul_le_mul_of_nonneg_right (by omega) (by omega)
      simp only [signed, if_true] at same
      omega
    simp only [signed, if_true]
    omega

/-- A number without a minus is the integer below it and the rest. -/
theorem SplitAt.above (split : SplitAt false units i rest) :
    units = i.natAbs * oneUnits + rest := by
  have same := split.same
  rw [← split.whole] at same
  generalize i.natAbs = n at same ⊢
  simp only [signed, Bool.false_eq_true, if_false] at same
  exact_mod_cast same

/-- A negative number is the magnitude of the integer below it, less the rest. -/
theorem SplitAt.below (split : SplitAt true units i rest) : i.natAbs * oneUnits = units + rest := by
  have same := split.same
  rw [← split.whole] at same
  generalize i.natAbs = n at same ⊢
  simp only [signed, if_true, Int.neg_mul] at same
  zify
  omega

private theorem SplitAt.natAbs_pos (split : SplitAt true units i rest) (some : rest ≠ 0) :
    0 < i.natAbs := by
  refine Nat.pos_of_mul_pos_right (b := oneUnits) ?_
  rw [split.below]
  omega

variable (split : SplitAt negative units i rest)
include split

private theorem SplitAt.not_dvd (some : rest ≠ 0) : ¬ oneUnits ∣ units := by
  intro divides
  have multiple : oneUnits ∣ i.natAbs * oneUnits := Nat.dvd_mul_left _ _
  have other : oneUnits ∣ rest := by
    cases negative with
    | false => exact (Nat.dvd_add_right multiple).mp (split.above ▸ divides)
    | true => exact (Nat.dvd_add_right divides).mp (split.below ▸ multiple)
  exact some (Nat.eq_zero_of_dvd_of_lt other split.less)

variable (fits : Representable units)
include fits

/-- A number with a rest has at most 53 binary digits in front of the point. -/
theorem SplitAt.natAbs_le (some : rest ≠ 0) : i.natAbs ≤ 2 ^ 53 ∧ (i + 1).natAbs ≤ 2 ^ 53 := by
  obtain ⟨lead, normal⟩ := fits.normal
  have fine : spareBits units < 1074 := by
    by_contra coarse
    refine split.not_dvd some (Nat.dvd_trans ?_ fits.stored)
    exact twoPow_dvd_two_pow (by omega)
  have step : 2 ^ spareBits units * 2 ≤ oneUnits := by
    rw [← Nat.pow_succ]
    exact two_pow_le_twoPow fine
  have below : units < 2 ^ 53 * 2 ^ spareBits units :=
    normal.same.trans_lt (Nat.mul_lt_mul_of_pos_right normal.fits (Nat.two_pow_pos _))
  have few : 2 * i.natAbs < 2 ^ 53 + 2 := by
    refine Nat.lt_of_mul_lt_mul_right (a := oneUnits) ?_
    have less := split.less
    rw [Nat.mul_assoc, Nat.add_mul]
    cases negative with
    | false =>
      have parts := split.above
      omega
    | true =>
      have parts := split.below
      omega
  omega

theorem SplitAt.representable : Representable (i.natAbs * oneUnits) := by
  by_cases none : rest = 0
  · subst none
    have same : i.natAbs * oneUnits = units := by
      cases negative with
      | false => rw [split.above, Nat.add_zero]
      | true => rw [split.below, Nat.add_zero]
    rwa [same]
  · exact representable_small (split.natAbs_le fits none).1

private theorem SplitAt.floor_eq :
    floor (.finite negative units fits) =
      .finite negative (i.natAbs * oneUnits) (split.representable fits) := by
  have less := split.less
  rw [← ofUnits_of_representable (split.representable fits), floor]
  cases negative with
  | false =>
    have quotient : units / oneUnits = i.natAbs := by
      rw [split.above, quotient_oneUnits _ less]
    simp only [Bool.false_eq_true, if_false, Bool.false_and, quotient]
  | true =>
    have parts := split.below
    simp only [Bool.true_and, bne_iff_ne]
    by_cases none : rest = 0
    · rw [none, Nat.add_zero] at parts
      rw [if_neg (by simp [← parts]), ← parts, Nat.mul_div_cancel _ oneUnits_pos]
    · have some : units % oneUnits ≠ 0 := fun zero =>
        split.not_dvd none (Nat.dvd_of_mod_eq_zero zero)
      obtain ⟨n, next⟩ := Nat.exists_eq_add_one.mpr (split.natAbs_pos none)
      rw [next, Nat.succ_mul] at parts
      have quotient : units / oneUnits = n := by
        have same : units = n * oneUnits + (oneUnits - rest) := by omega
        rw [same, quotient_oneUnits _ (by omega)]
      rw [if_pos some, quotient, next]

/-- What lies above the integer below is computed with one rounding. -/
theorem SplitAt.sub_floor :
    (Double.finite negative units fits).sub (floor (.finite negative units fits)) =
      ofUnits false rest := by
  have sum : signed negative units + signed (!negative) (i.natAbs * oneUnits) = rest := by
    simp only [signed]
    cases negative with
    | false =>
      have parts := split.above
      simp only [Bool.false_eq_true, Bool.not_false, if_true, if_false]
      omega
    | true =>
      have parts := split.below
      simp only [Bool.not_true, Bool.false_eq_true, if_true, if_false]
      omega
  rw [split.floor_eq fits, sub, neg, add]
  simp only [sum]
  by_cases none : rest = 0
  · rw [none, ofUnits_of_representable representable_zero]
    cases negative <;> rfl
  · rw [if_neg (by omega), decide_eq_false (by omega), Int.natAbs_natCast]

/-- A rest below one half is a multiple of the last bit of the number. -/
theorem SplitAt.stored_rest (small : 2 * rest < oneUnits) : Stored rest := by
  have le : rest ≤ units := by
    cases negative with
    | false => exact split.above ▸ Nat.le_add_left _ _
    | true =>
      by_contra more
      have parts := split.below
      have none : i.natAbs < 1 := by
        refine Nat.lt_of_mul_lt_mul_right (a := oneUnits) ?_
        omega
      rw [Nat.lt_one_iff.mp none] at parts
      omega
  have inUnits : 2 ^ spareBits rest ∣ units :=
    (Nat.pow_dvd_pow 2 (spareBits_mono le)).trans fits.stored
  have inOne : 2 ^ spareBits rest ∣ oneUnits := by
    rw [oneUnits_eq]
    apply Nat.pow_dvd_pow
    calc spareBits rest ≤ spareBits oneUnits := spareBits_mono split.less.le
      _ ≤ oneUnits.log2 := Nat.sub_le _ _
      _ = 1074 := log2_oneUnits
  have inWhole : 2 ^ spareBits rest ∣ i.natAbs * oneUnits := inOne.mul_left _
  unfold Stored
  cases negative with
  | false => exact (Nat.dvd_add_right inWhole).mp (split.above ▸ inUnits)
  | true => exact (Nat.dvd_add_right inUnits).mp (split.below ▸ inWhole)

/-- The rounding of the rest does not cross one half. -/
theorem SplitAt.half_le :
    half.le ((Double.finite negative units fits).sub (floor (.finite negative units fits))) =
      decide (oneUnits ≤ 2 * rest) := by
  have halves := oneUnits_halves
  rw [split.sub_floor fits, half_eq]
  by_cases small : 2 * rest < oneUnits
  · have exact : Representable rest :=
      (split.stored_rest fits small).representable (split.less.trans oneUnits_lt_limitUnits)
    rw [ofUnits_of_representable exact, Bool.eq_iff_iff, le_finite, decide_eq_true_eq]
    omega
  · have large : halfUnits ≤ roundUnits rest 1 := by
      rw [← stored_halfUnits.roundUnits_one]
      apply roundUnits_mono Nat.one_pos Nat.one_pos
      omega
    rw [decide_eq_true (Nat.le_of_not_lt small), ofUnits, ofRatio]
    split
    · exact (le_finite _ _).mpr large
    · rfl

omit fits in
/-- The integer above a number that is none has the sign of the number too, unless it is zero. -/
theorem SplitAt.next (some : rest ≠ 0) : signed negative (i + 1).natAbs = i + 1 := by
  have whole := split.whole
  cases negative with
  | false =>
    simp only [signed, Bool.false_eq_true, if_false] at whole ⊢
    omega
  | true =>
    have positive := split.natAbs_pos some
    simp only [signed, if_true] at whole ⊢
    omega

private theorem SplitAt.add_one (some : rest ≠ 0) :
    (Double.finite negative (i.natAbs * oneUnits) (split.representable fits)).add 1 =
      if i + 1 = 0 then zero false
      else .finite negative ((i + 1).natAbs * oneUnits)
        (representable_small (split.natAbs_le fits some).2) := by
  have one : (1 : Double) = .finite false (1 * oneUnits) (representable_small (by decide)) :=
    @ofNat_small 1 (by decide)
  have sum : signed negative (i.natAbs * oneUnits) + signed false (1 * oneUnits) =
      signed negative ((i + 1).natAbs * oneUnits) := by
    rw [signed_mul, signed_mul, signed_mul, split.whole, split.next some, Int.add_mul]
    rfl
  rw [one, add]
  simp only [sum]
  by_cases none : i + 1 = 0
  · rw [if_pos none, none, Int.natAbs_zero, Nat.zero_mul, Bool.and_false]
    cases negative <;> rfl
  · have positive : 0 < (i + 1).natAbs * oneUnits := Nat.mul_pos (by omega) oneUnits_pos
    have apart : signed negative ((i + 1).natAbs * oneUnits) ≠ 0 ∧
        decide (signed negative ((i + 1).natAbs * oneUnits) < 0) = negative ∧
        (signed negative ((i + 1).natAbs * oneUnits)).natAbs = (i + 1).natAbs * oneUnits := by
      generalize (i + 1).natAbs * oneUnits = k at positive ⊢
      cases negative <;> simp only [signed, if_true, Bool.false_eq_true, if_false] <;>
        simp <;> omega
    rw [if_neg apart.1, if_neg none, apart.2.1, apart.2.2,
      ofUnits_small (split.natAbs_le fits some).2]

/-- A half goes up, and nothing but the rest is rounded on the way. -/
theorem SplitAt.round_eq {r : Int} (nearest : r = if oneUnits ≤ 2 * rest then i + 1 else i) :
    signed negative r.natAbs = r ∧
      ∃ whole, (Double.finite negative units fits).round =
        .finite negative (r.natAbs * oneUnits) whole := by
  rw [round, split.half_le fits, split.floor_eq fits]
  by_cases up : oneUnits ≤ 2 * rest
  · have some : rest ≠ 0 := by
      have positive := oneUnits_pos
      omega
    rw [if_pos up] at nearest
    subst nearest
    simp only [up, decide_true, if_true, split.add_one fits some]
    refine ⟨split.next some, representable_small (split.natAbs_le fits some).2, ?_⟩
    by_cases none : i + 1 = 0
    · have nothing : (zero false).isZero = true := rfl
      rw [if_pos none, if_pos nothing]
      exact zero_eq negative _ (by rw [none, Int.natAbs_zero, Nat.zero_mul])
    · simp only [none, if_false]
      exact zero_of_isZero negative _
  · rw [if_neg up] at nearest
    subst nearest
    simp only [up, decide_false, Bool.false_eq_true, if_false]
    exact ⟨split.whole, split.representable fits, zero_of_isZero negative _⟩

end Split

private theorem SplitAt.exact_eq {negative : Bool} {units : Nat} {i : Int} {rest : Nat}
    (split : SplitAt negative units i rest) (fits : Representable units) :
    (Double.finite negative units fits).exact = i + (rest : ℚ) / oneUnits := by
  rw [exact, split.same]
  push_cast
  rw [add_div, mul_div_cancel_right₀ _ oneUnits_cast_pos.ne']

/-- The one integer at most half above and less than half below a number is what it is rounded
to. -/
theorem within_half_iff {negative : Bool} {units : Nat} {i r : Int} {rest : Nat}
    (fits : Representable units) (split : SplitAt negative units i rest)
    (nearest : r = if oneUnits ≤ 2 * rest then i + 1 else i) (k : Int) :
    ((k : ℚ) - 1 / 2 ≤ (Double.finite negative units fits).exact ∧
      (Double.finite negative units fits).exact < k + 1 / 2) ↔ k = r := by
  have unit := oneUnits_cast_pos
  have low : (0 : ℚ) ≤ (rest : ℚ) / oneUnits := div_nonneg (Nat.cast_nonneg _) unit.le
  have high : (rest : ℚ) / oneUnits < 1 := (div_lt_one unit).mpr (Nat.cast_lt.mpr split.less)
  have up : oneUnits ≤ 2 * rest ↔ (1 : ℚ) / 2 ≤ (rest : ℚ) / oneUnits := by
    rw [div_le_div_iff₀ two_pos unit, ← @Nat.cast_le ℚ]
    push_cast
    rw [one_mul, mul_comm (2 : ℚ)]
  have floor : ⌊(Double.finite negative units fits).exact + 1 / 2⌋ = r := by
    rw [split.exact_eq fits, nearest, Int.floor_eq_iff]
    split_ifs with half
    · have large := up.mp half
      push_cast
      constructor <;> linarith
    · have small := lt_of_not_ge (mt up.mpr half)
      constructor <;> linarith
  rw [← floor, eq_comm, Int.floor_eq_iff]
  constructor <;> rintro ⟨below, above⟩ <;> constructor <;> linarith

/-- A finite number is rounded to one whose exact value is the integer nearest to it, the upper one
of two, and which has its sign. -/
theorem round_finite {x : Double} (finite : x.isFinite = true) :
    ∃ r : Int, (∀ k : Int, ((k : ℚ) - 1 / 2 ≤ x.exact ∧ x.exact < k + 1 / 2) ↔ k = r) ∧
      x.round.isFinite = true ∧ x.round.exact = r ∧ x.round.signBit = x.signBit := by
  cases x with
  | nan | infinite => cases finite
  | finite negative units fits =>
    obtain ⟨i, rest, split⟩ := exists_splitAt negative units
    obtain ⟨r, nearest⟩ : ∃ r, r = if oneUnits ≤ 2 * rest then i + 1 else i := ⟨_, rfl⟩
    obtain ⟨sign, whole, rounded⟩ := split.round_eq fits nearest
    refine ⟨r, within_half_iff fits split nearest, ?_⟩
    have value := @exact_finite negative r.natAbs whole
    rw [sign] at value
    rw [rounded]
    exact ⟨rfl, value, by simp only [signBit]⟩

end Double

open Builtin

/-- `Math.round` leaves NaN and the infinities as they are. A finite number it takes to the number
whose exact value is the one integer `r` with `r - 1/2 ≤ x < r + 1/2`, with the sign bit of `x`, so
that a zero has the sign of `x` too. -/
theorem round_half_up (origin : Nat) (args : List Value) :
    ∃ x y, (argument args 0).toNumber = x ∧ mathRound.call origin args = .ok (.number y) ∧
      (x.isFinite = false → y = x) ∧
      (x.isFinite = true →
        ∃ r : Int, (∀ k : Int, ((k : ℚ) - 1 / 2 ≤ x.exact ∧ x.exact < k + 1 / 2) ↔ k = r) ∧
          y.isFinite = true ∧ y.exact = r ∧ y.signBit = x.signBit) := by
  refine ⟨_, (argument args 0).toNumber.round, rfl, rfl, fun other => ?_, Double.round_finite⟩
  generalize (argument args 0).toNumber = x at other ⊢
  cases x with
  | nan | infinite => rfl
  | finite => cases other

/-- The negative half is rounded up, to a zero that keeps the sign. -/
theorem round_half_up_negative_half :
    Double.half.neg.isFinite = true ∧ Double.half.neg.exact = -1 / 2 ∧
      mathRound.call 0 [.number Double.half.neg] = .ok (.number (.zero true)) := by
  have finite : Double.half.neg.isFinite = true := by
    rw [Double.half_eq]
    rfl
  have sign : Double.half.neg.signBit = true := by
    rw [Double.half_eq]
    rfl
  have value : Double.half.neg.exact = -1 / 2 := by
    have positive : (0 : ℚ) < Double.halfUnits := Nat.cast_pos.mpr (Double.twoPow_pos _)
    have halves : (Double.oneUnits : ℚ) = Double.halfUnits * 2 := by
      rw [Double.oneUnits_halves, Nat.cast_mul, Nat.cast_two]
    rw [Double.half_eq, Double.neg, Double.exact, halves]
    simp only [Double.signed, Bool.not_false, if_true, Int.cast_neg, Int.cast_natCast]
    field_simp
  obtain ⟨x, y, converted, answered, -, rounded⟩ := round_half_up 0 [.number Double.half.neg]
  obtain rfl : Double.half.neg = x := converted
  obtain ⟨r, nearest, number, exact, same⟩ := rounded finite
  obtain rfl : 0 = r := (nearest 0).mp (by rw [value]; norm_num)
  have nothing : (Double.zero true).exact = (0 : Int) :=
    (Double.exact_of_isZero rfl).trans Int.cast_zero.symm
  have zero : y = .zero true :=
    Double.eq_of_exact number rfl (exact.trans nothing.symm) (same.trans sign)
  exact ⟨finite, value, zero ▸ answered⟩

end ExprTree
