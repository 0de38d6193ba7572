import ExprTree.Proofs.DecimalRounding
import Mathlib.Data.Rat.Floor

/-!
Integer parts of numbers. A number is taken as an exact rational; its integer part is this rational
truncated. Main statement: the computation of residues modulo `2^32`, by truncation, remainder and
one addition of numbers, rounds nothing.
-/
namespace ExprTree.Double

/-- The exact value of a finite number, zero for the others. -/
def exact : Double → ℚ
  | finite negative units _ => (signed negative units : ℚ) / oneUnits
  | _ => 0

/-- The next integer toward zero. -/
def truncate (q : ℚ) : Int :=
  if 0 ≤ q then ⌊q⌋ else ⌈q⌉

/-- The residue modulo `2^32` of a number without its fraction. -/
def word (x : Double) : Nat :=
  (truncate x.exact % 2 ^ 32).toNat

private theorem signed_nought (negative : Bool) : signed negative 0 = 0 := by
  cases negative <;> rfl

theorem exact_of_isZero {x : Double} (none : x.isZero = true) : x.exact = 0 := by
  cases x with
  | nan | infinite => rfl
  | finite negative units fits =>
    obtain rfl : units = 0 := by simpa [isZero] using none
    rw [exact, signed_nought, Int.cast_zero, zero_div]

private theorem floor_units (units : Nat) :
    ⌊(units : ℚ) / oneUnits⌋ = (units / oneUnits : Nat) := by
  exact Rat.floor_natCast_div_natCast units oneUnits

/-- The integer part is the exact value truncated. -/
theorem toInt_eq_truncate (x : Double) : x.toInt = truncate x.exact := by
  cases x with
  | nan | infinite => simp [toInt, exact, truncate]
  | finite negative units fits =>
    have floor := floor_units units
    have nonneg : (0 : ℚ) ≤ units / oneUnits := div_nonneg (Nat.cast_nonneg _) oneUnits_cast_pos.le
    unfold toInt exact truncate
    generalize oneUnits = one at *
    cases negative with
    | false =>
      simp only [signed, Bool.false_eq_true, if_false, Int.cast_natCast, if_pos nonneg, floor]
    | true =>
      simp only [signed, if_true, Int.cast_neg, Int.cast_natCast, neg_div, Int.ceil_neg, floor]
      split
      · rename_i negated
        have none : (units : ℚ) / one = 0 := le_antisymm (by linarith) nonneg
        rw [none, Int.floor_zero] at floor
        rw [none, ← floor]
        simp
      · rfl

private theorem truncate_intCast (i : Int) : truncate i = i := by
  unfold truncate
  split
  · exact Int.floor_intCast i
  · exact Int.ceil_intCast i

theorem word_of_exact {x : Double} {i : Int} (integer : x.exact = i) :
    x.word = (i % 2 ^ 32).toNat := by
  rw [word, integer, truncate_intCast]

theorem word_lt (x : Double) : x.word < 2 ^ 32 := by
  unfold word
  omega

/-- What a number leaves when it is cut off at a power of two is a number. -/
theorem Representable.cut {units : Nat} (fits : Representable units) (k : Nat) :
    Representable (units / 2 ^ k * 2 ^ k) := by
  have le : units / 2 ^ k * 2 ^ k ≤ units := Nat.div_mul_le_self units _
  have spare : 2 ^ spareBits (units / 2 ^ k * 2 ^ k) ∣ 2 ^ spareBits units :=
    Nat.pow_dvd_pow 2 (spareBits_mono le)
  refine ⟨le.trans_lt fits.1, spare.trans ?_⟩
  rcases Nat.le_total (spareBits units) k with fine | coarse
  · exact (Nat.pow_dvd_pow 2 fine).mul_left _
  · rw [Nat.div_mul_cancel ((Nat.pow_dvd_pow 2 coarse).trans fits.stored)]
    exact fits.stored

section Small

variable {n : Nat} (small : n ≤ 2 ^ 53)
include small

theorem representable_small : Representable (n * oneUnits) := by
  have exact := roundNat_small small
  rw [← exact]
  exact (roundNat_stored n).representable (roundNat_lt_of_small small)

theorem ofUnits_small (negative : Bool) :
    ofUnits negative (n * oneUnits) = .finite negative (n * oneUnits) (representable_small small) :=
  ofUnits_of_representable _ negative

theorem ofNat_small : ofNat n = .finite false (n * oneUnits) (representable_small small) :=
  ofUnits_small small false

end Small

theorem exact_finite {negative : Bool} {n : Nat} (fits : Representable (n * oneUnits)) :
    (finite negative (n * oneUnits) fits).exact = signed negative n := by
  have unit : (oneUnits : ℚ) ≠ 0 := oneUnits_cast_pos.ne'
  cases negative with
  | false =>
    simp only [exact, signed, Bool.false_eq_true, if_false, Int.natCast_mul, Int.cast_mul,
      Int.cast_natCast]
    exact mul_div_cancel_right₀ _ unit
  | true =>
    simp only [exact, signed, if_true, Int.cast_neg, Int.natCast_mul, Int.cast_mul, Int.cast_natCast,
      neg_div]
    rw [mul_div_cancel_right₀ _ unit]

/-- A finite number is determined by its exact value and its sign. -/
theorem eq_of_exact {x y : Double} (first : x.isFinite = true) (second : y.isFinite = true)
    (value : x.exact = y.exact) (sign : x.signBit = y.signBit) : x = y := by
  cases x with
  | nan | infinite => cases first
  | finite s m fits =>
    cases y with
    | nan | infinite => cases second
    | finite t n others =>
      obtain rfl : s = t := sign
      have units := (div_left_inj' oneUnits_cast_pos.ne').mp value
      have same : signed s m = signed s n := by exact_mod_cast units
      obtain rfl : m = n := by
        cases s <;> simp only [signed, if_true, Bool.false_eq_true, if_false] at same <;> omega
      rfl

theorem ofInt_small {i : Int} (small : i.natAbs ≤ 2 ^ 53) :
    (ofInt i).isFinite = true ∧ (ofInt i).exact = i ∧ (ofInt i).signBit = decide (i < 0) := by
  have same : signed (decide (i < 0)) i.natAbs = i := by
    unfold signed
    by_cases negative : i < 0 <;> simp only [negative, decide_true, decide_false, if_true,
      Bool.false_eq_true, if_false] <;> omega
  rw [ofInt, ofUnits_small small]
  refine ⟨rfl, ?_, rfl⟩
  rw [exact_finite, same]

private theorem lt_zero_iff {negative : Bool} {n : Nat} (fits : Representable (n * oneUnits)) :
    (finite negative (n * oneUnits) fits).lt (zero false) = true ↔ negative = true ∧ n ≠ 0 := by
  have some : 0 < n * oneUnits ↔ n ≠ 0 := by
    rw [Nat.mul_pos_iff_of_pos_right oneUnits_pos, Nat.pos_iff_ne_zero]
  cases negative with
  | false =>
    simp only [lt, zero, signed, Bool.false_eq_true, if_false, decide_eq_true_eq, false_and, iff_false]
    omega
  | true =>
    simp only [lt, zero, signed, if_true, Bool.false_eq_true, if_false, decide_eq_true_eq, true_and,
      ← some]
    omega

/-- A negative whole number added to a larger positive one. -/
theorem add_ofNat {r m : Nat} (less : r < m) (small : m ≤ 2 ^ 53)
    (fits : Representable (r * oneUnits)) :
    (finite true (r * oneUnits) fits).add (ofNat m) = ofNat (m - r) := by
  have sum : signed true (r * oneUnits) + signed false (m * oneUnits) =
      ((m - r) * oneUnits : Nat) := by
    rw [Nat.sub_mul, Int.natCast_sub (Nat.mul_le_mul_right _ less.le)]
    simp only [signed, if_true, Bool.false_eq_true, if_false]
    omega
  have positive : 0 < (m - r) * oneUnits := Nat.mul_pos (by omega) oneUnits_pos
  rw [ofNat_small small, add, ofNat]
  simp only [sum]
  rw [if_neg (by omega), decide_eq_false (by omega), Int.natAbs_natCast]

section Wrapped

variable {negative : Bool} {units n : Nat} (fits : Representable units)

private theorem word_finite :
    (finite negative units fits).word = (signed negative (units / oneUnits) % 2 ^ 32).toNat := by
  rw [word, ← toInt_eq_truncate, toInt]

/-- Neither the integer part nor its remainder is rounded. -/
theorem trunc_rem (quotient : units / oneUnits = n) (small : n % 2 ^ 32 ≤ 2 ^ 53) :
    (trunc (finite negative units fits)).rem (ofNat (2 ^ 32)) =
      .finite negative (n % 2 ^ 32 * oneUnits) (representable_small small) := by
  have part : Representable (n * oneUnits) := by
    rw [← quotient, oneUnits_eq]
    exact fits.cut 1074
  have some : 2 ^ 32 * oneUnits ≠ 0 := (Nat.mul_pos (by decide) oneUnits_pos).ne'
  rw [trunc, quotient, ofUnits_of_representable part, ofNat_small (by decide), rem, if_neg some,
    Nat.mul_mod_mul_right, ofUnits_small small]

private theorem wrapped_finite (some : units ≠ 0) (quotient : units / oneUnits = n)
    (small : n % 2 ^ 32 ≤ 2 ^ 53) :
    wrapped (finite negative units fits) =
      if negative = true ∧ n % 2 ^ 32 ≠ 0 then ofNat (2 ^ 32 - n % 2 ^ 32)
      else .finite negative (n % 2 ^ 32 * oneUnits) (representable_small small) := by
  have divided : (!(finite negative units fits).isFinite || (finite negative units fits).isZero) =
      false := by
    simpa [isFinite, isZero] using some
  unfold wrapped
  rw [if_neg (by rw [divided]; decide), Nat.pow_eq, trunc_rem fits quotient small]
  simp only [lt_zero_iff]
  split
  · rename_i below
    obtain ⟨rfl, -⟩ := below
    exact add_ofNat (Nat.mod_lt _ (by decide)) (by decide) _
  · rfl

private theorem exact_wrapped_finite (some : units ≠ 0) :
    (wrapped (finite negative units fits)).isFinite = true ∧
      (wrapped (finite negative units fits)).exact = (finite negative units fits).word := by
  obtain ⟨n, quotient⟩ : ∃ n, units / oneUnits = n := ⟨_, rfl⟩
  rw [wrapped_finite fits some quotient (by omega), word_finite, quotient]
  split
  · rename_i below
    obtain ⟨rfl, rest⟩ := below
    have same : ((signed true n % 2 ^ 32).toNat : Int) = signed false (2 ^ 32 - n % 2 ^ 32) := by
      simp only [signed, if_true, Bool.false_eq_true, if_false]
      omega
    rw [ofNat_small (by omega)]
    refine ⟨rfl, ?_⟩
    rw [exact_finite, ← same, Int.cast_natCast]
  · rename_i above
    have same : ((signed negative n % 2 ^ 32).toNat : Int) = signed negative (n % 2 ^ 32) := by
      unfold signed
      cases negative <;> simp only [if_true, Bool.false_eq_true, if_false, true_and] at above ⊢ <;>
        omega
    refine ⟨rfl, ?_⟩
    rw [exact_finite, ← same, Int.cast_natCast]

end Wrapped

private theorem word_infinite {x : Double} (other : x.isFinite = false) : x.word = 0 := by
  cases x with
  | nan | infinite => rfl
  | finite => cases other

theorem word_zero {x : Double} (nothing : x.isZero = true) : x.word = 0 := by
  cases x with
  | nan | infinite => rfl
  | finite negative units fits =>
    obtain rfl : units = 0 := by simpa [isZero] using nothing
    rw [word_finite, Nat.zero_div]
    cases negative <;> rfl

/-- Truncation, remainder and the addition leave the residue without any rounding. -/
theorem exact_wrapped (x : Double) : x.wrapped.isFinite = true ∧ x.wrapped.exact = x.word := by
  by_cases nothing : (!x.isFinite || x.isZero) = true
  · have none : x.word = 0 := by
      rcases Bool.or_eq_true_iff.mp nothing with other | zero
      · exact word_infinite (by simpa using other)
      · exact word_zero zero
    rw [wrapped, if_pos nothing, none]
    refine ⟨rfl, ?_⟩
    simp only [zero, exact, signed, Bool.false_eq_true, if_false, Nat.cast_zero, Int.cast_zero,
      zero_div]
  · obtain ⟨number, some⟩ : x.isFinite = true ∧ x.isZero = false := by simpa using nothing
    cases x with
    | nan | infinite => cases number
    | finite negative units fits =>
      exact exact_wrapped_finite fits (by simpa [isZero] using some)

theorem toNat_toUInt32 (x : Double) : x.toUInt32.toNat = x.word := by
  have integer : x.wrapped.toInt = x.word := by
    rw [toInt_eq_truncate, (exact_wrapped x).2]
    exact truncate_intCast x.word
  rw [toUInt32, integer, Int.toNat_natCast, UInt32.toNat_ofNat']
  exact Nat.mod_eq_of_lt (word_lt x)

theorem toInt_toInt32 (x : Double) : x.toInt32.toInt = (x.word : Int).bmod (2 ^ 32) := by
  rw [← toNat_toUInt32]
  exact BitVec.toInt_eq_toNat_bmod _

end ExprTree.Double
