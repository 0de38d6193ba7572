import ExprTree.Proofs.DecimalRounding
import ExprTree.Proofs.NumberText
import Mathlib.Algebra.Order.Group.Pointwise.Interval

/-!
The decimal of a number has the fewest digits. Every decimal that reads as a number leads to a
multiple of a power of ten between itself and the number, on the grid that counts its digits from the
leading digit of the number. So the first grid that meets the rounding interval settles how many
digits it takes, and its point next to the number is the nearest decimal with as many.
-/
namespace ExprTree

namespace Decimal

/-- How many digits a decimal has. -/
def width (d : Decimal) : Nat :=
  (Nat.toDigits 10 d.digits).length

variable {d : Decimal}

private theorem width_pos : 0 < d.width :=
  Nat.length_toDigits_pos

private theorem width_le_iff {k : Nat} (some : 0 < k) : d.width ≤ k ↔ d.digits < 10 ^ k :=
  Nat.length_toDigits_le_iff (by decide) some

private theorem value_shift (n k : Nat) (e : Int) :
    (⟨n * 10 ^ k, e⟩ : Decimal).value = (⟨n, e + k⟩ : Decimal).value := by
  unfold value
  push_cast
  rw [zpow_add₀ (by norm_num), zpow_natCast]
  ring

theorem value_one (e : Int) : (⟨1, e⟩ : Decimal).value = 10 ^ e := by
  rw [value, Nat.cast_one, one_mul]

/-- A decimal lies in the decade of its leading digit. -/
theorem value_bounds (positive : 0 < d.digits) :
    (10 : ℚ) ^ (d.exponent + d.width - 1) ≤ d.value ∧ d.value < 10 ^ (d.exponent + d.width) := by
  have unit : (0 : ℚ) < 10 ^ d.exponent := by positivity
  have low : ((10 ^ (d.width - 1) : Nat) : ℚ) ≤ d.digits := 
    Nat.cast_le.mpr (Numeral.pow_le_of_toDigits positive)
  have high : (d.digits : ℚ) < (10 ^ d.width : Nat) :=
    Nat.cast_lt.mpr ((width_le_iff width_pos).mp (Nat.le_refl _))
  have place : d.exponent + d.width - 1 = (d.width - 1 : Nat) + d.exponent := by
    have := @width_pos d
    omega
  rw [place, Int.add_comm d.exponent, zpow_add₀ (by norm_num), zpow_add₀ (by norm_num), zpow_natCast,
    zpow_natCast]
  push_cast at low high
  exact ⟨mul_le_mul_of_nonneg_right low unit.le, mul_lt_mul_of_pos_right high unit⟩

private theorem value_stripZeros (fuel : Nat) (d : Decimal) :
    (Double.Decimal.stripZeros fuel d).value = d.value := by
  induction fuel generalizing d with
  | zero => rfl
  | succ fuel ih =>
    rw [Double.Decimal.stripZeros]
    split
    · rename_i round
      have same : d.digits / 10 * 10 ^ 1 = d.digits := by omega
      rw [ih]
      calc (⟨d.digits / 10, d.exponent + 1⟩ : Decimal).value
          = (⟨d.digits / 10 * 10 ^ 1, d.exponent⟩ : Decimal).value :=
            (value_shift (d.digits / 10) 1 d.exponent).symm
        _ = d.value := by rw [same]
    · rfl

private theorem digits_stripZeros_le (fuel : Nat) (d : Decimal) :
    (Double.Decimal.stripZeros fuel d).digits ≤ d.digits := by
  induction fuel generalizing d with
  | zero => exact Nat.le_refl _
  | succ fuel ih =>
    rw [Double.Decimal.stripZeros]
    split
    · exact (ih _).trans (Nat.div_le_self _ _)
    · exact Nat.le_refl _

private theorem stripZeros_pow {k fuel : Nat} (enough : k ≤ fuel) (e : Int) :
    (Double.Decimal.stripZeros fuel ⟨10 ^ k, e⟩).digits = 1 := by
  induction fuel generalizing k e with
  | zero =>
    obtain rfl := Nat.le_zero.mp enough
    rfl
  | succ fuel ih =>
    cases k with
    | zero => rfl
    | succ k =>
      have round : 10 ^ (k + 1) % 10 = 0 := by
        rw [Nat.pow_succ]
        exact Nat.mul_mod_left _ _
      have shorter : 10 ^ (k + 1) / 10 = 10 ^ k := by
        rw [Nat.pow_succ]
        exact Nat.mul_div_cancel _ (by decide)
      rw [Double.Decimal.stripZeros, if_pos round]
      dsimp only
      rw [shorter]
      exact ih (by omega) (e + 1)

end Decimal

namespace Double

/-- The rational number of a magnitude. -/
def magnitude (units : Nat) : ℚ :=
  units / oneUnits

/-- The decimal on a grid that is next to a magnitude, at or below it. -/
def gridBelow (units : Nat) (e : Int) : Nat :=
  4 * units * (tenPower e).2 / (tenPower e).1

section Grid

variable {units : Nat} {e : Int}

private theorem scale_pos (e : Int) : (0 : ℚ) < 4 * oneUnits * (tenPower e).2 :=
  mul_pos (mul_pos (by norm_num) oneUnits_cast_pos) (Nat.cast_pos.mpr (tenPower_den_pos e))

private theorem value_scaled (n : Nat) (e : Int) :
    (⟨n, e⟩ : Decimal).value * (4 * oneUnits * (tenPower e).2) = n * (tenPower e).1 := by
  rw [Decimal.value, tenPower_cast]
  ring

private theorem magnitude_scaled (units : Nat) (e : Int) :
    magnitude units * (4 * oneUnits * (tenPower e).2) = (4 * units * (tenPower e).2 : Nat) := by
  have unit := oneUnits_cast_pos.ne'
  push_cast
  rw [magnitude]
  generalize (oneUnits : ℚ) = one at *
  field_simp

private theorem value_le_magnitude_iff {d : Decimal} :
    d.value ≤ magnitude units ↔
      d.digits * (tenPower d.exponent).1 ≤ 4 * units * (tenPower d.exponent).2 := by
  rw [← mul_le_mul_iff_left₀ (scale_pos d.exponent), value_scaled, magnitude_scaled]
  norm_cast

private theorem magnitude_le_value_iff {d : Decimal} :
    magnitude units ≤ d.value ↔
      4 * units * (tenPower d.exponent).2 ≤ d.digits * (tenPower d.exponent).1 := by
  rw [← mul_le_mul_iff_left₀ (scale_pos d.exponent), value_scaled, magnitude_scaled]
  norm_cast

theorem atLeast_iff : AtLeast units e ↔ (10 : ℚ) ^ e ≤ magnitude units := by
  rw [← Decimal.value_one, value_le_magnitude_iff, Nat.one_mul, AtLeast]

private theorem gridBelow_le (units : Nat) (e : Int) :
    (⟨gridBelow units e, e⟩ : Decimal).value ≤ magnitude units :=
  value_le_magnitude_iff.mpr (Nat.div_mul_le_self _ _)

private theorem lt_gridAbove (units : Nat) (e : Int) :
    magnitude units < (⟨gridBelow units e + 1, e⟩ : Decimal).value := by
  have above := Nat.lt_mul_div_succ (4 * units * (tenPower e).2) (tenPower_num_pos e)
  rw [← not_le, value_le_magnitude_iff, Nat.not_le]
  rwa [Nat.mul_comm (tenPower e).1] at above

private theorem value_mono {m n : Nat} (le : m ≤ n) :
    (⟨m, e⟩ : Decimal).value ≤ (⟨n, e⟩ : Decimal).value :=
  mul_le_mul_of_nonneg_right (Nat.cast_le.mpr le) (by positivity)

/-- Between a magnitude and a point of a grid lies the neighbour on that side. -/
theorem neighbour_between (units m : Nat) (e : Int) :
    (⟨gridBelow units e, e⟩ : Decimal).value ∈
        Set.uIcc (magnitude units) (⟨m, e⟩ : Decimal).value ∨
      (⟨gridBelow units e + 1, e⟩ : Decimal).value ∈
        Set.uIcc (magnitude units) (⟨m, e⟩ : Decimal).value := by
  rcases Nat.lt_or_ge (gridBelow units e) m with above | below
  · exact .inr (Set.mem_uIcc.mpr (.inl ⟨(lt_gridAbove units e).le, value_mono above⟩))
  · exact .inl (Set.mem_uIcc.mpr (.inr ⟨value_mono below, gridBelow_le units e⟩))

/-- Which of two neighbours is nearer shows in the remainder. -/
theorem grid_midpoint (units : Nat) (e : Int) :
    ((⟨gridBelow units e, e⟩ : Decimal).value + (⟨gridBelow units e + 1, e⟩ : Decimal).value) *
        (4 * oneUnits * (tenPower e).2) + (2 * (4 * units * (tenPower e).2 % (tenPower e).1) : Nat) =
      2 * magnitude units * (4 * oneUnits * (tenPower e).2) + (tenPower e).1 := by
  have divided : ((4 * units * (tenPower e).2 : Nat) : ℚ) = (tenPower e).1 * gridBelow units e +
      (4 * units * (tenPower e).2 % (tenPower e).1 : Nat) := by
    rw [← Nat.cast_mul, ← Nat.cast_add]
    exact congrArg Nat.cast (Nat.div_add_mod _ _).symm
  rw [add_mul, mul_assoc 2, value_scaled, value_scaled, magnitude_scaled, divided]
  push_cast
  ring

/-- What is taken from a grid is one of the neighbours; if both read as the magnitude, then it is no
farther than the other. -/
theorem onGrid?_cases {n : Nat} (found : onGrid? units e = some n) :
    (n = gridBelow units e ∧ (Within units ⟨gridBelow units e + 1, e⟩ →
        2 * magnitude units ≤
          (⟨gridBelow units e, e⟩ : Decimal).value + (⟨gridBelow units e + 1, e⟩ : Decimal).value)) ∨
      (n = gridBelow units e + 1 ∧ (Within units ⟨gridBelow units e, e⟩ →
        (⟨gridBelow units e, e⟩ : Decimal).value + (⟨gridBelow units e + 1, e⟩ : Decimal).value ≤
          2 * magnitude units)) := by
  have midpoint := grid_midpoint units e
  have scale := scale_pos e
  simp only [onGrid?] at found
  unfold Within
  dsimp only
  split at found
  · split at found <;> rename_i near <;> cases found
    · refine .inl ⟨rfl, fun _ => le_of_mul_le_mul_right ?_ scale⟩
      have rest : ((2 * (4 * units * (tenPower e).2 % (tenPower e).1) : Nat) : ℚ) ≤ (tenPower e).1 :=
        Nat.cast_le.mpr (by omega)
      linarith
    · refine .inr ⟨rfl, fun _ => le_of_mul_le_mul_right ?_ scale⟩
      have rest : ((tenPower e).1 : ℚ) ≤ (2 * (4 * units * (tenPower e).2 % (tenPower e).1) : Nat) :=
        Nat.cast_le.mpr (by omega)
      linarith
  · rename_i both
    split at found
    · rename_i low
      cases found
      exact .inl ⟨rfl, fun high => absurd (Bool.and_eq_true_iff.mpr ⟨low, high⟩) both⟩
    · rename_i low
      split at found
      · cases found
        exact .inr ⟨rfl, fun fits => absurd fits low⟩
      · cases found

end Grid

section Toward

variable {units : Nat} (fits : Representable units) (positive : 0 < units)
include fits positive

/-- What lies between a magnitude and a decimal that reads as it reads as it too. -/
theorem Within.toward {c d : Decimal} (inside : Within units d)
    (between : c.value ∈ Set.uIcc (magnitude units) d.value) : Within units c := by
  rw [within_iff_roundUnits fits positive] at inside ⊢
  have first : 0 < 4 * (tenPower c.exponent).2 := Nat.mul_pos (by decide) (tenPower_den_pos _)
  have second : 0 < 4 * (tenPower d.exponent).2 := Nat.mul_pos (by decide) (tenPower_den_pos _)
  have exact : roundUnits units 1 = units := fits.stored.roundUnits_one
  rcases Set.mem_uIcc.mp between with ⟨above, toward⟩ | ⟨toward, below⟩
  · rw [magnitude_le_value_iff] at above
    rw [value_le_iff] at toward
    refine Nat.le_antisymm ?_ ?_
    · exact (roundUnits_mono first second (by linarith)).trans inside.le
    · exact exact.ge.trans (roundUnits_mono Nat.one_pos first (by linarith))
  · rw [value_le_magnitude_iff] at below
    rw [value_le_iff] at toward
    refine Nat.le_antisymm ?_ ?_
    · exact (roundUnits_mono first Nat.one_pos (by linarith)).trans exact.le
    · exact inside.ge.trans (roundUnits_mono second first (by linarith))

/-- A grid with a point in the rounding interval is not passed over. -/
theorem onGrid?_ne_none_of_within {m : Nat} {e : Int} (inside : Within units ⟨m, e⟩) :
    onGrid? units e ≠ none := by
  refine onGrid?_ne_none ?_
  rcases neighbour_between units m e with low | high
  · exact .inl (inside.toward fits positive low)
  · exact .inr (inside.toward fits positive high)

/-- What is taken from a grid is the point of it nearest to the magnitude that reads as it. -/
theorem onGrid?_nearest {m n : Nat} {e : Int} (found : onGrid? units e = some n)
    (inside : Within units ⟨m, e⟩) :
    |(⟨n, e⟩ : Decimal).value - magnitude units| ≤ |(⟨m, e⟩ : Decimal).value - magnitude units| := by
  have below := gridBelow_le units e
  have above := lt_gridAbove units e
  rcases neighbour_between units m e with low | high
  · have nearer := Set.abs_sub_left_of_mem_uIcc low
    rcases onGrid?_cases found with ⟨rfl, -⟩ | ⟨rfl, nearest⟩
    · exact nearer
    · have half := nearest (inside.toward fits positive low)
      refine le_trans ?_ nearer
      rw [abs_of_nonneg (by linarith), abs_of_nonpos (by linarith)]
      linarith
  · have nearer := Set.abs_sub_left_of_mem_uIcc high
    rcases onGrid?_cases found with ⟨rfl, nearest⟩ | ⟨rfl, -⟩
    · have half := nearest (inside.toward fits positive high)
      refine le_trans ?_ nearer
      rw [abs_of_nonpos (by linarith), abs_of_nonneg (by linarith)]
      linarith
    · exact nearer

/-- Between a magnitude and a decimal that reads as it lies a point of the grid with as many places,
counted from the leading digit of the magnitude: the decimal itself, or the power of ten at which
the decade of the magnitude ends or begins. -/
theorem Within.exists_onGrid {d : Decimal} (inside : Within units d) :
    ∃ m, (⟨m, point units - d.width⟩ : Decimal).value ∈ Set.uIcc (magnitude units) d.value := by
  have low := atLeast_iff.mp (atLeast_point fits positive)
  have high := not_le.mp (atLeast_iff.not.mp (not_atLeast_point fits positive))
  obtain ⟨first, last⟩ := d.value_bounds (within_digits_pos fits positive inside)
  have some := @Decimal.width_pos d
  rcases lt_trichotomy (point units) (d.exponent + d.width) with coarser | same | finer
  · refine ⟨1 * 10 ^ d.width, Set.mem_uIcc.mpr (.inl ?_)⟩
    have power : (10 : ℚ) ^ point units ≤ 10 ^ (d.exponent + d.width - 1) :=
      zpow_le_zpow_right₀ (by norm_num) (by omega)
    rw [Decimal.value_shift, Int.sub_add_cancel, Decimal.value_one]
    exact ⟨high.le, power.trans first⟩
  · refine ⟨d.digits, ?_⟩
    have place : point units - d.width = d.exponent := by omega
    rw [place]
    exact Set.right_mem_uIcc
  · refine ⟨1 * 10 ^ (d.width - 1), Set.mem_uIcc.mpr (.inr ?_)⟩
    have power : (10 : ℚ) ^ (d.exponent + d.width) ≤ 10 ^ (point units - 1) :=
      zpow_le_zpow_right₀ (by norm_num) (by omega)
    have place : point units - d.width + (d.width - 1 : Nat) = point units - 1 := by omega
    rw [Decimal.value_shift, place, Decimal.value_one]
    exact ⟨(last.trans_le power).le, low⟩

/-- A grid with a point next to the magnitude has no more digits than places. -/
theorem width_stripZeros_le {n used : Nat} (present : 1 ≤ used) (few : used ≤ 17)
    (found : onGrid? units (point units - used) = some n) :
    (Decimal.stripZeros 20 ⟨n, point units - used⟩).width ≤ used := by
  have high := not_le.mp (atLeast_iff.not.mp (not_atLeast_point fits positive))
  have below : gridBelow units (point units - used) < 10 ^ used := by
    by_contra reached
    have power := @value_mono (point units - used) _ _ (Nat.le_of_not_lt reached)
    rw [← Nat.one_mul (10 ^ used), Decimal.value_shift, Int.sub_add_cancel, Decimal.value_one] at power
    exact absurd (power.trans (gridBelow_le units _)) (not_le.mpr high)
  have bound : n ≤ 10 ^ used := by
    rcases onGrid?_cases found with ⟨rfl, -⟩ | ⟨rfl, -⟩ <;> omega
  rw [Decimal.width_le_iff present]
  rcases Nat.eq_or_lt_of_le bound with rfl | less
  · rw [Decimal.stripZeros_pow (by omega)]
    exact Nat.one_lt_pow (by omega) (by decide)
  · exact (Decimal.digits_stripZeros_le 20 _).trans_lt less

end Toward

/-- A decimal that reads as a magnitude, with the fewest digits of those that do and the nearest to
it of those with as many. -/
structure ShortestDecimal {units : Nat} (fits : Representable units) (d : Decimal) : Prop where
  reads : ofDecimal false d = .finite false units fits
  fewest : ∀ other, ofDecimal false other = .finite false units fits → d.width ≤ other.width
  nearest : ∀ other, ofDecimal false other = .finite false units fits → other.width = d.width →
    |d.value - magnitude units| ≤ |other.value - magnitude units|

theorem shortest_shortestDecimal {units : Nat} (fits : Representable units) (positive : 0 < units) :
    ShortestDecimal fits (shortest units) := by
  obtain ⟨n, used, some, few, found, missed, same⟩ := shortest_eq fits positive
  have least : ∀ {d : Decimal}, Within units d → used ≤ d.width := by
    intro d inside
    by_contra fewer
    obtain ⟨m, between⟩ := inside.exists_onGrid fits positive
    exact onGrid?_ne_none_of_within fits positive (inside.toward fits positive between)
      (missed d.width Decimal.width_pos (Nat.lt_of_not_le fewer))
  have width : (shortest units).width = used := by
    refine Nat.le_antisymm ?_ (least (within_shortest fits positive))
    rw [same]
    exact width_stripZeros_le fits positive some few found
  refine ⟨ofDecimal_shortest false fits positive, fun other reads => ?_, fun other reads equal => ?_⟩
  · rw [width]
    exact least ((ofDecimal_eq_iff false fits positive).mp reads)
  · have inside := (ofDecimal_eq_iff false fits positive).mp reads
    obtain ⟨m, between⟩ := inside.exists_onGrid fits positive
    have onGrid := inside.toward fits positive between
    rw [equal, width] at between onGrid
    rw [same, Decimal.value_stripZeros]
    exact (onGrid?_nearest fits positive found onGrid).trans (Set.abs_sub_left_of_mem_uIcc between)

end Double

end ExprTree
