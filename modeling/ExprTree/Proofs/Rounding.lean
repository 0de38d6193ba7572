import ExprTree.Double.Decimal
import Mathlib.Tactic.Linarith
import Mathlib.Tactic.Ring

/-!
What rounds to a number. Everything inside the rounding interval of a magnitude rounds to it: over
most of the range by one and the same step, and just below a power of two by the smaller step that
begins there.
-/
namespace ExprTree.Double

theorem twoPow_eq (bits : Nat) : twoPow bits = 2 ^ bits :=
  Nat.pow_eq

theorem oneUnits_eq : oneUnits = 2 ^ 1074 := by
  rw [oneUnits, twoPow_eq]

theorem oneUnits_pos : 0 < oneUnits :=
  twoPow_pos _

theorem log2_oneUnits : oneUnits.log2 = 1074 := by
  rw [oneUnits_eq, Nat.log2_two_pow]

theorem limitUnits_eq : limitUnits = 2 ^ 1024 * oneUnits := by
  rw [limitUnits, twoPow_eq, oneUnits_eq, ← Nat.pow_add]

theorem two_pow_le_twoPow {k bits : Nat} (few : k ≤ bits) : 2 ^ k ≤ twoPow bits :=
  Nat.pow_le_pow_right Nat.two_pos few

theorem twoPow_le_two_pow {k bits : Nat} (many : bits ≤ k) : twoPow bits ≤ 2 ^ k :=
  Nat.pow_le_pow_right Nat.two_pos many

theorem twoPow_dvd_two_pow {k bits : Nat} (many : bits ≤ k) : twoPow bits ∣ 2 ^ k :=
  Nat.pow_dvd_pow 2 many

theorem two_pow_lt_twoPow {k bits : Nat} (fewer : k < bits) : 2 ^ k < twoPow bits :=
  Nat.pow_lt_pow_right Nat.one_lt_two fewer

private theorem log2_lt_of_lt_twoPow {n bits : Nat} (some : n ≠ 0) (less : n < twoPow bits) :
    n.log2 < bits :=
  (Nat.log2_lt some).mpr less

theorem Representable.log2_lt {units : Nat} (fits : Representable units) (some : units ≠ 0) :
    units.log2 < 2098 :=
  log2_lt_of_lt_twoPow some fits.1

theorem two_pow_mul_oneUnits (k : Nat) : 2 ^ k * oneUnits = 2 ^ (k + 1074) := by
  rw [oneUnits_eq, Nat.pow_add]

theorem mul_oneUnits_lt {n k : Nat} (bounded : n < 2 ^ k) (few : k ≤ 1024) :
    n * oneUnits < limitUnits :=
  calc n * oneUnits < 2 ^ k * oneUnits := (Nat.mul_lt_mul_right oneUnits_pos).mpr bounded
    _ = 2 ^ (k + 1074) := two_pow_mul_oneUnits k
    _ ≤ limitUnits := two_pow_le_twoPow (by omega)

/-- The nearest integer is the one at most half a step away, where only an even one may be exactly
half a step away. -/
theorem nearestEven_eq {num den n : Nat} (positive : 0 < den) (low : 2 * n * den ≤ 2 * num + den)
    (high : 2 * num ≤ 2 * n * den + den)
    (ties : 2 * n * den = 2 * num + den ∨ 2 * num = 2 * n * den + den → n % 2 = 0) :
    nearestEven num den = n := by
  have split : den * (num / den) + num % den = num := Nat.div_add_mod num den
  have small : num % den < den := Nat.mod_lt num positive
  unfold nearestEven
  generalize num / den = q at *
  generalize num % den = r at *
  have upper : q ≤ n := by
    by_contra above
    have : den * (n + 1) ≤ den * q := Nat.mul_le_mul_left den (by omega)
    linarith
  have lower : n ≤ q + 1 := by
    by_contra above
    have : den * (q + 2) ≤ den * n := Nat.mul_le_mul_left den (by omega)
    linarith
  rcases Nat.eq_or_lt_of_le upper with rfl | below
  · have halfway : 2 * r = den → q % 2 = 0 := fun half => ties (.inr (by linarith))
    have near : 2 * r ≤ den := by linarith
    dsimp only
    rw [if_pos (by omega)]
  · obtain rfl : n = q + 1 := by omega
    have halfway : 2 * r = den → (q + 1) % 2 = 0 := fun half => ties (.inl (by linarith))
    have near : den ≤ 2 * r := by linarith
    dsimp only
    rw [if_neg (by omega)]

/-- Which bits are spare shows in the place of the leading one. -/
theorem spareBits_eq {q spare : Nat} (enough : spare = 0 ∨ 2 ^ (52 + spare) ≤ q)
    (fits : q < 2 ^ (53 + spare)) : spareBits q = spare := by
  unfold spareBits
  by_cases zero : q = 0
  · subst zero
    rcases enough with none | large
    · simp [none]
    · have := Nat.two_pow_pos (52 + spare)
      omega
  · have upper : q.log2 < 53 + spare := (Nat.log2_lt zero).mpr fits
    rcases enough with none | large
    · omega
    · have : 52 + spare ≤ q.log2 := (Nat.le_log2 zero).mpr large
      omega

private theorem roundUnits_eq {num den n spare : Nat} (positive : 0 < den)
    (place : spareBits (num / den) = spare)
    (low : 2 * n * (den * 2 ^ spare) ≤ 2 * num + den * 2 ^ spare)
    (high : 2 * num ≤ 2 * n * (den * 2 ^ spare) + den * 2 ^ spare)
    (ties : 2 * n * (den * 2 ^ spare) = 2 * num + den * 2 ^ spare ∨
      2 * num = 2 * n * (den * 2 ^ spare) + den * 2 ^ spare → n % 2 = 0) :
    roundUnits num den = n * 2 ^ spare := by
  have step : 0 < den * 2 ^ spare := Nat.mul_pos positive (Nat.two_pow_pos spare)
  unfold roundUnits
  dsimp only
  rw [place, Nat.pow_eq, nearestEven_eq step low high ties]

/-- A magnitude as its leading bits and the number of spare ones. -/
structure Normal (units lead spare : Nat) : Prop where
  same : units = lead * 2 ^ spare
  place : spareBits units = spare
  fits : lead < 2 ^ 53
  leading : spare = 0 ∨ 2 ^ 52 ≤ lead

/-- A magnitude with at most 53 significant bits, be it within the finite range or not. -/
def Stored (units : Nat) : Prop :=
  2 ^ spareBits units ∣ units

theorem Stored.normal {units : Nat} (stored : Stored units) :
    ∃ lead, Normal units lead (spareBits units) := by
  obtain ⟨lead, same⟩ := stored
  rw [Nat.mul_comm] at same
  refine ⟨lead, same, rfl, ?_, ?_⟩
  · have below : units < 2 ^ (53 + spareBits units) := by
      refine Nat.lt_of_lt_of_le Nat.lt_log2_self (Nat.pow_le_pow_right (by decide) ?_)
      unfold spareBits
      omega
    rw [Nat.pow_add] at below
    nth_rewrite 1 [same] at below
    exact Nat.lt_of_mul_lt_mul_right below
  · by_cases none : spareBits units = 0
    · exact .inl none
    · right
      have nonzero : units ≠ 0 := by
        rintro rfl
        exact none rfl
      have above : 2 ^ (52 + spareBits units) ≤ units := by
        refine Nat.le_trans (Nat.pow_le_pow_right (by decide) ?_) (Nat.log2_self_le nonzero)
        unfold spareBits at none ⊢
        omega
      rw [Nat.pow_add] at above
      nth_rewrite 2 [same] at above
      exact Nat.le_of_mul_le_mul_right above (Nat.two_pow_pos _)

theorem Representable.stored {units : Nat} (fits : Representable units) : Stored units :=
  fits.2

theorem Representable.normal {units : Nat} (fits : Representable units) :
    ∃ lead, Normal units lead (spareBits units) :=
  fits.stored.normal

/-- How far, in quarters of a unit, the rounding interval reaches below a magnitude. -/
def margin (lead spare : Nat) : Nat :=
  if spare ≠ 0 ∧ lead = 2 ^ 52 then 2 ^ spare else 2 * 2 ^ spare

section Interval

variable {units lead spare num den : Nat} (normal : Normal units lead spare)
include normal

theorem Normal.step_le (positive : 0 < units) : 2 ^ spare ≤ units := by
  have leading : 0 < lead := by
    refine Nat.pos_of_ne_zero fun zero => ?_
    rw [normal.same, zero, Nat.zero_mul] at positive
    exact Nat.lt_irrefl 0 positive
  rw [normal.same]
  exact Nat.le_mul_of_pos_left _ leading

private theorem Normal.eq_power_iff : units = 2 ^ 52 * 2 ^ spare ↔ lead = 2 ^ 52 := by
  rw [normal.same, Nat.mul_left_inj (Nat.two_pow_pos _).ne']

private theorem Normal.low_eq : (interval units).low = 4 * units - margin lead spare := by
  simp only [interval, margin, normal.place, Nat.pow_eq, normal.eq_power_iff]

private theorem Normal.high_eq : (interval units).high = 4 * units + 2 * 2 ^ spare := by
  simp only [interval, normal.place, Nat.pow_eq]

private theorem Normal.closed_eq : (interval units).closed = (lead % 2 == 0) := by
  simp only [interval, normal.place, Nat.pow_eq]
  rw [normal.same, Nat.mul_div_cancel _ (Nat.two_pow_pos spare)]

theorem Normal.margin_le (positive : 0 < units) : margin lead spare ≤ 2 * units := by
  have step := normal.step_le positive
  unfold margin
  split <;> omega

/-- A fraction lies in the rounding interval when it is within the margins, and on an end of the
interval only if the leading bits are even. -/
theorem Normal.contains_iff (positive : 0 < units) :
    (interval units).contains num den = true ↔
      4 * units * den ≤ num + margin lead spare * den ∧
      num ≤ 4 * units * den + 2 * 2 ^ spare * den ∧
      (4 * units * den = num + margin lead spare * den ∨
        num = 4 * units * den + 2 * 2 ^ spare * den → lead % 2 = 0) := by
  have room : margin lead spare * den ≤ 4 * units * den := by
    have reach := normal.margin_le positive
    exact Nat.mul_le_mul_right den (by omega)
  unfold Interval.contains
  rw [normal.closed_eq, normal.low_eq, normal.high_eq, Nat.sub_mul, Nat.add_mul]
  generalize 4 * units * den = center at *
  generalize margin lead spare * den = below at *
  generalize 2 * 2 ^ spare * den = above at *
  by_cases even : lead % 2 = 0
  · simp only [even, beq_self_eq_true, if_true, Bool.and_eq_true, decide_eq_true_eq, implies_true,
      and_true]
    omega
  · have odd : (lead % 2 == 0) = false := by simpa using even
    simp only [odd, Bool.false_eq_true, if_false, Bool.and_eq_true, decide_eq_true_eq, even,
      imp_false]
    omega

end Interval

/-- Away from the powers of two at which the steps change, and above them, the nearest multiple of
the step of a magnitude decides. -/
theorem Normal.roundUnits_wide {units lead spare num den : Nat} (normal : Normal units lead spare)
    (positive : 0 < den) (above : spare = 0 ∨ 2 ^ 52 * 2 ^ spare * den ≤ num)
    (low : 4 * units * den ≤ 4 * num + 2 * 2 ^ spare * den)
    (high : 4 * num ≤ 4 * units * den + 2 * 2 ^ spare * den)
    (ties : 4 * units * den = 4 * num + 2 * 2 ^ spare * den ∨
      4 * num = 4 * units * den + 2 * 2 ^ spare * den → lead % 2 = 0) :
    roundUnits num den = units := by
  have fits := normal.fits
  have step : 0 < 2 ^ spare * den := Nat.mul_pos (Nat.two_pow_pos spare) positive
  have place : spareBits (num / den) = spare := by
    refine spareBits_eq (above.imp id fun large => ?_) ?_
    · rw [Nat.le_div_iff_mul_le positive, Nat.pow_add]
      exact large
    · rw [Nat.div_lt_iff_lt_mul positive, Nat.pow_add]
      have : (lead + 1) * (2 ^ spare * den) ≤ 2 ^ 53 * (2 ^ spare * den) :=
        Nat.mul_le_mul_right _ fits
      rw [normal.same] at high
      linarith
  rw [normal.same] at low high ties ⊢
  refine roundUnits_eq positive place (by linarith) (by linarith) fun ends => ties ?_
  rcases ends with first | last
  · exact .inl (by linarith)
  · exact .inr (by linarith)

/-- Just below a power of two the steps are half as wide. -/
theorem roundUnits_narrow {spare num den : Nat} (positive : 0 < den)
    (below : num < 2 ^ 52 * 2 ^ (spare + 1) * den)
    (low : 4 * (2 ^ 52 * 2 ^ (spare + 1)) * den ≤ 4 * num + 2 ^ (spare + 1) * den) :
    roundUnits num den = 2 ^ 52 * 2 ^ (spare + 1) := by
  have step : 0 < 2 ^ spare * den := Nat.mul_pos (Nat.two_pow_pos spare) positive
  rw [Nat.pow_succ 2 spare] at below low
  have place : spareBits (num / den) = spare := by
    refine spareBits_eq (.inr ?_) ?_
    · rw [Nat.le_div_iff_mul_le positive, Nat.pow_add]
      linarith
    · rw [Nat.div_lt_iff_lt_mul positive, Nat.pow_add]
      linarith
  rw [roundUnits_eq (n := 2 ^ 53) positive place (by linarith) (by linarith) (fun _ => rfl)]
  rw [Nat.pow_succ 2 spare]
  ring

/-- Every fraction inside the rounding interval of a magnitude rounds to it. -/
theorem roundUnits_of_contains {units num den : Nat} (fits : Representable units)
    (positive : 0 < units) (nonzero : 0 < den)
    (inside : (interval units).contains (4 * num) den = true) : roundUnits num den = units := by
  obtain ⟨lead, normal⟩ := fits.normal
  obtain ⟨low, high, ties⟩ := (normal.contains_iff positive).mp inside
  generalize spareBits units = spare at *
  by_cases narrow : spare ≠ 0 ∧ lead = 2 ^ 52
  · obtain ⟨some, rfl⟩ := narrow
    have same := normal.same
    rw [margin, if_pos ⟨some, rfl⟩] at low ties
    -- Below the power of two the finer steps decide, at and above it those of the magnitude.
    by_cases below : num < units * den
    · obtain ⟨less, rfl⟩ := Nat.exists_eq_succ_of_ne_zero some
      rw [same] at below low ⊢
      exact roundUnits_narrow nonzero below low
    · refine normal.roundUnits_wide nonzero (.inr ?_) ?_ high fun _ => rfl
      · rw [← same]
        exact Nat.le_of_not_lt below
      · linarith
  · rw [margin, if_neg narrow] at low ties
    refine normal.roundUnits_wide nonzero ?_ low high ties
    rcases normal.leading with none | large
    · exact .inl none
    · by_cases some : spare = 0
      · exact .inl some
      · right
        have more : 2 ^ 52 + 1 ≤ lead := by
          have : lead ≠ 2 ^ 52 := fun same => narrow ⟨some, same⟩
          omega
        have : (2 ^ 52 + 1) * (2 ^ spare * den) ≤ lead * (2 ^ spare * den) :=
          Nat.mul_le_mul_right _ more
        rw [normal.same] at low
        linarith

end ExprTree.Double
