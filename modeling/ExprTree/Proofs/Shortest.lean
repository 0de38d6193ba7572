import ExprTree.Proofs.Rounding
import Mathlib.Tactic.NormNum

/-!
The shortest decimal of a number reads back as the number. Decimals are compared by cross products
over the powers of ten, a grid of 17 digits always meets the rounding interval, and whatever lies in
the interval rounds to the number.
-/
namespace ExprTree.Double

/-- The decimal lies in the rounding interval of a magnitude. -/
def Within (units : Nat) (d : Decimal) : Prop :=
  (interval units).contains (d.digits * (tenPower d.exponent).1) (tenPower d.exponent).2 = true

theorem tenPower_of_nonneg {e : Int} (nonneg : 0 ≤ e) :
    tenPower e = (10 ^ e.toNat * (4 * oneUnits), 1) := by
  rw [tenPower, if_pos nonneg, Nat.pow_eq]

theorem tenPower_of_neg {e : Int} (negative : e < 0) :
    tenPower e = (4 * oneUnits, 10 ^ (-e).toNat) := by
  rw [tenPower, if_neg (Int.not_le.mpr negative), Nat.pow_eq]

theorem tenPower_den_pos (e : Int) : 0 < (tenPower e).2 := by
  rcases Int.lt_or_le e 0 with negative | nonneg
  · rw [tenPower_of_neg negative]
    exact Nat.pow_pos (by decide)
  · rw [tenPower_of_nonneg nonneg]
    exact Nat.one_pos

theorem tenPower_num_pos (e : Int) : 0 < (tenPower e).1 := by
  have unit : 0 < 4 * oneUnits := Nat.mul_pos (by decide) oneUnits_pos
  rcases Int.lt_or_le e 0 with negative | nonneg
  · rw [tenPower_of_neg negative]
    exact unit
  · rw [tenPower_of_nonneg nonneg]
    exact Nat.mul_pos (Nat.pow_pos (by decide)) unit

/-- Two powers of ten, as fractions, differ by the power of ten between them. -/
theorem tenPower_add (e : Int) (k : Nat) :
    (tenPower (e + k)).1 * (tenPower e).2 = 10 ^ k * (tenPower e).1 * (tenPower (e + k)).2 := by
  rcases Int.lt_or_le e 0 with negative | nonneg
  · rcases Int.lt_or_le (e + k) 0 with still | reached
    · have split : (-e).toNat = k + (-(e + k)).toNat := by omega
      rw [tenPower_of_neg negative, tenPower_of_neg still, split, Nat.pow_add]
      ring
    · have split : k = (e + k).toNat + (-e).toNat := by omega
      rw [tenPower_of_neg negative, tenPower_of_nonneg reached]
      nth_rewrite 2 [split]
      rw [Nat.pow_add]
      ring
  · have split : (e + k).toNat = e.toNat + k := by omega
    rw [tenPower_of_nonneg nonneg, tenPower_of_nonneg (by omega), split, Nat.pow_add]
    ring

private theorem le_cross {bound a b c d : Nat} (positive : 0 < b) (other : 0 < d)
    (same : a * d = c * b) : bound * b ≤ a ↔ bound * d ≤ c := by
  calc bound * b ≤ a ↔ bound * b * d ≤ a * d := (Nat.mul_le_mul_right_iff other).symm
    _ ↔ bound * d * b ≤ c * b := by rw [same, Nat.mul_right_comm]
    _ ↔ bound * d ≤ c := Nat.mul_le_mul_right_iff positive

private theorem ge_cross {bound a b c d : Nat} (positive : 0 < b) (other : 0 < d)
    (same : a * d = c * b) : a ≤ bound * b ↔ c ≤ bound * d := by
  calc a ≤ bound * b ↔ a * d ≤ bound * b * d := (Nat.mul_le_mul_right_iff other).symm
    _ ↔ c * b ≤ bound * d * b := by rw [same, Nat.mul_right_comm]
    _ ↔ c ≤ bound * d := Nat.mul_le_mul_right_iff positive

/-- An interval contains a fraction whichever way it is written. -/
theorem Interval.contains_congr (i : Interval) {a b c d : Nat} (positive : 0 < b) (other : 0 < d)
    (same : a * d = c * b) : i.contains a b = i.contains c d := by
  unfold contains
  simp only [le_cross positive other same, ge_cross positive other same, ← Nat.not_le]

/-- Zeros at the end of the digits count as much as a greater exponent. -/
theorem within_shift (units n k : Nat) (e : Int) :
    Within units ⟨n * 10 ^ k, e⟩ ↔ Within units ⟨n, e + k⟩ := by
  unfold Within
  dsimp only
  rw [Interval.contains_congr _ (tenPower_den_pos e) (tenPower_den_pos (e + k))]
  have powers := tenPower_add e k
  calc n * 10 ^ k * (tenPower e).1 * (tenPower (e + k)).2
      = n * (10 ^ k * (tenPower e).1 * (tenPower (e + k)).2) := by ring
    _ = n * (tenPower (e + k)).1 * (tenPower e).2 := by rw [← powers]; ring

private theorem within_stripZeros (units fuel : Nat) (d : Decimal) (inside : Within units d) :
    Within units (Decimal.stripZeros fuel d) := by
  induction fuel generalizing d with
  | zero => exact inside
  | succ fuel ih =>
    rw [Decimal.stripZeros]
    split
    · rename_i round
      refine ih _ ((within_shift units (d.digits / 10) 1 d.exponent).mp ?_)
      have same : d.digits / 10 * 10 ^ 1 = d.digits := by omega
      rw [same]
      exact inside
    · exact inside

/-- More than the ratio between the largest magnitude and one, and between one and the least. -/
def vast : Nat := (10 ^ 5) ^ 80

private theorem pow_pow_le {n m k : Nat} (large : n * m ≤ k) : (10 ^ n) ^ m ≤ 10 ^ k := by
  rw [← Nat.pow_mul]
  exact Nat.pow_le_pow_right (by decide) large

theorem vast_le {k : Nat} (large : 400 ≤ k) : vast ≤ 10 ^ k :=
  @pow_pow_le 5 80 k large

theorem lt_vast : 4 * oneUnits < vast ∧ 8 * limitUnits < vast * (4 * oneUnits) := by
  unfold vast limitUnits oneUnits twoPow
  decide +kernel

section Bounds

variable {units n : Nat} {e : Int} (fits : Representable units) (positive : 0 < units)
  (inside : Within units ⟨n, e⟩)
include fits positive inside

/-- A decimal in the interval is at least half and at most twice the magnitude. -/
theorem within_bounds :
    2 * units * (tenPower e).2 ≤ n * (tenPower e).1 ∧
      n * (tenPower e).1 ≤ 8 * units * (tenPower e).2 := by
  obtain ⟨lead, normal⟩ := fits.normal
  obtain ⟨low, high, -⟩ := (normal.contains_iff positive).mp inside
  have lower := Nat.mul_le_mul_right (tenPower e).2 (normal.margin_le positive)
  have upper := Nat.mul_le_mul_right (tenPower e).2 (normal.step_le positive)
  constructor <;> linarith

theorem within_digits_pos : 0 < n := by
  have bound := (within_bounds fits positive inside).1
  refine Nat.pos_of_ne_zero fun zero => ?_
  rw [zero, Nat.zero_mul] at bound
  have := Nat.mul_pos (Nat.mul_pos Nat.two_pos positive) (tenPower_den_pos e)
  omega

theorem within_place_le {a : Nat} (large : 10 ^ a ≤ n) : e + a ≤ 400 := by
  by_contra above
  have bound := (within_bounds fits positive inside).2
  have powers := tenPower_add e a
  rw [tenPower_of_nonneg (show 0 ≤ e + a by omega)] at powers
  have huge : vast ≤ 10 ^ (e + a).toNat := vast_le (by omega)
  have chain : vast * (4 * oneUnits) * (tenPower e).2 ≤ 8 * units * (tenPower e).2 :=
    calc vast * (4 * oneUnits) * (tenPower e).2
        ≤ 10 ^ (e + a).toNat * (4 * oneUnits) * (tenPower e).2 :=
          Nat.mul_le_mul_right _ (Nat.mul_le_mul_right _ huge)
      _ = 10 ^ a * (tenPower e).1 := by rw [powers, Nat.mul_one]
      _ ≤ n * (tenPower e).1 := Nat.mul_le_mul_right _ large
      _ ≤ 8 * units * (tenPower e).2 := bound
  have finite : vast * (4 * oneUnits) ≤ 8 * units :=
    Nat.le_of_mul_le_mul_right chain (tenPower_den_pos e)
  have limit := lt_vast.2
  have := fits.1
  omega

theorem le_within_place {b : Nat} (small : n < 10 ^ b) : -400 ≤ e + b := by
  by_contra below
  have bound := (within_bounds fits positive inside).1
  have powers := tenPower_add e b
  rw [tenPower_of_neg (show e + b < 0 by omega)] at powers
  have tiny : vast ≤ 10 ^ (-(e + b)).toNat := vast_le (by omega)
  have chain : vast * (tenPower e).2 ≤ 4 * oneUnits * (tenPower e).2 :=
    calc vast * (tenPower e).2
        ≤ 10 ^ (-(e + b)).toNat * (2 * units * (tenPower e).2) :=
          Nat.mul_le_mul tiny (Nat.le_mul_of_pos_left _ (Nat.mul_pos Nat.two_pos positive))
      _ ≤ 10 ^ (-(e + b)).toNat * (10 ^ b * (tenPower e).1) :=
          Nat.mul_le_mul_left _ (bound.trans (Nat.mul_le_mul_right _ small.le))
      _ = 4 * oneUnits * (tenPower e).2 := by rw [powers, Nat.mul_comm]
  have finite := Nat.le_of_mul_le_mul_right chain (tenPower_den_pos e)
  have limit := lt_vast.1
  omega

end Bounds

theorem ofRatio_eq {units num den : Nat} (negative : Bool) (fits : Representable units)
    (rounded : roundUnits num den = units) :
    ofRatio negative num den = .finite negative units fits := by
  subst rounded
  exact dif_pos fits.1

theorem lt_ten_pow (n : Nat) : n < 10 ^ (n.log2 / 3 + 1) :=
  calc n < 2 ^ (n.log2 + 1) := Nat.lt_log2_self
    _ ≤ 2 ^ (3 * (n.log2 / 3 + 1)) := Nat.pow_le_pow_right (by decide) (by omega)
    _ = 8 ^ (n.log2 / 3 + 1) := by rw [Nat.pow_mul]
    _ ≤ 10 ^ (n.log2 / 3 + 1) := Nat.pow_le_pow_left (by decide) _

/-- Every decimal in the rounding interval of a magnitude reads as it. -/
theorem ofDecimal_of_within {units : Nat} {d : Decimal} (negative : Bool)
    (fits : Representable units) (positive : 0 < units) (inside : Within units d) :
    ofDecimal negative d = .finite negative units fits := by
  obtain ⟨n, e⟩ := d
  have digits : 0 < n := within_digits_pos fits positive inside
  have upper := within_place_le fits positive inside (show 10 ^ 0 ≤ n from digits)
  have lower := le_within_place fits positive inside (lt_ten_pow n)
  have places : ¬ e + (n.log2 / 3 + 1 : Nat) < -400 := by omega
  unfold ofDecimal
  dsimp only
  rw [if_neg (by omega), if_neg (by omega), if_neg places]
  by_cases nonneg : 0 ≤ e
  · rw [if_pos nonneg, ofUnits]
    refine ofRatio_eq negative fits (roundUnits_of_contains fits positive Nat.one_pos ?_)
    have same : 4 * (n * Nat.pow 10 e.toNat * oneUnits) = n * (10 ^ e.toNat * (4 * oneUnits)) := by
      rw [Nat.pow_eq]
      ring
    rw [Within, tenPower_of_nonneg nonneg] at inside
    rw [same]
    exact inside
  · have negativeExponent : e < 0 := by omega
    rw [if_neg nonneg]
    have den : 0 < Nat.pow 10 (-e).toNat := Nat.pow_pos (by decide)
    refine ofRatio_eq negative fits (roundUnits_of_contains fits positive den ?_)
    have same : 4 * (n * oneUnits) = n * (4 * oneUnits) := by ring
    rw [Within, tenPower_of_neg negativeExponent] at inside
    rw [same]
    exact inside

/-- A magnitude is at least the power of ten. -/
def AtLeast (units : Nat) (e : Int) : Prop :=
  (tenPower e).1 ≤ 4 * units * (tenPower e).2

private theorem atLeast_pointFrom (units fuel : Nat) {start : Int}
    (low : AtLeast units (start - 1)) :
    AtLeast units (pointFrom units fuel start - 1) := by
  induction fuel generalizing start with
  | zero => exact low
  | succ fuel ih =>
    have step : pointFrom units (fuel + 1) start =
        if 4 * units * (tenPower start).2 < (tenPower start).1 then start
        else pointFrom units fuel (start + 1) := rfl
    rw [step]
    split
    · exact low
    · rename_i reached
      refine ih ?_
      rw [Int.add_sub_cancel]
      exact Nat.le_of_not_lt reached

private theorem ten_pow_le_two_pow {k e : Nat} (ratio : 10 * e ≤ 3 * k) : 10 ^ e ≤ 2 ^ k := by
  apply (Nat.pow_le_pow_iff_left (show 10 ≠ 0 by decide)).mp
  calc (10 ^ e) ^ 10 = 10 ^ (10 * e) := by rw [← Nat.pow_mul, Nat.mul_comm]
    _ ≤ 10 ^ (3 * k) := Nat.pow_le_pow_right (by decide) ratio
    _ = 1000 ^ k := by rw [Nat.pow_mul]
    _ ≤ 1024 ^ k := Nat.pow_le_pow_left (by decide) k
    _ = (2 ^ k) ^ 10 := by rw [← Nat.pow_mul, Nat.mul_comm, Nat.pow_mul]

private theorem two_pow_le_ten_pow {k e : Nat} (ratio : 28 * k ≤ 93 * e) : 2 ^ k ≤ 10 ^ e := by
  apply (Nat.pow_le_pow_iff_left (show 93 ≠ 0 by decide)).mp
  calc (2 ^ k) ^ 93 = (2 ^ 93) ^ k := by rw [← Nat.pow_mul, Nat.mul_comm, Nat.pow_mul]
    _ ≤ (10 ^ 28) ^ k := Nat.pow_le_pow_left (by decide) k
    _ = 10 ^ (28 * k) := by rw [← Nat.pow_mul]
    _ ≤ 10 ^ (93 * e) := Nat.pow_le_pow_right (by decide) ratio
    _ = (10 ^ e) ^ 93 := by rw [← Nat.pow_mul, Nat.mul_comm]

/-- The place at which the search for the point starts lies below it. Above one the estimate has two
digits to spare, so that `10 ^ 3 ≤ 2 ^ 10` suffices; over the longer range below one it takes
`2 ^ 93 ≤ 10 ^ 28`. -/
theorem atLeast_start {units : Nat} (fits : Representable units) (positive : 0 < units) :
    AtLeast units (((units.log2 : Int) - 1074) * 30103 / 100000 - 1 - 1) := by
  have bits : units.log2 < 2098 := fits.log2_lt positive.ne'
  have leading : 2 ^ units.log2 ≤ units := Nat.log2_self_le positive.ne'
  generalize units.log2 = size at *
  generalize exponent : ((size : Int) - 1074) * 30103 / 100000 - 1 - 1 = e
  unfold AtLeast
  by_cases nonneg : 0 ≤ e
  · have power : 10 ^ e.toNat ≤ 2 ^ (size - 1074) := ten_pow_le_two_pow (by omega)
    have split : 2 ^ (size - 1074) * oneUnits = 2 ^ size := by
      rw [two_pow_mul_oneUnits, Nat.sub_add_cancel (by omega)]
    rw [tenPower_of_nonneg nonneg]
    dsimp only
    have scaled := Nat.mul_le_mul_right oneUnits power
    linarith
  · have power : 2 ^ (1074 - size) ≤ 10 ^ (-e).toNat := two_pow_le_ten_pow (by omega)
    have split : oneUnits ≤ 2 ^ size * 2 ^ (1074 - size) := by
      rw [← Nat.pow_add]
      exact twoPow_le_two_pow (by omega)
    rw [tenPower_of_neg (by omega)]
    dsimp only
    have scaled := Nat.mul_le_mul leading power
    linarith

theorem atLeast_point {units : Nat} (fits : Representable units) (positive : 0 < units) :
    AtLeast units (point units - 1) :=
  atLeast_pointFrom units 5 (atLeast_start fits positive)

private theorem not_atLeast_pointFrom (units fuel : Nat) {start : Int}
    (high : ¬ AtLeast units (start + fuel)) : ¬ AtLeast units (pointFrom units fuel start) := by
  induction fuel generalizing start with
  | zero => simpa [pointFrom] using high
  | succ fuel ih =>
    have step : pointFrom units (fuel + 1) start =
        if 4 * units * (tenPower start).2 < (tenPower start).1 then start
        else pointFrom units fuel (start + 1) := rfl
    rw [step]
    split
    · rename_i below
      exact Nat.not_le.mpr below
    · refine ih ?_
      have place : start + 1 + (fuel : Int) = start + (fuel + 1 : Nat) := by omega
      rw [place]
      exact high

/-- The search for the point ends above the magnitude. -/
theorem not_atLeast_end {units : Nat} (fits : Representable units) (positive : 0 < units) :
    ¬ AtLeast units (((units.log2 : Int) - 1074) * 30103 / 100000 - 1 + (5 : Nat)) := by
  have bits : units.log2 < 2098 := fits.log2_lt positive.ne'
  have leading : units < 2 ^ (units.log2 + 1) := Nat.lt_log2_self
  generalize units.log2 = size at *
  generalize exponent : ((size : Int) - 1074) * 30103 / 100000 - 1 + (5 : Nat) = e
  unfold AtLeast
  rw [Nat.not_le]
  by_cases nonneg : 0 ≤ e
  · have power : 2 ^ (size + 1 - 1074) ≤ 10 ^ e.toNat := two_pow_le_ten_pow (by omega)
    have split : 2 ^ (size + 1) ≤ 2 ^ (size + 1 - 1074) * oneUnits := by
      rw [oneUnits_eq, ← Nat.pow_add]
      exact Nat.pow_le_pow_right (by decide) (by omega)
    rw [tenPower_of_nonneg nonneg]
    dsimp only
    have scaled := Nat.mul_le_mul_right oneUnits power
    linarith
  · have power : 10 ^ (-e).toNat ≤ 2 ^ (1073 - size) := ten_pow_le_two_pow (by omega)
    have split : 2 ^ (size + 1) * 2 ^ (1073 - size) = oneUnits := by
      rw [oneUnits_eq, ← Nat.pow_add]
      congr 1
      omega
    rw [tenPower_of_neg (by omega)]
    dsimp only
    have scaled := Nat.mul_lt_mul_of_lt_of_le leading power (Nat.pow_pos (by decide))
    linarith

theorem not_atLeast_point {units : Nat} (fits : Representable units) (positive : 0 < units) :
    ¬ AtLeast units (point units) :=
  not_atLeast_pointFrom units 5 (not_atLeast_end fits positive)

/-- Whatever is taken from a grid lies in the rounding interval. -/
theorem within_of_onGrid? {units n : Nat} {e : Int} (found : onGrid? units e = some n) :
    Within units ⟨n, e⟩ := by
  simp only [onGrid?] at found
  unfold Within
  dsimp only
  split at found
  · rename_i both
    rw [Bool.and_eq_true] at both
    split at found <;> cases found
    · exact both.1
    · exact both.2
  · split at found
    · rename_i low
      cases found
      exact low
    · split at found
      · rename_i high
        cases found
        exact high
      · cases found

theorem onGrid?_ne_none {units : Nat} {e : Int}
    (fitting : Within units ⟨4 * units * (tenPower e).2 / (tenPower e).1, e⟩ ∨
      Within units ⟨4 * units * (tenPower e).2 / (tenPower e).1 + 1, e⟩) :
    onGrid? units e ≠ none := by
  unfold Within at fitting
  simp only [onGrid?]
  rcases fitting with low | high
  · simp only [low]
    split
    · split <;> exact Option.some_ne_none _
    · exact Option.some_ne_none _
  · simp only [high, Bool.and_true]
    split
    · split <;> exact Option.some_ne_none _
    · exact Option.some_ne_none _

/-- A grid whose steps are at most a part in `10 ^ 16` of the magnitude meets its interval: the
nearer neighbour is less than half a step of the magnitude away, and where the interval is narrow
below, the grid is so fine that the upper neighbour always fits. -/
theorem onGrid?_of_fine {units : Nat} {e : Int} (fits : Representable units) (positive : 0 < units)
    (fine : 10 ^ 16 * (tenPower e).1 ≤ 4 * units * (tenPower e).2) : onGrid? units e ≠ none := by
  obtain ⟨lead, normal⟩ := fits.normal
  apply onGrid?_ne_none
  simp only [Within, normal.contains_iff positive]
  have step : 0 < 2 ^ spareBits units * (tenPower e).2 :=
    Nat.mul_pos (Nat.two_pow_pos _) (tenPower_den_pos e)
  have divided := Nat.div_add_mod (4 * units * (tenPower e).2) (tenPower e).1
  have rest := Nat.mod_lt (4 * units * (tenPower e).2) (tenPower_num_pos e)
  have same : 4 * units * (tenPower e).2 = 4 * lead * (2 ^ spareBits units * (tenPower e).2) := by
    nth_rewrite 1 [normal.same]
    ring
  generalize spareBits units = spare at *
  generalize 4 * units * (tenPower e).2 / (tenPower e).1 = q at *
  generalize 4 * units * (tenPower e).2 % (tenPower e).1 = r at *
  generalize (tenPower e).1 = num at *
  generalize (tenPower e).2 = den at *
  rw [same] at divided fine ⊢
  have bits := Nat.mul_le_mul_right (2 ^ spare * den) normal.fits.le
  by_cases narrow : spare ≠ 0 ∧ lead = 2 ^ 52
  · right
    rw [margin, if_pos narrow]
    obtain ⟨-, rfl⟩ := narrow
    exact ⟨by linarith, by linarith, fun _ => rfl⟩
  · rw [margin, if_neg narrow]
    rcases Nat.lt_or_ge (2 * r) num with near | far
    · left
      exact ⟨by linarith, by linarith, fun ends => by rcases ends with _ | _ <;> linarith⟩
    · right
      exact ⟨by linarith, by linarith, fun ends => by rcases ends with _ | _ <;> linarith⟩

/-- The search takes the first grid that meets the interval. -/
theorem shortestFrom_eq {units : Nat} {top : Int} (last : onGrid? units (top - 17) ≠ none)
    {fuel count : Nat} (rounds : count + fuel = 18) (more : 0 < fuel) :
    ∃ (n : Nat) (used : Nat), count ≤ used ∧ used ≤ 17 ∧ onGrid? units (top - used) = some n ∧
      (∀ k : Nat, count ≤ k → k < used → onGrid? units (top - k) = none) ∧
      shortestFrom units top fuel count = Decimal.stripZeros 20 ⟨n, top - used⟩ := by
  induction fuel generalizing count with
  | zero => omega
  | succ fuel ih =>
    rw [shortestFrom]
    cases found : onGrid? units (top - count) with
    | some n => exact ⟨n, count, Nat.le_refl _, by omega, found, fun k start ended => by omega, rfl⟩
    | none =>
      by_cases ended : fuel = 0
      · obtain rfl : count = 17 := by omega
        exact absurd found last
      · obtain ⟨n, used, next, few, hit, missed, same⟩ :=
          @ih (count + 1) (by omega) (Nat.pos_of_ne_zero ended)
        refine ⟨n, used, by omega, few, hit, fun k start before => ?_, same⟩
        rcases Nat.eq_or_lt_of_le start with rfl | later
        · exact found
        · exact missed k later before

theorem shortest_eq {units : Nat} (fits : Representable units) (positive : 0 < units) :
    ∃ (n : Nat) (used : Nat), 1 ≤ used ∧ used ≤ 17 ∧ onGrid? units (point units - used) = some n ∧
      (∀ k : Nat, 1 ≤ k → k < used → onGrid? units (point units - k) = none) ∧
      shortest units = Decimal.stripZeros 20 ⟨n, point units - used⟩ := by
  have last : onGrid? units (point units - 17) ≠ none := by
    refine onGrid?_of_fine fits positive ?_
    have powers := tenPower_add (point units - 17) 16
    have place : point units - 17 + (16 : Nat) = point units - 1 := by omega
    rw [place] at powers
    have low := Nat.mul_le_mul_right (tenPower (point units - 17)).2 (atLeast_point fits positive)
    refine Nat.le_of_mul_le_mul_right ?_ (tenPower_den_pos (point units - 1))
    linarith
  exact shortestFrom_eq last (show 1 + 17 = 18 from rfl) (by decide)

/-- The shortest decimal of a magnitude lies in its rounding interval. -/
theorem within_shortest {units : Nat} (fits : Representable units) (positive : 0 < units) :
    Within units (shortest units) := by
  obtain ⟨n, used, -, -, found, -, same⟩ := shortest_eq fits positive
  rw [same]
  exact within_stripZeros units 20 _ (within_of_onGrid? found)

/-- The shortest decimal of a number reads back as the number. -/
theorem ofDecimal_shortest {units : Nat} (negative : Bool) (fits : Representable units)
    (positive : 0 < units) : ofDecimal negative (shortest units) = .finite negative units fits :=
  ofDecimal_of_within negative fits positive (within_shortest fits positive)

end ExprTree.Double
