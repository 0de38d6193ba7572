import ExprTree.Proofs.Equality

/-!
The order of numbers. Every number but NaN has a rank among the integers, its count of units, with
the infinities one step outside the finite range; comparisons compare ranks, so that two numbers
other than NaN stand in exactly one of three relations.
-/
namespace ExprTree.Double

/-- The place of a number in the order of numbers; NaN has none. -/
def rank : Double → Int
  | nan => 0
  | infinite negative => signed negative limitUnits
  | finite negative units _ => signed negative units

variable {x y : Double}

theorem rank_bounds {negative : Bool} {units : Nat} (fits : Representable units) :
    -(limitUnits : Int) < signed negative units ∧ signed negative units < limitUnits := by
  have below := fits.1
  cases negative <;> simp only [signed, if_true, Bool.false_eq_true, if_false] <;> omega

section Limit

variable {limit : Nat} {place : Int}

/-- Two limits stand apart unless they are the same. -/
theorem compare_limits (positive : 0 < limit) (s t : Bool) :
    (s && !t) = decide (signed s limit < signed t limit) ∧
      (s == t) = decide (signed s limit = signed t limit) := by
  cases s <;> cases t <;> simp [signed] <;> omega

/-- What lies between the limits stands apart from both. -/
theorem compare_limit (low : -(limit : Int) < place) (high : place < limit) (s : Bool) :
    (s = decide (signed s limit < place) ∧ false = decide (signed s limit = place)) ∧
      (!s) = decide (place < signed s limit) ∧ false = decide (place = signed s limit) := by
  cases s <;> simp [signed] <;> omega

end Limit

/-- Between numbers, both comparisons are comparisons of ranks. -/
theorem compare_rank (left : x ≠ .nan) (right : y ≠ .nan) :
    x.lt y = decide (x.rank < y.rank) ∧ x.eq y = decide (x.rank = y.rank) := by
  cases x with
  | nan => exact absurd rfl left
  | infinite s =>
    cases y with
    | nan => exact absurd rfl right
    | infinite t => exact compare_limits representable_zero.1 s t
    | finite t b second =>
      obtain ⟨below, above⟩ := @rank_bounds t b second
      exact (compare_limit below above s).1
  | finite s a first =>
    cases y with
    | nan => exact absurd rfl right
    | infinite t =>
      obtain ⟨below, above⟩ := @rank_bounds s a first
      exact (compare_limit below above t).2
    | finite t b second => exact ⟨rfl, rfl⟩

private theorem lt_nan : x.lt nan = false := by
  cases x <;> rfl

private theorem eq_nan : x.eq nan = false := by
  cases x <;> rfl

theorem lt_iff_rank : x.lt y = true ↔ x ≠ .nan ∧ y ≠ .nan ∧ x.rank < y.rank := by
  by_cases left : x = .nan
  · simp [left, lt]
  · by_cases right : y = .nan
    · simp [right, lt_nan]
    · simp [(compare_rank left right).1, left, right]

theorem eq_iff_rank : x.eq y = true ↔ x ≠ .nan ∧ y ≠ .nan ∧ x.rank = y.rank := by
  by_cases left : x = .nan
  · simp [left, eq]
  · by_cases right : y = .nan
    · simp [right, eq_nan]
    · simp [(compare_rank left right).2, left, right]

end ExprTree.Double
