import ExprTree.Builtin.Call
import ExprTree.Proofs.NumberOrder

/-!
The greatest and the least of the arguments. Numbers other than NaN are ordered with negative zero
right below zero, and in this order no two of them share a place. So the greatest of some numbers is
determined by which numbers there are, and neither their order nor their grouping matters. The least
is the greatest of the negated numbers, negated.
-/
namespace ExprTree

namespace Double

variable {x y z : Double}

/-- The order of numbers in which negative zero comes before zero. -/
def AtMost (x y : Double) : Prop :=
  x.lt y = true ∨ x.eq y = true ∧ (y.signBit = true → x.signBit = true)

/-- The place of a number in this order; NaN has none. -/
def slot (x : Double) : Int :=
  2 * x.rank + if x.signBit then 0 else 1

private theorem atMost_iff_slot (left : x ≠ .nan) (right : y ≠ .nan) :
    x.AtMost y ↔ x.slot ≤ y.slot := by
  obtain ⟨below, equal⟩ := compare_rank left right
  unfold AtMost slot
  rw [below, equal, decide_eq_true_eq, decide_eq_true_eq]
  cases x.signBit <;> cases y.signBit <;> simp <;> omega

theorem AtMost.numbers (most : x.AtMost y) : x ≠ .nan ∧ y ≠ .nan := by
  rcases most with below | ⟨equal, -⟩
  · exact ⟨(lt_iff_rank.mp below).1, (lt_iff_rank.mp below).2.1⟩
  · exact ⟨(eq_iff_rank.mp equal).1, (eq_iff_rank.mp equal).2.1⟩

theorem AtMost.refl (number : x ≠ .nan) : x.AtMost x :=
  (atMost_iff_slot number number).mpr (Int.le_refl _)

theorem AtMost.trans (first : x.AtMost y) (second : y.AtMost z) : x.AtMost z := by
  obtain ⟨left, middle⟩ := first.numbers
  have right := second.numbers.2
  rw [atMost_iff_slot left middle] at first
  rw [atMost_iff_slot middle right] at second
  exact (atMost_iff_slot left right).mpr (first.trans second)

section Signed

variable {negative : Bool} {a b : Nat}

private theorem signed_injective (same : signed negative a = signed negative b) : a = b := by
  cases negative <;> simpa [signed] using same

private theorem signed_eq_zero_iff : signed negative a = 0 ↔ a = 0 := by
  cases negative <;> simp [signed]

private theorem signed_not (negative : Bool) (a : Nat) :
    signed (!negative) a = -signed negative a := by
  cases negative <;> simp [signed]

private theorem signed_sign (negative : Bool) (a : Nat) :
    if negative then signed negative a ≤ 0 else 0 ≤ signed negative a := by
  cases negative <;> simp [signed]

private theorem neg_le_signed (negative : Bool) (a : Nat) : -(a : Int) ≤ signed negative a := by
  cases negative <;> simp [signed]

end Signed

/-- A number is determined by its place in the order of numbers and its sign. -/
theorem eq_of_rank (left : x ≠ .nan) (right : y ≠ .nan) (place : x.rank = y.rank)
    (sign : x.signBit = y.signBit) : x = y := by
  cases x with
  | nan => exact absurd rfl left
  | infinite s =>
    obtain rfl : s = y.signBit := sign
    cases y with
    | nan => exact absurd rfl right
    | infinite t => rfl
    | finite t b fits => exact absurd (signed_injective place) fits.1.ne'
  | finite s a fits =>
    obtain rfl : s = y.signBit := sign
    cases y with
    | nan => exact absurd rfl right
    | infinite t => exact absurd (signed_injective place) fits.1.ne
    | finite t b others =>
      obtain rfl : a = b := signed_injective place
      rfl

private theorem isZero_eq (number : x ≠ .nan) : x.isZero = decide (x.rank = 0) := by
  cases x with
  | nan => exact absurd rfl number
  | infinite s =>
    have apart : signed s limitUnits ≠ 0 := mt signed_eq_zero_iff.mp representable_zero.1.ne'
    exact (decide_eq_false apart).symm
  | finite s a =>
    rw [Bool.eq_iff_iff, decide_eq_true_eq, rank, signed_eq_zero_iff, isZero, beq_iff_eq]

private theorem rank_sign (x : Double) : if x.signBit then x.rank ≤ 0 else 0 ≤ x.rank := by
  cases x with
  | nan => exact Int.le_refl 0
  | infinite s | finite s => exact signed_sign s _

private theorem AtMost.antisymm (first : x.AtMost y) (second : y.AtMost x) : x = y := by
  obtain ⟨left, right⟩ := first.numbers
  rw [atMost_iff_slot left right] at first
  rw [atMost_iff_slot right left] at second
  have same : x.slot = y.slot := Int.le_antisymm first second
  have sign : x.signBit = y.signBit := by
    cases left : x.signBit <;> cases right : y.signBit <;> simp [slot, left, right] at same ⊢ <;>
      omega
  have place : x.rank = y.rank := by
    simp only [slot, sign] at same
    omega
  exact eq_of_rank left right place sign

/-- The greatest of some numbers, the lower infinity when there are none; NaN if one of them is. -/
structure IsMaximum (numbers : List Double) (x : Double) : Prop where
  nan : x = .nan ↔ .nan ∈ numbers
  member : x ≠ .nan → x ∈ numbers ∨ numbers = [] ∧ x = .infinite true
  bounds : x ≠ .nan → ∀ y ∈ numbers, y.AtMost x

/-- The least of some numbers, the upper infinity when there are none; NaN if one of them is. -/
structure IsMinimum (numbers : List Double) (x : Double) : Prop where
  nan : x = .nan ↔ .nan ∈ numbers
  member : x ≠ .nan → x ∈ numbers ∨ numbers = [] ∧ x = .infinite false
  bounds : x ≠ .nan → ∀ y ∈ numbers, x.AtMost y

private theorem lowest_atMost (number : x ≠ .nan) : (infinite true).AtMost x := by
  have low : (infinite true).rank ≤ x.rank := by
    cases x with
    | nan => exact absurd rfl number
    | infinite t => exact neg_le_signed t limitUnits
    | finite t b fits => exact (rank_bounds fits).1.le
  have sign : (infinite true).signBit = true := rfl
  rw [atMost_iff_slot (by simp) number, slot, slot, sign, if_pos rfl]
  split <;> omega

/-- The greatest of numbers without NaN is the greatest of them and the lower infinity. -/
theorem isMaximum_of_lowest {numbers : List Double} (each : .nan ∉ numbers)
    (member : x ∈ infinite true :: numbers) (bounds : ∀ y ∈ numbers, y.AtMost x) :
    IsMaximum numbers x := by
  have number : x ≠ .nan := by
    rintro rfl
    rcases List.mem_cons.mp member with other | known
    · cases other
    · exact each known
  refine ⟨⟨fun none => absurd none number, fun none => absurd none each⟩, fun _ => ?_,
    fun _ => bounds⟩
  rcases List.mem_cons.mp member with lowest | known
  · cases numbers with
    | nil => exact .inr ⟨rfl, lowest⟩
    | cons y rest =>
      have most : y.AtMost x := bounds y List.mem_cons_self
      have same : y = x := most.antisymm (lowest ▸ lowest_atMost most.numbers.1)
      exact .inl (same ▸ List.mem_cons_self)
  · exact .inl known

namespace IsMaximum

variable {first second : List Double}

private theorem mem_lowest (greatest : IsMaximum first x) (number : x ≠ .nan) :
    x ∈ infinite true :: first := by
  rcases greatest.member number with known | ⟨-, lowest⟩
  · exact List.mem_cons_of_mem _ known
  · exact lowest ▸ List.mem_cons_self

/-- The same numbers, in any order and however often, have one greatest number. -/
theorem unique (same : ∀ z, z ∈ first ↔ z ∈ second) (left : IsMaximum first x)
    (right : IsMaximum second y) : x = y := by
  by_cases none : x = .nan
  · rw [none, right.nan.mpr ((same _).mp (left.nan.mp none))]
  · have other : y ≠ .nan := fun nan => none (left.nan.mpr ((same _).mpr (right.nan.mp nan)))
    refine AtMost.antisymm ?_ ?_
    · rcases List.mem_cons.mp (left.mem_lowest none) with lowest | known
      · exact lowest ▸ lowest_atMost other
      · exact right.bounds other x ((same x).mp known)
    · rcases List.mem_cons.mp (right.mem_lowest other) with lowest | known
      · exact lowest ▸ lowest_atMost none
      · exact left.bounds none y ((same y).mpr known)

/-- The greatest of two lists is the greater of their greatest numbers. -/
theorem append (left : IsMaximum first x) (right : IsMaximum second y)
    (both : IsMaximum [x, y] z) : IsMaximum (first ++ second) z := by
  have nan : z = .nan ↔ .nan ∈ first ++ second := by
    rw [both.nan, List.mem_append, ← left.nan, ← right.nan]
    simp [eq_comm]
  by_cases none : z = .nan
  · exact ⟨nan, fun number => absurd none number, fun number => absurd none number⟩
  · have most := both.bounds none
    have leftMost : x.AtMost z := most x (by simp)
    have rightMost : y.AtMost z := most y (by simp)
    refine isMaximum_of_lowest (mt nan.mpr none) ?_ ?_
    · have found := both.mem_lowest none
      have fromLeft := left.mem_lowest leftMost.numbers.1
      have fromRight := right.mem_lowest rightMost.numbers.1
      simp only [List.mem_cons, List.mem_append, List.not_mem_nil, or_false] at *
      rcases found with lowest | rfl | rfl
      · exact .inl lowest
      · exact fromLeft.imp id .inl
      · exact fromRight.imp id .inr
    · intro w member
      rcases List.mem_append.mp member with known | known
      · exact (left.bounds leftMost.numbers.1 w known).trans leftMost
      · exact (right.bounds rightMost.numbers.1 w known).trans rightMost

end IsMaximum

section Negation

private theorem neg_neg (x : Double) : x.neg.neg = x := by
  cases x <;> simp [neg]

private theorem neg_eq_nan_iff : x.neg = .nan ↔ x = .nan := by
  cases x <;> simp [neg]

private theorem rank_neg (x : Double) : x.neg.rank = -x.rank := by
  cases x with
  | nan => rfl
  | infinite s | finite s => exact signed_not s _

private theorem signBit_neg (number : x ≠ .nan) : x.neg.signBit = !x.signBit := by
  cases x with
  | nan => exact absurd rfl number
  | infinite | finite => rfl

private theorem slot_neg (number : x ≠ .nan) : x.neg.slot = 1 - x.slot := by
  rw [slot, slot, rank_neg, signBit_neg number]
  cases x.signBit <;> simp
  all_goals omega

private theorem lt_neg (x y : Double) : x.neg.lt y.neg = y.lt x := by
  rw [Bool.eq_iff_iff, lt_iff_rank, lt_iff_rank, rank_neg, rank_neg]
  simp only [ne_eq, neg_eq_nan_iff]
  constructor
  · rintro ⟨left, right, below⟩
    exact ⟨right, left, by omega⟩
  · rintro ⟨right, left, below⟩
    exact ⟨left, right, by omega⟩

/-- Negation turns the order around. -/
theorem AtMost.neg (most : x.AtMost y) : y.neg.AtMost x.neg := by
  obtain ⟨left, right⟩ := most.numbers
  rw [atMost_iff_slot left right] at most
  rw [atMost_iff_slot (mt neg_eq_nan_iff.mp right) (mt neg_eq_nan_iff.mp left), slot_neg left,
    slot_neg right]
  omega

private theorem mem_map_neg {numbers : List Double} : x.neg ∈ numbers.map neg ↔ x ∈ numbers := by
  constructor
  · intro member
    obtain ⟨z, known, same⟩ := List.mem_map.mp member
    rw [← neg_neg x, ← same, neg_neg]
    exact known
  · exact List.mem_map_of_mem

/-- What is greatest of the negated numbers is least when negated. -/
theorem IsMaximum.isMinimum {numbers : List Double} (greatest : IsMaximum (numbers.map neg) x) :
    IsMinimum numbers x.neg := by
  obtain ⟨y, rfl⟩ : ∃ y, x = neg y := ⟨x.neg, (neg_neg x).symm⟩
  rw [neg_neg]
  refine ⟨?_, fun number => ?_, fun number z known => ?_⟩
  · have none : .nan ∈ numbers.map Double.neg ↔ .nan ∈ numbers := @mem_map_neg .nan numbers
    rw [← neg_eq_nan_iff, greatest.nan, none]
  · rcases greatest.member (mt neg_eq_nan_iff.mp number) with known | ⟨none, lowest⟩
    · exact .inl (mem_map_neg.mp known)
    · refine .inr ⟨List.map_eq_nil_iff.mp none, ?_⟩
      rw [← neg_neg y, lowest]
      rfl
  · have most := greatest.bounds (mt neg_eq_nan_iff.mp number) _ (mem_map_neg.mpr known)
    have turned := most.neg
    rwa [neg_neg, neg_neg] at turned

end Negation

end Double

namespace Builtin

open Double

variable {best x : Double}

/-- The step of the maximum takes the number that comes later in the order. -/
theorem larger_eq (left : best ≠ .nan) (right : x ≠ .nan) :
    larger best x = if best.slot < x.slot then x else best := by
  have signs := rank_sign best
  have signsNext := rank_sign x
  unfold larger
  rw [(compare_rank left right).1, isZero_eq left, isZero_eq right]
  by_cases later : best.slot < x.slot
  · rw [if_pos later, if_pos]
    -- Equal ranks in different places are the two zeros.
    unfold slot at later
    cases first : best.signBit <;> cases second : x.signBit <;>
      simp [first, second] at * <;> omega
  · rw [if_neg later]
    split
    · rename_i chosen
      -- Only two positive zeros are chosen between without standing apart.
      unfold slot at later
      refine eq_of_rank right left ?_ ?_ <;>
        cases first : best.signBit <;> cases second : x.signBit <;>
          simp [first, second] at * <;> omega
    · rfl

private theorem larger_spec (left : best ≠ .nan) (right : x ≠ .nan) :
    (larger best x = best ∨ larger best x = x) ∧ best.AtMost (larger best x) ∧
      x.AtMost (larger best x) := by
  rw [larger_eq left right]
  split
  · rename_i later
    exact ⟨.inr rfl, (atMost_iff_slot left right).mpr later.le, .refl right⟩
  · rename_i other
    exact ⟨.inl rfl, .refl left, (atMost_iff_slot right left).mpr (Int.not_lt.mp other)⟩

/-- Unless a number is NaN, the maximum is the greatest of the numbers and of the one it starts
from. -/
theorem extreme_larger (number : best ≠ .nan) (numbers : List Double) :
    (extreme larger best numbers = .nan ↔ .nan ∈ numbers) ∧
      (.nan ∉ numbers → extreme larger best numbers ∈ best :: numbers ∧
        ∀ y ∈ best :: numbers, y.AtMost (extreme larger best numbers)) := by
  induction numbers generalizing best with
  | nil => simp [extreme, number, AtMost.refl number]
  | cons x rest ih =>
    rw [extreme]
    by_cases none : x = .nan
    · rw [if_pos (isNaN_iff.mpr none)]
      simp [none]
    · obtain ⟨taken, above, aboveNext⟩ := larger_spec number none
      obtain ⟨nan, greatest⟩ := ih above.numbers.2
      rw [if_neg (mt isNaN_iff.mp none)]
      refine ⟨?_, fun each => ?_⟩
      · rw [nan, List.mem_cons]
        exact ⟨.inr, fun member => member.resolve_left (Ne.symm none)⟩
      · obtain ⟨member, bounds⟩ := greatest fun known => each (List.mem_cons_of_mem _ known)
        have reached := bounds _ List.mem_cons_self
        refine ⟨?_, fun y known => ?_⟩
        · rcases List.mem_cons.mp member with here | later
          · rw [here]
            rcases taken with first | next
            · rw [first]
              exact List.mem_cons_self
            · rw [next]
              exact List.mem_cons_of_mem _ List.mem_cons_self
          · exact List.mem_cons_of_mem _ (List.mem_cons_of_mem _ later)
        · rcases List.mem_cons.mp known with rfl | later
          · exact above.trans reached
          · rcases List.mem_cons.mp later with rfl | last
            · exact aboveNext.trans reached
            · exact bounds y (List.mem_cons_of_mem _ last)

private theorem smaller_eq (best x : Double) : smaller best x = (larger best.neg x.neg).neg := by
  have zero : ∀ z : Double, z.neg.isZero = z.isZero := fun z => by cases z <;> rfl
  unfold smaller larger
  rw [lt_neg, zero, zero]
  by_cases none : x = .nan
  · simp [none, lt, isZero, neg_neg]
  · rw [signBit_neg none, Bool.not_not]
    split
    · exact (neg_neg x).symm
    · exact (neg_neg best).symm

private theorem extreme_smaller (best : Double) (numbers : List Double) :
    extreme smaller best numbers = (extreme larger best.neg (numbers.map neg)).neg := by
  induction numbers generalizing best with
  | nil => exact (neg_neg best).symm
  | cons x rest ih =>
    have same : x.neg.isNaN = x.isNaN := by
      cases x <;> rfl
    rw [List.map_cons, extreme, extreme, same, ih, smaller_eq, neg_neg]
    split <;> rfl

/-- The greatest number among the arguments. -/
def maximum (args : List Value) : Double :=
  extreme larger (.infinite true) (args.map Value.toNumber)

/-- The least number among the arguments. -/
def minimum (args : List Value) : Double :=
  extreme smaller (.infinite false) (args.map Value.toNumber)

private theorem isMaximum_maximum (args : List Value) :
    IsMaximum (args.map Value.toNumber) (maximum args) := by
  obtain ⟨nan, greatest⟩ := @extreme_larger (.infinite true) (by simp) (args.map Value.toNumber)
  by_cases none : .nan ∈ args.map Value.toNumber
  · have same : maximum args = .nan := nan.mpr none
    exact ⟨nan, fun number => absurd same number, fun number => absurd same number⟩
  · obtain ⟨member, bounds⟩ := greatest none
    exact isMaximum_of_lowest none member fun y known => bounds y (List.mem_cons_of_mem _ known)

private theorem minimum_eq (args : List Value) :
    minimum args = (maximum (args.map fun v => .number v.toNumber.neg)).neg := by
  rw [minimum, extreme_smaller, maximum, List.map_map, List.map_map]
  rfl

private theorem neg_minimum (args : List Value) :
    (minimum args).neg = maximum (args.map fun v => .number v.toNumber.neg) := by
  rw [minimum_eq, neg_neg]

private theorem isMinimum_minimum (args : List Value) :
    IsMinimum (args.map Value.toNumber) (minimum args) := by
  have greatest := isMaximum_maximum (args.map fun v => .number v.toNumber.neg)
  rw [List.map_map] at greatest
  rw [minimum_eq]
  apply IsMaximum.isMinimum
  rw [List.map_map]
  exact greatest

variable {args other : List Value}

private theorem maximum_perm (order : args.Perm other) : maximum other = maximum args :=
  (isMaximum_maximum other).unique (fun _ => (order.map Value.toNumber).mem_iff.symm)
    (isMaximum_maximum args)

private theorem minimum_perm (order : args.Perm other) : minimum other = minimum args := by
  rw [minimum_eq, minimum_eq args, maximum_perm (order.map _)]

private theorem maximum_append (args more : List Value) :
    maximum (args ++ more) = maximum [.number (maximum args), .number (maximum more)] := by
  have both := isMaximum_maximum [.number (maximum args), .number (maximum more)]
  have joined := (isMaximum_maximum args).append (isMaximum_maximum more) both
  rw [← List.map_append] at joined
  exact (isMaximum_maximum _).unique (fun _ => Iff.rfl) joined

private theorem minimum_append (args more : List Value) :
    minimum (args ++ more) = minimum [.number (minimum args), .number (minimum more)] := by
  rw [minimum_eq, List.map_append, maximum_append, minimum_eq [_, _], ← neg_minimum, ← neg_minimum]
  rfl

end Builtin

open Builtin

/-- `Math.max` answers with the greatest and `Math.min` with the least of the arguments' numbers.
Both are NaN exactly when one of these is, the order and the grouping of the arguments do not
matter, and the minimum is the maximum of the negated numbers, negated. -/
theorem extremes_of_arguments (origin : Nat) (args : List Value) :
    (mathMax.call origin args = .ok (.number (maximum args)) ∧
        Double.IsMaximum (args.map Value.toNumber) (maximum args)) ∧
      (mathMin.call origin args = .ok (.number (minimum args)) ∧
        Double.IsMinimum (args.map Value.toNumber) (minimum args)) ∧
      (∀ other, args.Perm other →
        mathMax.call origin other = mathMax.call origin args ∧
          mathMin.call origin other = mathMin.call origin args) ∧
      (∀ more,
        mathMax.call origin (args ++ more) =
            mathMax.call origin [.number (maximum args), .number (maximum more)] ∧
          mathMin.call origin (args ++ more) =
            mathMin.call origin [.number (minimum args), .number (minimum more)]) ∧
      minimum args = (maximum (args.map fun v => .number v.toNumber.neg)).neg := by
  refine ⟨⟨rfl, isMaximum_maximum args⟩, ⟨rfl, isMinimum_minimum args⟩, fun other order => ?_,
    fun more => ?_, minimum_eq args⟩
  · exact ⟨congrArg (Except.ok ∘ Value.number) (maximum_perm order),
      congrArg (Except.ok ∘ Value.number) (minimum_perm order)⟩
  · exact ⟨congrArg (Except.ok ∘ Value.number) (maximum_append args more),
      congrArg (Except.ok ∘ Value.number) (minimum_append args more)⟩

/-- A positive zero is found behind and before a negative one, also when it is written as a text. -/
theorem extremes_of_arguments_zeros :
    [Value.number (.zero true), .text "0"].Perm [.text "0", .number (.zero true)] ∧
      mathMax.call 0 [.text "0", .number (.zero true)] = .ok (.number (.zero false)) ∧
      mathMin.call 0 [.text "0", .number (.zero true)] = .ok (.number (.zero true)) := by
  have order : [Value.number (.zero true), .text "0"].Perm [.text "0", .number (.zero true)] :=
    .swap ..
  obtain ⟨⟨greatest, -⟩, ⟨least, -⟩, reordered, -⟩ :=
    extremes_of_arguments 0 [.number (.zero true), .text "0"]
  have upper : maximum [.number (.zero true), .text "0"] = .zero false := by decide +kernel
  have lower : minimum [.number (.zero true), .text "0"] = .zero true := by decide +kernel
  refine ⟨order, ?_, ?_⟩
  · rw [(reordered _ order).1, greatest, upper]
  · rw [(reordered _ order).2, least, lower]

end ExprTree
