import ExprTree.Proofs.IntegerPart
import ExprTree.Proofs.NumberLayout
import ExprTree.Proofs.NumberReaders

/-!
The text of integers. Below `2^53` an integer is the only one that reads as its number, so the
shortest decimal is the integer itself. Main statement: such a number has the decimal numeral of the
integer as its text, and no other number has.
-/
namespace ExprTree

namespace Numeral

/-- Powers of ten as factors are zeros at the end of a numeral. -/
theorem toDigits_mul_pow {n : Nat} (positive : 0 < n) (k : Nat) :
    Nat.toDigits 10 (n * 10 ^ k) = Nat.toDigits 10 n ++ List.replicate k '0' := by
  induction k with
  | zero => simp
  | succ k ih =>
    have some : 0 < n * 10 ^ k := Nat.mul_pos positive (Nat.pow_pos (by decide))
    have power : n * 10 ^ (k + 1) = 10 * (n * 10 ^ k) + 0 := by ring
    rw [power, ← Nat.toDigits_append_toDigits (by decide) some (by decide), ih,
      List.append_assoc, List.replicate_succ']
    rfl

/-- The decimal digits are the digits of base ten. -/
theorem digitValue_lt_ten_iff {c : Char} : digitValue c < 10 ↔ c.isDigit = true := by
  constructor
  · intro small
    unfold digitValue at small
    split at small
    · rename_i digit
      simpa [Char.isDigit, Char.le_def] using digit
    · split at small
      · omega
      · split at small <;> omega
  · intro digit
    have bounds := toNat_of_isDigit digit
    have value : digitValue c = c.toNat - 48 := digitValue_of_isDigit digit
    omega

private theorem digitChar_digitValue {c : Char} (digit : c.isDigit = true) :
    Nat.digitChar (digitValue c) = c := by
  have bounds := toNat_of_isDigit digit
  have value : digitValue c = c.toNat - 48 := digitValue_of_isDigit digit
  apply Char.toNat_inj.mp
  rw [Nat.toNat_digitChar_of_lt_ten (digitValue_lt_ten_iff.mpr digit), value]
  omega

/-- Digits that can be a numeral: no zero stands in front of others. -/
structure IsNumeral (digits : List Char) : Prop where
  all : AllDigits digits
  leading : digits = ['0'] ∨ ∃ c rest, digits = c :: rest ∧ c ≠ '0'

theorem isNumeral_toDigits (n : Nat) : IsNumeral (Nat.toDigits 10 n) where
  all := allDigits_toDigits n
  leading := by
    rcases Nat.eq_zero_or_pos n with rfl | positive
    · exact .inl rfl
    · exact .inr (toDigits_eq_cons positive)

theorem isNumeral_cons {c : Char} {rest : List Char} :
    IsNumeral (c :: rest) ↔ AllDigits (c :: rest) ∧ (c = '0' → rest = []) := by
  constructor
  · rintro ⟨all, alone | ⟨d, more, same, nonzero⟩⟩
    · exact ⟨all, fun _ => (List.cons.inj alone).2⟩
    · exact ⟨all, fun zero => absurd ((List.cons.inj same).1.symm.trans zero) nonzero⟩
  · rintro ⟨all, plain⟩
    refine ⟨all, ?_⟩
    by_cases zero : c = '0'
    · exact .inl (by rw [zero, plain zero])
    · exact .inr ⟨c, rest, rfl, zero⟩

private theorem valueOf_append_singleton (digits : List Char) (last : Char) :
    valueOf 10 (digits ++ [last]) = 10 * valueOf 10 digits + digitValue last := by
  rw [valueOf_append, Nat.mul_comm]
  rfl

private theorem valueOf_pos {c : Char} {rest : List Char} (digit : c.isDigit = true)
    (leading : c ≠ '0') :
    0 < valueOf 10 (c :: rest) := by
  have grown := le_foldl_digits (show 0 < 10 by decide) rest (0 * 10 + digitValue c)
  have own : digitValue c ≠ 0 := by
    intro zero
    have char := digitChar_digitValue digit
    rw [zero] at char
    exact leading char.symm
  rw [valueOf, List.foldl_cons]
  omega

/-- A numeral is the numeral of its value. The induction takes the last digit off, which leaves the
zeros in front where they are. -/
theorem toDigits_valueOf {digits : List Char} (numeral : IsNumeral digits) :
    Nat.toDigits 10 (valueOf 10 digits) = digits := by
  obtain ⟨all, leading⟩ := numeral
  induction digits using List.reverseRecOn with
  | nil => rcases leading with none | ⟨_, _, none, _⟩ <;> cases none
  | append_singleton front last ih =>
    have digit : last.isDigit = true := all last (by simp)
    have small := digitValue_lt_ten_iff.mpr digit
    have alone : Nat.toDigits 10 (digitValue last) = [last] := by
      rw [Nat.toDigits_of_lt_base small, digitChar_digitValue digit]
    rw [valueOf_append_singleton]
    cases front with
    | nil =>
      have value : 10 * valueOf 10 [] + digitValue last = digitValue last := by
        rw [valueOf, List.foldl_nil, Nat.mul_zero, Nat.zero_add]
      rw [value, alone]
      rfl
    | cons c rest =>
      have first : c ≠ '0' := by
        rcases leading with zero | ⟨d, others, same, nonzero⟩
        · simp at zero
        · rw [List.cons_append] at same
          exact (List.cons.inj same).1 ▸ nonzero
      have known := ih (fun d member => all d (List.mem_append_left _ member))
        (.inr ⟨c, rest, rfl, first⟩)
      rw [← Nat.toDigits_append_toDigits (by decide) (valueOf_pos (all c (by simp)) first) small,
        known, alone]

theorem eq_toDigits_iff {digits : List Char} {n : Nat} :
    digits = Nat.toDigits 10 n ↔ IsNumeral digits ∧ valueOf 10 digits = n := by
  constructor
  · rintro rfl
    exact ⟨isNumeral_toDigits n, valueOf_toDigits n⟩
  · rintro ⟨numeral, rfl⟩
    exact (toDigits_valueOf numeral).symm

end Numeral

namespace Double

private theorem exponent_le_stripZeros (fuel : Nat) (d : Decimal) :
    d.exponent ≤ (Decimal.stripZeros fuel d).exponent := by
  induction fuel generalizing d with
  | zero => exact le_refl _
  | succ fuel ih =>
    rw [Decimal.stripZeros]
    split
    · exact (Int.le_of_lt (Int.lt_succ _)).trans (ih _)
    · exact le_refl _

/-- A decimal without a fraction is written as its digits and the zeros behind them, unless these
are many. -/
theorem toText_of_whole {units k : Nat} (fits : Representable units) (some : 0 < units)
    (exponent : (shortest units).exponent = k)
    (short : (Nat.toDigits 10 (shortest units).digits).length + k ≤ 21) :
    (finite false units fits).toText.toList =
      Nat.toDigits 10 (shortest units).digits ++ List.replicate k '0' := by
  have present : Nat.toDigits 10 (shortest units).digits ≠ [] := Nat.toDigits_ne_nil
  have moderate := moderate_iff fits some
  have width : (shortest units).width = (Nat.toDigits 10 (shortest units).digits).length := rfl
  rw [exponent, width] at moderate
  rw [toText, if_neg some.ne']
  dsimp only
  rw [Nat.toString_eq_repr, Nat.toList_repr, exponent]
  generalize Nat.toDigits 10 (shortest units).digits = written at *
  have zeros : ((k : Int) + written.length - written.length).toNat = k := by omega
  rw [if_pos (moderate.mpr ⟨by omega, by omega⟩), if_neg Bool.false_ne_true, String.toList_ofList,
    positional_eq_layout present (by omega) (by omega), layout, if_pos ⟨by omega, by omega⟩, zeros]

section Integer

variable {n : Nat}

private theorem magnitude_integer (n : Nat) : magnitude (n * oneUnits) = n := by
  rw [magnitude, Nat.cast_mul]
  exact mul_div_cancel_right₀ _ oneUnits_cast_pos.ne'

private theorem value_integer (n : Nat) : (⟨n, 0⟩ : Decimal).value = n := by
  rw [Decimal.value, zpow_zero, mul_one]

variable (positive : 0 < n)
include positive

private theorem units_pos : 0 < n * oneUnits :=
  Nat.mul_pos positive oneUnits_pos

private theorem within_integer (small : n ≤ 2 ^ 53) : Within (n * oneUnits) ⟨n, 0⟩ := by
  have fits := representable_small small
  refine (within_shortest fits (units_pos positive)).toward fits (units_pos positive) ?_
  rw [value_integer, magnitude_integer]
  exact Set.left_mem_uIcc

/-- Of the integers that have a number of their own, no other reads as the number of `n`. -/
theorem eq_of_within_small (small : n ≤ 2 ^ 53) {k : Nat} (other : 0 < k) (bounded : k ≤ 2 ^ 53)
    (inside : Within (n * oneUnits) ⟨k, 0⟩) : k = n := by
  have own := within_integer other bounded
  rw [within_iff_roundUnits (representable_small bounded) (units_pos other)] at own
  rw [within_iff_roundUnits (representable_small small) (units_pos positive), own] at inside
  exact Nat.eq_of_mul_eq_mul_right oneUnits_pos inside

/-- No other integer reads as a number below `2^53`: the one next to it would as well, but that has
a number of its own. -/
theorem eq_of_within_integer (small : n < 2 ^ 53) {m : Nat}
    (inside : Within (n * oneUnits) ⟨m, 0⟩) : m = n := by
  have fits := representable_small small.le
  rcases Nat.lt_or_ge n m with above | below
  · have next : Within (n * oneUnits) ⟨n + 1, 0⟩ := by
      refine inside.toward fits (units_pos positive) (Set.mem_uIcc.mpr (.inl ?_))
      rw [value_integer, value_integer, magnitude_integer]
      exact ⟨Nat.cast_le.mpr (Nat.le_succ n), Nat.cast_le.mpr above⟩
    have same := eq_of_within_small positive small.le n.succ_pos small next
    omega
  · have some := within_digits_pos fits (units_pos positive) inside
    exact eq_of_within_small positive small.le some (below.trans small.le) inside

private theorem one_le_point (fits : Representable (n * oneUnits)) : 1 ≤ point (n * oneUnits) := by
  have high := not_atLeast_point fits (units_pos positive)
  rw [atLeast_iff, magnitude_integer] at high
  by_contra behind
  have power : (10 : ℚ) ^ point (n * oneUnits) ≤ 10 ^ (0 : Int) :=
    zpow_le_zpow_right₀ (by norm_num) (by omega)
  rw [zpow_zero] at power
  exact high (power.trans (Nat.one_le_cast.mpr positive))

/-- The shortest decimal of an integer has no fraction: the grid of integers is reached before any
finer one. -/
theorem shortest_exponent_nonneg (small : n ≤ 2 ^ 53) :
    0 ≤ (shortest (n * oneUnits)).exponent := by
  have fits := representable_small small
  have before := one_le_point positive fits
  obtain ⟨m, used, present, few, found, missed, same⟩ := shortest_eq fits (units_pos positive)
  have coarse : (used : Int) ≤ point (n * oneUnits) := by
    by_contra finer
    have passed := missed (point (n * oneUnits)).toNat (by omega) (by omega)
    rw [Int.toNat_of_nonneg (by omega), Int.sub_self] at passed
    exact onGrid?_ne_none_of_within fits (units_pos positive) (within_integer positive small) passed
  rw [same]
  exact (Int.sub_nonneg_of_le coarse).trans
    (exponent_le_stripZeros 20 ⟨m, point (n * oneUnits) - used⟩)

/-- The shortest decimal of an integer is the integer. -/
theorem shortest_integer (small : n < 2 ^ 53) :
    ∃ k : Nat, (shortest (n * oneUnits)).exponent = k ∧
      (shortest (n * oneUnits)).digits * 10 ^ k = n := by
  have whole := shortest_exponent_nonneg positive small.le
  have inside := within_shortest (representable_small small.le) (units_pos positive)
  generalize shortest (n * oneUnits) = d at inside whole ⊢
  obtain ⟨k, exponent⟩ := Int.eq_ofNat_of_zero_le whole
  obtain ⟨digits, e⟩ := d
  obtain rfl : e = k := exponent
  refine ⟨k, rfl, eq_of_within_integer positive small ?_⟩
  rw [within_shift, Int.zero_add]
  exact inside

private theorem toText_integer (small : n < 2 ^ 53) (fits : Representable (n * oneUnits)) :
    (finite false (n * oneUnits) fits).toText = Nat.repr n := by
  obtain ⟨k, exponent, digits⟩ := shortest_integer positive small
  have leading : 0 < (shortest (n * oneUnits)).digits :=
    Nat.pos_of_mul_pos_right (digits ▸ positive)
  have numeral : Nat.toDigits 10 n =
      Nat.toDigits 10 (shortest (n * oneUnits)).digits ++ List.replicate k '0' := by
    rw [← Numeral.toDigits_mul_pow leading, digits]
  have short : (Nat.toDigits 10 n).length ≤ 16 :=
    (Nat.length_toDigits_le_iff (by decide) (by decide)).mpr (small.trans (by norm_num))
  rw [numeral, List.length_append, List.length_replicate] at short
  rw [← String.toList_inj, Nat.toList_repr, numeral,
    toText_of_whole fits (units_pos positive) exponent (by omega)]

end Integer

/-- A number that is a natural number; both zeros are. -/
def IsNat (x : Double) (n : Nat) : Prop :=
  x.isFinite = true ∧ x.exact = n

theorem isNat_ofNat {n : Nat} (small : n ≤ 2 ^ 53) : (ofNat n).IsNat n := by
  rw [ofNat_small small]
  exact ⟨rfl, exact_finite _⟩

theorem IsNat.unique {x : Double} {m n : Nat} (one : x.IsNat m) (two : x.IsNat n) : m = n :=
  Nat.cast_injective (one.2.symm.trans two.2)

private theorem IsNat.signed_eq {negative : Bool} {units n : Nat} {fits : Representable units}
    (integer : (finite negative units fits).IsNat n) : signed negative units = n * oneUnits := by
  have value := integer.2
  rw [exact, div_eq_iff oneUnits_cast_pos.ne'] at value
  exact_mod_cast value

theorem IsNat.cases {x : Double} {n : Nat} (integer : x.IsNat n) :
    (n = 0 ∧ x.isZero = true) ∨ (0 < n ∧ ∃ fits, x = finite false (n * oneUnits) fits) := by
  cases x with
  | nan | infinite => cases integer.1
  | finite negative units fits =>
    have scaled := integer.signed_eq
    rcases Nat.eq_zero_or_pos n with rfl | positive
    · have nought : units = 0 := by
        unfold signed at scaled
        split at scaled <;> omega
      exact .inl ⟨rfl, by rw [isZero, nought]; rfl⟩
    · refine .inr ⟨positive, ?_⟩
      have some := units_pos positive
      cases negative with
      | true =>
        simp only [signed, if_true] at scaled
        omega
      | false =>
        simp only [signed, Bool.false_eq_true, if_false] at scaled
        obtain rfl : n * oneUnits = units := by
          rw [← Int.natCast_inj, scaled, Int.natCast_mul]
        exact ⟨fits, rfl⟩

private theorem toText_of_isZero {x : Double} (zero : x.isZero = true) : x.toText = Nat.repr 0 := by
  cases x with
  | nan | infinite => cases zero
  | finite negative units fits =>
    rw [toText, if_pos (by simpa [isZero] using zero)]
    rfl

private theorem exact_unsignedZero (x : Double) : x.unsignedZero.exact = x.exact := by
  unfold unsignedZero
  split
  · rename_i none
    exact (exact_of_isZero rfl).trans (exact_of_isZero none).symm
  · rfl

/-- Numerals start with a digit, which the names of the numbers that are not finite do not. -/
theorem isFinite_of_toText_eq_repr {x : Double} {n : Nat} (text : x.toText = Nat.repr n) :
    x.isFinite = true := by
  have digits := Numeral.allDigits_toDigits n
  rw [← Nat.toList_repr, ← text] at digits
  cases x with
  | nan => exact absurd (digits 'N' (by decide)) (by decide)
  | infinite negative =>
    cases negative with
    | false => exact absurd (digits 'I' (by decide)) (by decide)
    | true => exact absurd (digits '-' (by decide)) (by decide)
  | finite => rfl

/-- The numbers that have the numeral of a small natural number as their text are those that are
this natural number. -/
theorem toText_eq_repr_iff {x : Double} {n : Nat} (small : n < 2 ^ 53) :
    x.toText = Nat.repr n ↔ x.IsNat n := by
  have written : ∀ y : Double, y.IsNat n → y.toText = Nat.repr n := by
    intro y integer
    rcases integer.cases with ⟨rfl, zero⟩ | ⟨positive, fits, rfl⟩
    · exact toText_of_isZero zero
    · exact toText_integer positive small fits
  refine ⟨fun text => ?_, written x⟩
  have finite := isFinite_of_toText_eq_repr text
  have integer := isNat_ofNat small.le
  have same := decimal?_toText finite
  rw [text, ← written _ integer, decimal?_toText integer.1] at same
  refine ⟨finite, ?_⟩
  rw [← exact_unsignedZero, ← Option.some.inj same, exact_unsignedZero, integer.2]

end Double

end ExprTree
