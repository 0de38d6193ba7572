import ExprTree.Double.Bits
import ExprTree.Proofs.Shortest
import Mathlib.Tactic.Linarith

/-! Every number is the number of its own 64 bits. -/
namespace ExprTree.Double

private theorem digitPatterns_eq : digitPatterns = 2 ^ 52 := rfl

private theorem infinityBits_eq : infinityBits = 2047 * 2 ^ 52 := rfl

section Magnitude

variable {units lead spare : Nat} (normal : Normal units lead spare)
include normal

theorem Normal.roundUnits_one : roundUnits units 1 = units := by
  have step := Nat.two_pow_pos spare
  refine normal.roundUnits_wide (by decide) ?_ (by linarith) (by linarith) (by omega)
  refine normal.leading.imp id fun leading => ?_
  rw [Nat.mul_one, normal.same]
  exact Nat.mul_le_mul_right _ leading

/-- The pattern counts the spare bits above the leading ones. -/
theorem Normal.magnitudeBits_eq : magnitudeBits units = spare * 2 ^ 52 + lead := by
  unfold magnitudeBits
  rw [digitPatterns_eq, normal.place, Nat.pow_eq]
  split
  · rename_i small
    have none : spare = 0 := by
      rw [← normal.place]
      exact spareBits_eq (.inl rfl) (by omega)
    rw [normal.same, none]
    omega
  · rw [normal.same, Nat.mul_div_cancel _ (Nat.two_pow_pos spare)]

private theorem Normal.magnitudeUnits_magnitudeBits :
    magnitudeUnits (magnitudeBits units) = units := by
  have fits := normal.fits
  unfold magnitudeUnits
  rw [normal.magnitudeBits_eq, digitPatterns_eq, Nat.pow_eq]
  by_cases small : lead < 2 ^ 52
  · have none : spare = 0 := normal.leading.resolve_right (by omega)
    rw [if_pos (by omega), normal.same, none]
    omega
  · have power : (spare * 2 ^ 52 + lead) / 2 ^ 52 = spare + 1 := by omega
    have digits : 2 ^ 52 + (spare * 2 ^ 52 + lead) % 2 ^ 52 = lead := by omega
    rw [power, digits, if_neg (by omega), Nat.add_sub_cancel, normal.same]

end Magnitude

section Finite

variable {units : Nat} (fits : Representable units)
include fits

theorem ofUnits_of_representable (negative : Bool) :
    ofUnits negative units = .finite negative units fits := by
  obtain ⟨lead, normal⟩ := fits.normal
  exact ofRatio_eq negative fits normal.roundUnits_one

private theorem magnitudeBits_lt_infinityBits : magnitudeBits units < infinityBits := by
  obtain ⟨lead, normal⟩ := fits.normal
  have below := normal.fits
  have place : spareBits units ≤ 2045 := by
    unfold spareBits
    by_cases zero : units = 0
    · rw [zero, Nat.log2_zero]
      decide
    · have small : units.log2 < 2098 := fits.log2_lt zero
      omega
  rw [normal.magnitudeBits_eq, infinityBits_eq]
  omega

end Finite

section Sign

variable (negative : Bool) {pattern : Nat} (small : pattern < 2 ^ 63)
include small

private theorem sign_of_bits :
    (((if negative then Nat.pow 2 63 else 0) + pattern) / Nat.pow 2 63 % 2 == 1) = negative := by
  rw [Nat.pow_eq, beq_eq_decide]
  cases negative
  · rw [if_neg Bool.false_ne_true]
    exact decide_eq_false (by omega)
  · rw [if_pos rfl]
    exact decide_eq_true (by omega)

private theorem pattern_of_bits :
    ((if negative then Nat.pow 2 63 else 0) + pattern) % Nat.pow 2 63 = pattern := by
  rw [Nat.pow_eq]
  split <;> omega

private theorem bits_lt : (if negative then Nat.pow 2 63 else 0) + pattern < 2 ^ 64 := by
  rw [Nat.pow_eq]
  split <;> omega

end Sign

theorem toBits_lt (x : Double) : x.toBits < 2 ^ 64 := by
  cases x with
  | nan => decide
  | infinite negative => exact bits_lt negative (by decide)
  | finite negative units fits =>
    exact bits_lt negative (Nat.lt_trans (magnitudeBits_lt_infinityBits fits) (by decide))

theorem ofBits_toBits (x : Double) : ofBits x.toBits = x := by
  cases x with
  | nan => decide
  | infinite negative =>
    have small : infinityBits < 2 ^ 63 := by decide
    unfold toBits ofBits
    simp only [sign_of_bits negative small, pattern_of_bits negative small]
    rw [if_neg (Nat.lt_irrefl _), if_true]
  | finite negative units fits =>
    obtain ⟨lead, normal⟩ := fits.normal
    have finite := magnitudeBits_lt_infinityBits fits
    have small : magnitudeBits units < 2 ^ 63 := Nat.lt_trans finite (by decide)
    unfold toBits ofBits
    simp only [sign_of_bits negative small, pattern_of_bits negative small]
    rw [if_neg (Nat.not_lt.mpr finite.le), if_neg finite.ne, normal.magnitudeUnits_magnitudeBits,
      ofUnits_of_representable fits]

end ExprTree.Double
