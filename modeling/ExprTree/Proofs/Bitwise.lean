import ExprTree.Operator.Binary
import ExprTree.Operator.Unary
import ExprTree.Proofs.IntegerPart

/-!
The bitwise operators. Operands are taken as words, the residues modulo `2^32` of their integer
parts. Main statement: every operator gives the exact integer that it stands for on words, signed by
the balanced residue or left unsigned.
-/
namespace ExprTree

/-- The result is the number that is exactly an integer; zero is positive. -/
def IsInteger (result : Except Failure Value) (i : Int) : Prop :=
  ∃ x : Double, result = .ok (.number x) ∧ x.isFinite = true ∧ x.exact = i ∧
    x.signBit = decide (i < 0)

/-- The signed reading of a word: the residue modulo `2^32` from `-2^31` up to `2^31`. -/
def signedWord (n : Int) : Int := n.bmod (2 ^ 32)

example : [2 ^ 31 - 1, 2 ^ 31, 2 ^ 32 - 1].map signedWord = [2 ^ 31 - 1, -2 ^ 31, -1] := by decide

namespace Value

/-- The word of a value. -/
def word (v : Value) : Nat := v.toNumber.word

theorem word_lt (v : Value) : v.word < 2 ^ 32 := v.toNumber.word_lt

theorem toNat_toUInt32 (v : Value) : v.toUInt32.toNat = v.word :=
  v.toNumber.toNat_toUInt32

theorem toInt_toInt32 (v : Value) : v.toInt32.toInt = signedWord v.word :=
  v.toNumber.toInt_toInt32

end Value

section Words

private theorem signedWord_bounds (n : Int) : -2 ^ 31 ≤ signedWord n ∧ signedWord n < 2 ^ 31 :=
  ⟨Int.le_bmod (by decide), Int.bmod_lt (by decide)⟩

/-- Residues modulo `2^32` are read alike. -/
theorem signedWord_residue (i : Int) : signedWord (i % 2 ^ 32).toNat = signedWord i := by
  rw [Int.toNat_of_nonneg (by omega)]
  exact Int.emod_bmod i (2 ^ 32)

private theorem signedWord_eq_self {n : Int} (low : -2 ^ 31 ≤ n) (high : n < 2 ^ 31) :
    signedWord n = n :=
  Int.bmod_eq_of_le low high

variable (u v : UInt32)

private theorem toInt_signed : u.toInt32.toInt = signedWord u.toNat :=
  BitVec.toInt_eq_toNat_bmod _

private theorem toNat_low (small : v.toNat < 32) :
    (v.toInt32.toBitVec.smod 32).toNat = v.toNat := by
  have positive : v.toBitVec.msb = false := by
    rw [BitVec.msb_eq_false_iff_two_mul_lt]
    exact Nat.lt_trans (Nat.mul_lt_mul_of_pos_left small (by decide)) (by decide)
  have other : (32 : BitVec 32).msb = false := rfl
  rw [BitVec.smod_eq, UInt32.toBitVec_toInt32, positive, other]
  exact (BitVec.toNat_umod).trans (Nat.mod_eq_of_lt small)

/-- A shift to the right rounds down. -/
theorem toInt_shiftRight (small : v.toNat < 32) :
    (u.toInt32 >>> v.toInt32).toInt = signedWord u.toNat / 2 ^ v.toNat := by
  have shifted : (u.toInt32 >>> v.toInt32).toInt =
      (u.toInt32.toBitVec.sshiftRight' (v.toInt32.toBitVec.smod 32)).toInt := rfl
  rw [shifted, BitVec.toInt_sshiftRight', toNat_low v small, Int.shiftRight_eq_div_pow,
    ← toInt_signed]
  norm_cast

/-- A shift to the left drops what leaves the word. -/
theorem toNat_shiftLeft (small : v.toNat < 32) :
    (u <<< v).toNat = u.toNat * 2 ^ v.toNat % 2 ^ 32 := by
  rw [UInt32.toNat_shiftLeft, Nat.mod_eq_of_lt small, Nat.shiftLeft_eq]

private theorem toNat_shiftRight (small : v.toNat < 32) :
    (u >>> v).toNat = u.toNat / 2 ^ v.toNat := by
  rw [UInt32.toNat_shiftRight, Nat.mod_eq_of_lt small, Nat.shiftRight_eq_div_pow]

end Words

private theorem toNat_shiftCount (v : Value) :
    (BinaryOperator.shiftCount v).toNat = v.word % 32 := by
  rw [BinaryOperator.shiftCount, UInt32.toNat_and, Value.toNat_toUInt32]
  exact Nat.and_two_pow_sub_one_eq_mod _ 5

namespace IsInteger

variable {result other : Except Failure Value} {i : Int}

theorem ofInt (low : -2 ^ 32 < i) (high : i < 2 ^ 32) :
    IsInteger (.ok (.number (Double.ofInt i))) i :=
  ⟨_, rfl, Double.ofInt_small (by omega)⟩

theorem ofNat {n : Nat} (small : n < 2 ^ 32) : IsInteger (.ok (.number (Double.ofNat n))) n := by
  rw [← Double.ofInt_natCast]
  exact ofInt (by omega) (by omega)

/-- There is one number for each integer. -/
theorem unique (first : IsInteger result i) (second : IsInteger other i) : result = other := by
  obtain ⟨x, rfl, finite, value, sign⟩ := first
  obtain ⟨y, rfl, finite', value', sign'⟩ := second
  rw [Double.eq_of_exact finite finite' (value.trans value'.symm) (sign.trans sign'.symm)]

/-- What an operator gives for a word is the word that it was given for the integer. -/
theorem exists_word (integer : IsInteger result i) :
    ∃ v, result = .ok v ∧ v.word = (i % 2 ^ 32).toNat := by
  obtain ⟨x, same, -, value, -⟩ := integer
  exact ⟨.number x, same, Double.word_of_exact value⟩

end IsInteger

section Operators

variable (a b : Value)

private theorem isInteger_ofInt32 (x : Int32) :
    IsInteger (.ok (BinaryOperator.ofInt32 x)) x.toInt := by
  have low := x.le_toInt
  have high := x.toInt_lt
  exact .ofInt (by omega) (by omega)

private theorem isInteger_signed (u : UInt32) :
    IsInteger (.ok (BinaryOperator.ofInt32 u.toInt32)) (signedWord u.toNat) := by
  rw [← toInt_signed]
  exact isInteger_ofInt32 _

/-- An operator on the bits of two words. -/
theorem isInteger_bits {op : UInt32 → UInt32 → UInt32} {bits : Nat → Nat → Nat}
    (words : ∀ u v, (op u v).toNat = bits u.toNat v.toNat) :
    IsInteger (.ok (BinaryOperator.ofInt32 (op a.toUInt32 b.toUInt32).toInt32))
      (signedWord (bits a.word b.word : Nat)) := by
  rw [← a.toNat_toUInt32, ← b.toNat_toUInt32, ← words]
  exact isInteger_signed _

private theorem shiftCount_lt : (BinaryOperator.shiftCount b).toNat < 32 := by
  rw [toNat_shiftCount]
  exact Nat.mod_lt _ (by decide)

private theorem isInteger_shiftLeft :
    IsInteger (applyBinary "<<" a b)
      (signedWord (a.word * 2 ^ (b.word % 32) % 2 ^ 32 : Nat)) := by
  rw [← a.toNat_toUInt32, ← toNat_shiftCount b, ← toNat_shiftLeft _ _ (shiftCount_lt b)]
  exact isInteger_signed _

private theorem isInteger_shiftRight :
    IsInteger (applyBinary ">>" a b) (signedWord a.word / 2 ^ (b.word % 32)) := by
  have shifted := toInt_shiftRight a.toUInt32 (BinaryOperator.shiftCount b) (shiftCount_lt b)
  rw [a.toNat_toUInt32, toNat_shiftCount] at shifted
  rw [← shifted]
  exact isInteger_ofInt32 _

private theorem isInteger_shiftRightZero :
    IsInteger (applyBinary ">>>" a b) (a.word / 2 ^ (b.word % 32) : Nat) := by
  have shifted := toNat_shiftRight a.toUInt32 (BinaryOperator.shiftCount b) (shiftCount_lt b)
  rw [a.toNat_toUInt32, toNat_shiftCount] at shifted
  rw [← shifted]
  exact .ofNat (UInt32.toNat_lt _)

private theorem isInteger_bitNot : IsInteger (applyUnary "~" a) (-signedWord a.word - 1) := by
  obtain ⟨low, high⟩ := signedWord_bounds a.word
  have flipped : (~~~a.toInt32).toInt = -signedWord a.word - 1 := by
    rw [Int32.toInt_not, a.toInt_toInt32]
    exact signedWord_eq_self (by omega) (by omega)
  rw [← flipped]
  exact .ofInt (by omega) (by omega)

end Operators

section Truncation

variable (a : Value)

/-- The number zero as an operand. -/
def nought : Value := .number (.zero false)

private theorem word_nought : nought.word = 0 := Double.word_zero rfl

private theorem isInteger_whole : IsInteger (applyBinary "|" a nought) (signedWord a.word) := by
  have whole := isInteger_bits a nought UInt32.toNat_or
  rw [word_nought, Nat.or_zero] at whole
  exact whole

private theorem bitNot_twice :
    (applyUnary "~" a >>= applyUnary "~") = applyBinary "|" a nought := by
  obtain ⟨low, high⟩ := signedWord_bounds a.word
  obtain ⟨v, same, word⟩ := (isInteger_bitNot a).exists_word
  have back : signedWord v.word = -signedWord a.word - 1 := by
    rw [word, signedWord_residue]
    exact signedWord_eq_self (by omega) (by omega)
  have again := isInteger_bitNot v
  rw [back, show -(-signedWord a.word - 1) - 1 = signedWord a.word by omega] at again
  rw [same]
  exact again.unique (isInteger_whole a)

private theorem shiftRight_nought : applyBinary ">>" a nought = applyBinary "|" a nought := by
  have shifted := isInteger_shiftRight a nought
  rw [word_nought, Nat.zero_mod, pow_zero, Int.ediv_one] at shifted
  exact shifted.unique (isInteger_whole a)

private theorem shiftLeft_nought : applyBinary "<<" a nought = applyBinary "|" a nought := by
  have shifted := isInteger_shiftLeft a nought
  rw [word_nought, Nat.zero_mod, pow_zero, mul_one, Nat.mod_eq_of_lt a.word_lt] at shifted
  exact shifted.unique (isInteger_whole a)

private theorem shiftRightZero_nought :
    (applyBinary ">>>" a nought >>= (applyBinary "|" · nought)) = applyBinary "|" a nought := by
  have shifted := isInteger_shiftRightZero a nought
  rw [word_nought, Nat.zero_mod, pow_zero, Nat.div_one] at shifted
  obtain ⟨v, same, word⟩ := shifted.exists_word
  have whole := isInteger_whole v
  rw [word, signedWord_residue] at whole
  rw [same]
  exact whole.unique (isInteger_whole a)

end Truncation

/-- Bitwise operators compute on words exactly. The conversions leave the word of an operand, also
when it is computed by truncation and remainder in numbers; every operator gives the integer that it
stands for; and the operators that leave a word alone agree on what they make of any value. -/
theorem bitwise_operators_exact (a b : Value) :
    (a.toUInt32.toNat = a.word ∧ a.toInt32.toInt = signedWord a.word ∧
      a.toNumber.wrapped.isFinite = true ∧ a.toNumber.wrapped.exact = a.word) ∧
    (IsInteger (applyBinary "|" a b) (signedWord (a.word ||| b.word : Nat)) ∧
      IsInteger (applyBinary "&" a b) (signedWord (a.word &&& b.word : Nat)) ∧
      IsInteger (applyBinary "^" a b) (signedWord (a.word ^^^ b.word : Nat)) ∧
      IsInteger (applyBinary "<<" a b)
        (signedWord (a.word * 2 ^ (b.word % 32) % 2 ^ 32 : Nat)) ∧
      IsInteger (applyBinary ">>" a b) (signedWord a.word / 2 ^ (b.word % 32)) ∧
      IsInteger (applyBinary ">>>" a b) (a.word / 2 ^ (b.word % 32) : Nat) ∧
      IsInteger (applyUnary "~" a) (-signedWord a.word - 1)) ∧
    ((applyUnary "~" a >>= applyUnary "~") = applyBinary "|" a nought ∧
      applyBinary ">>" a nought = applyBinary "|" a nought ∧
      applyBinary "<<" a nought = applyBinary "|" a nought ∧
      (applyBinary ">>>" a nought >>= (applyBinary "|" · nought)) =
        applyBinary "|" a nought) := by
  have disjoined := isInteger_bits a b UInt32.toNat_or
  have conjoined := isInteger_bits a b UInt32.toNat_and
  have parted := isInteger_bits a b UInt32.toNat_xor
  exact ⟨⟨a.toNat_toUInt32, a.toInt_toInt32, a.toNumber.exact_wrapped⟩,
    ⟨disjoined, conjoined, parted, isInteger_shiftLeft a b, isInteger_shiftRight a b,
      isInteger_shiftRightZero a b, isInteger_bitNot a⟩,
    bitNot_twice a, shiftRight_nought a, shiftLeft_nought a, shiftRightZero_nought a⟩

end ExprTree
