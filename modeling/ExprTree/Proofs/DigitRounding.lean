import ExprTree.Proofs.Nearest
import ExprTree.Proofs.NumberBits
import ExprTree.Value.Convert

/-!
Digits accumulated one by one in numbers of 53 bits, in a base that is a power of two. What has been
read stays exact up to the first digit that takes it to `2^53`; that digit rounds it, and all later
ones only scale it. Main statements: the sum is the number nearest to the value with zeros for the
later digits, and this is the number nearest to the value itself unless those digits had to break a
tie.
-/
namespace ExprTree

namespace Double

theorem ofRatio_congr (negative : Bool) {num den num' den' : Nat}
    (same : roundUnits num den = roundUnits num' den') :
    ofRatio negative num den = ofRatio negative num' den' := by
  unfold ofRatio
  simp only [same]

/-- The leading one of a magnitude that uses all 53 bits. -/
theorem spareBits_bounds {units : Nat} (large : 2 ^ 52 ≤ units) :
    2 ^ (52 + spareBits units) ≤ units ∧ units < 2 ^ (53 + spareBits units) := by
  have nonzero : units ≠ 0 := (Nat.lt_of_lt_of_le (Nat.two_pow_pos 52) large).ne'
  have bits : 52 ≤ units.log2 := (Nat.le_log2 nonzero).mpr large
  have place : 52 + spareBits units = units.log2 := by
    unfold spareBits
    omega
  have next : 53 + spareBits units = units.log2 + 1 := by omega
  rw [place, next]
  exact ⟨Nat.log2_self_le nonzero, Nat.lt_log2_self⟩

private theorem spareBits_mul_pow {units : Nat} (large : 2 ^ 52 ≤ units) (k : Nat) :
    spareBits (units * 2 ^ k) = spareBits units + k := by
  obtain ⟨low, high⟩ := spareBits_bounds large
  refine spareBits_eq (.inr ?_) ?_
  · rw [← Nat.add_assoc, Nat.pow_add]
    exact Nat.mul_le_mul_right _ low
  · rw [← Nat.add_assoc, Nat.pow_add]
    exact Nat.mul_lt_mul_of_pos_right high (Nat.two_pow_pos k)

/-- Rounding commutes with powers of two where all 53 bits are in use. -/
theorem roundUnits_mul_pow {units : Nat} (large : 2 ^ 52 ≤ units) (k : Nat) :
    roundUnits (units * 2 ^ k) 1 = roundUnits units 1 * 2 ^ k := by
  unfold roundUnits
  simp only [Nat.div_one, Nat.one_mul, Nat.pow_eq]
  rw [spareBits_mul_pow large, Nat.pow_add, nearestEven_scale _ _ (Nat.two_pow_pos k),
    Nat.mul_assoc]

theorem Stored.representable {units : Nat} (stored : Stored units) (small : units < limitUnits) :
    Representable units :=
  ⟨small, stored⟩

theorem Stored.roundUnits_one {units : Nat} (stored : Stored units) : roundUnits units 1 = units := by
  obtain ⟨lead, normal⟩ := stored.normal
  exact normal.roundUnits_one

private theorem Stored.mul_pow {units : Nat} (stored : Stored units) (k : Nat) :
    Stored (units * 2 ^ k) := by
  obtain ⟨lead, normal⟩ := stored.normal
  rw [normal.same, Nat.mul_assoc, ← Nat.pow_add]
  exact stored_scaled _ normal.fits.le

section Natural

variable {n : Nat}

private theorem le_mul_oneUnits (positive : 0 < n) : 2 ^ 52 ≤ n * oneUnits :=
  calc 2 ^ 52 ≤ oneUnits := two_pow_le_twoPow (by decide)
    _ ≤ n * oneUnits := Nat.le_mul_of_pos_left _ positive

/-- The magnitude nearest to a natural number. -/
def roundNat (n : Nat) : Nat := roundUnits (n * oneUnits) 1

theorem roundNat_stored (n : Nat) : Stored (roundNat n) :=
  (roundUnits_nearest _ Nat.one_pos).stored

private theorem roundNat_mono {m : Nat} (le : n ≤ m) : roundNat n ≤ roundNat m := by
  refine roundUnits_mono Nat.one_pos Nat.one_pos ?_
  rw [Nat.mul_one, Nat.mul_one]
  exact Nat.mul_le_mul_right _ le

/-- Up to `2^53` every natural number is exact, and so are its products with powers of two. -/
theorem roundNat_exact (small : n ≤ 2 ^ 53) (k : Nat) :
    roundNat (n * 2 ^ k) = n * 2 ^ k * oneUnits := by
  have stored : Stored (n * 2 ^ k * oneUnits) := by
    rw [oneUnits_eq, Nat.mul_assoc, ← Nat.pow_add]
    exact stored_scaled _ small
  exact stored.roundUnits_one

theorem roundNat_small (small : n ≤ 2 ^ 53) : roundNat n = n * oneUnits := by
  have exact := roundNat_exact small 0
  rwa [Nat.pow_zero, Nat.mul_one] at exact

private theorem roundNat_lt {k : Nat} (exact : roundNat n = n * oneUnits) (bounded : n < 2 ^ k)
    (few : k ≤ 1024) : roundNat n < limitUnits :=
  exact ▸ mul_oneUnits_lt bounded few

theorem roundNat_lt_of_small (small : n ≤ 2 ^ 53) : roundNat n < limitUnits :=
  roundNat_lt (roundNat_small small) (small.trans_lt (show 2 ^ 53 < 2 ^ 54 by decide)) (by decide)

private theorem roundNat_mul_pow (n k : Nat) : roundNat (n * 2 ^ k) = roundNat n * 2 ^ k := by
  rcases Nat.eq_zero_or_pos n with rfl | positive
  · rw [Nat.zero_mul, roundNat_small (Nat.zero_le _), Nat.zero_mul, Nat.zero_mul]
  · unfold roundNat
    rw [Nat.mul_right_comm, roundUnits_mul_pow (le_mul_oneUnits positive)]

theorem ofInt_natCast (n : Nat) : ofInt n = ofNat n := by
  rw [ofInt, ofNat, decide_eq_false (by omega), Int.natAbs_natCast]

private theorem ofNat_of_lt (small : roundNat n < limitUnits) :
    ofNat n = .finite false (roundNat n) ((roundNat_stored n).representable small) := by
  rw [ofNat, ofUnits]
  exact ofRatio_eq false _ rfl

private theorem ofNat_of_le (beyond : limitUnits ≤ roundNat n) : ofNat n = .infinite false := by
  rw [ofNat, ofUnits, ofRatio]
  exact dif_neg (Nat.not_lt.mpr beyond)

/-- Products with powers of two are exact, or infinite. -/
theorem ofNat_mul_pow (n : Nat) {k : Nat} (few : k ≤ 53) :
    (ofNat n).mul (ofNat (2 ^ k)) = ofNat (n * 2 ^ k) := by
  have bounded : 2 ^ k ≤ 2 ^ 53 := Nat.pow_le_pow_right (by decide) few
  have power := roundNat_small bounded
  rw [ofNat_of_lt (roundNat_lt_of_small bounded)]
  rcases Nat.lt_or_ge (roundNat n) limitUnits with small | beyond
  · have product : roundUnits (roundNat n * roundNat (2 ^ k)) oneUnits = roundNat n * 2 ^ k := by
      rw [power, ← Nat.mul_assoc]
      nth_rewrite 2 [← Nat.one_mul oneUnits]
      rw [roundUnits_scale _ _ oneUnits_pos]
      exact ((roundNat_stored n).mul_pow k).roundUnits_one
    rw [ofNat_of_lt small]
    unfold mul ofNat ofUnits
    exact ofRatio_congr false (product.trans (roundNat_mul_pow n k).symm)
  · have still : limitUnits ≤ roundNat (n * 2 ^ k) := by
      rw [roundNat_mul_pow]
      exact beyond.trans (Nat.le_mul_of_pos_right _ (Nat.two_pow_pos k))
    have nonzero : roundNat (2 ^ k) ≠ 0 := by
      rw [power]
      exact (Nat.mul_pos (Nat.two_pow_pos k) oneUnits_pos).ne'
    rw [ofNat_of_le beyond, ofNat_of_le still]
    exact if_neg nonzero

theorem add_finite {a b : Nat} (first : Representable a) (second : Representable b) :
    (Double.finite false a first).add (.finite false b second) = ofUnits false (a + b) := by
  have sum : signed false a + signed false b = ((a + b : Nat) : Int) := rfl
  unfold add
  simp only [sum]
  split
  · rename_i zero
    have none : a + b = 0 := by omega
    rw [none]
    exact (ofUnits_of_representable representable_zero false).symm
  · rw [decide_eq_false (by omega), Int.natAbs_natCast]

/-- Less than half a step is lost. -/
theorem roundUnits_add_small {units small : Nat} (stored : Stored units)
    (some : spareBits units ≠ 0) (less : 2 * small < 2 ^ spareBits units) :
    roundUnits (units + small) 1 = units := by
  obtain ⟨lead, normal⟩ := stored.normal
  have leading := normal.leading.resolve_left some
  refine normal.roundUnits_wide Nat.one_pos (.inr ?_) (by omega) (by omega) (by omega)
  have same := normal.same
  have large := Nat.mul_le_mul_right (2 ^ spareBits units) leading
  omega

private theorem ofNat_add_exact {m k : Nat} (first : roundNat n = n * oneUnits)
    (bounded : n < 2 ^ k)
    (few : k ≤ 1024) (second : m ≤ 2 ^ 53) : (ofNat n).add (ofNat m) = ofNat (n + m) := by
  have other := roundNat_small second
  rw [ofNat_of_lt (roundNat_lt first bounded few), ofNat_of_lt (roundNat_lt_of_small second), add_finite,
    first, other, ← Nat.add_mul, ofNat]

/-- From `2^53` on, what is less than the factor before it is lost. -/
theorem ofNat_add_lost {k m : Nat} (large : 2 ^ 53 ≤ n) (few : k ≤ 53) (less : m < 2 ^ k) :
    (ofNat (n * 2 ^ k)).add (ofNat m) = ofNat (n * 2 ^ k) := by
  have second : m ≤ 2 ^ 53 := less.le.trans (Nat.pow_le_pow_right (by decide) few)
  rw [ofNat_of_lt (roundNat_lt_of_small second)]
  rcases Nat.lt_or_ge (roundNat (n * 2 ^ k)) limitUnits with fits | beyond
  · have reached : 2 ^ (53 + k + 1074) ≤ roundNat (n * 2 ^ k) :=
      calc 2 ^ (53 + k + 1074) = 2 ^ 53 * 2 ^ k * oneUnits := by
            rw [← two_pow_mul_oneUnits, Nat.pow_add]
        _ = roundNat (2 ^ 53 * 2 ^ k) := (roundNat_exact (Nat.le_refl _) k).symm
        _ ≤ roundNat (n * 2 ^ k) := roundNat_mono (Nat.mul_le_mul_right _ large)
    have spare : k + 1075 ≤ spareBits (roundNat (n * 2 ^ k)) := by
      have power : spareBits (2 ^ (53 + k + 1074)) = k + 1075 := by
        rw [spareBits, Nat.log2_two_pow]
        omega
      rw [← power]
      exact spareBits_mono reached
    have lost : 2 * roundNat m < 2 ^ spareBits (roundNat (n * 2 ^ k)) :=
      calc 2 * roundNat m = m * oneUnits * 2 := by rw [roundNat_small second, Nat.mul_comm]
        _ < 2 ^ k * oneUnits * 2 :=
          Nat.mul_lt_mul_of_pos_right (Nat.mul_lt_mul_of_pos_right less oneUnits_pos) Nat.two_pos
        _ = 2 ^ (k + 1075) := by rw [two_pow_mul_oneUnits, ← Nat.pow_succ]
        _ ≤ 2 ^ spareBits (roundNat (n * 2 ^ k)) := Nat.pow_le_pow_right (by decide) spare
    rw [ofNat_of_lt fits, add_finite, ofUnits]
    exact ofRatio_eq false _ (roundUnits_add_small (roundNat_stored _) (by omega) lost)
  · rw [ofNat_of_le beyond]
    rfl

end Natural

end Double

open Double Numeral

/-- One more digit, which counts as zero when `2^53` has been reached. -/
def settle (base sum : Nat) (c : Char) : Nat :=
  if sum < 2 ^ 53 then sum * base + digitValue c else sum * base

/-- What digits spell when all behind the first ones that reach `2^53` count as zeros. -/
def settledValue (base : Nat) (digits : List Char) : Nat :=
  digits.foldl (settle base) 0

/-- Half way between two numbers of 53 bits of which the lower one is even. -/
def LowTie (n : Nat) : Prop :=
  2 * (n % 2 ^ spareBits n) = 2 ^ spareBits n ∧ n / 2 ^ spareBits n % 2 = 0

instance (n : Nat) : Decidable (LowTie n) :=
  inferInstanceAs (Decidable (_ ∧ _))

/-- The last digits would have had to break a tie that the first ones leave, and the number is
finite. -/
def TieLost (base : Nat) (digits : List Char) : Prop :=
  LowTie (settledValue base digits) ∧ settledValue base digits < valueOf base digits ∧
    settledValue base digits < 2 ^ 1024

instance (base : Nat) (digits : List Char) : Decidable (TieLost base digits) :=
  inferInstanceAs (Decidable (_ ∧ _))

section Accumulation

variable {k : Nat}

/-- One step of the accumulation: exact below `2^53`, and only the scale counts from there on. -/
theorem accumulate_step (few : k ≤ 53) {c : Char} (digit : digitValue c < 2 ^ k) (sum : Nat) :
    ((ofNat sum).mul (ofNat (2 ^ k))).add (ofNat (digitValue c)) = ofNat (settle (2 ^ k) sum c) := by
  rw [ofNat_mul_pow sum few]
  unfold settle
  split
  · rename_i below
    have bounded : sum * 2 ^ k < 2 ^ (53 + k) := by
      rw [Nat.pow_add]
      exact Nat.mul_lt_mul_of_pos_right below (Nat.two_pow_pos k)
    refine ofNat_add_exact (roundNat_exact below.le k) bounded (by omega) ?_
    exact digit.le.trans (Nat.pow_le_pow_right (by decide) few)
  · rename_i reached
    exact ofNat_add_lost (Nat.le_of_not_lt reached) few digit

private theorem foldl_accumulate (few : k ≤ 53) {digits : List Char}
    (all : ∀ c ∈ digits, digitValue c < 2 ^ k) (sum : Nat) :
    digits.foldl (fun sum c => (sum.mul (ofNat (2 ^ k))).add (ofNat (digitValue c))) (ofNat sum) =
      ofNat (digits.foldl (settle (2 ^ k)) sum) := by
  induction digits generalizing sum with
  | nil => rw [List.foldl_nil, List.foldl_nil]
  | cons c rest ih =>
    obtain ⟨first, later⟩ := List.forall_mem_cons.mp all
    rw [List.foldl_cons, List.foldl_cons, accumulate_step few first]
    exact ih later _

/-- Accumulating the digits gives the number nearest to the settled value. -/
theorem radixNumber_eq_ofNat (few : k ≤ 53) {digits : List Char} (some : digits ≠ [])
    (all : ∀ c ∈ digits, digitValue c < 2 ^ k) :
    radixNumber (2 ^ k) digits = ofNat (settledValue (2 ^ k) digits) := by
  have valid : (digits.isEmpty || digits.any fun c => 2 ^ k ≤ digitValue c) = false := by
    simpa [some] using all
  have zero : Double.zero false = ofNat 0 := by
    rw [ofNat, Nat.zero_mul]
    exact (ofUnits_of_representable representable_zero false).symm
  unfold radixNumber settledValue
  rw [valid, zero, foldl_accumulate few all]
  exact if_neg Bool.false_ne_true

/-- How a sum stands to the exact value after some digits: below `2^53` they are the same, and from
there on the sum lacks less than the weight `2 ^ i` of the last digit that counted. -/
structure Settled (sum value i : Nat) : Prop where
  divides : 2 ^ i ∣ sum
  le : sum ≤ value
  lt : value < sum + 2 ^ i
  reached : i = 0 ∨ 2 ^ (53 + i) ≤ sum

private theorem Settled.eq_of_lt {sum value i : Nat} (settled : Settled sum value i)
    (below : sum < 2 ^ 53) : value = sum := by
  have none : i = 0 := by
    refine settled.reached.resolve_right fun reached => ?_
    have : 2 ^ 53 ≤ 2 ^ (53 + i) := Nat.pow_le_pow_right (by decide) (by omega)
    omega
  have le := settled.le
  have lt := settled.lt
  rw [none] at lt
  omega

private theorem Settled.le_of_ge {sum value i : Nat} (settled : Settled sum value i)
    (large : 2 ^ 53 ≤ sum) : 2 ^ (53 + i) ≤ sum := by
  rcases settled.reached with rfl | reached
  · exact large
  · exact reached

theorem Settled.step {sum value i : Nat} (settled : Settled sum value i) {c : Char}
    (digit : digitValue c < 2 ^ k) :
    ∃ j, Settled (settle (2 ^ k) sum c) (value * 2 ^ k + digitValue c) j := by
  unfold settle
  split
  · rename_i below
    rw [settled.eq_of_lt below]
    exact ⟨0, Nat.one_dvd _, Nat.le_refl _, by omega, .inl rfl⟩
  · rename_i reached
    refine ⟨i + k, ?_, ?_, ?_, .inr ?_⟩
    · rw [Nat.pow_add]
      exact Nat.mul_dvd_mul_right settled.divides _
    · exact (Nat.mul_le_mul_right _ settled.le).trans (Nat.le_add_right _ _)
    · have scaled : (value + 1) * 2 ^ k ≤ (sum + 2 ^ i) * 2 ^ k :=
        Nat.mul_le_mul_right _ settled.lt
      rw [Nat.pow_add]
      linarith
    · rw [← Nat.add_assoc, Nat.pow_add]
      exact Nat.mul_le_mul_right _ (settled.le_of_ge (Nat.le_of_not_lt reached))

theorem exists_settled {digits : List Char} (all : ∀ c ∈ digits, digitValue c < 2 ^ k) :
    ∃ i, Settled (settledValue (2 ^ k) digits) (valueOf (2 ^ k) digits) i := by
  have run : ∀ (rest : List Char) (sum value i : Nat), (∀ c ∈ rest, digitValue c < 2 ^ k) →
      Settled sum value i → ∃ j, Settled (rest.foldl (settle (2 ^ k)) sum)
        (rest.foldl (fun sum c => sum * 2 ^ k + digitValue c) value) j := by
    intro rest
    induction rest with
    | nil => exact fun _ _ i _ settled => ⟨i, settled⟩
    | cons c rest ih =>
      intro sum value i known settled
      obtain ⟨first, later⟩ := List.forall_mem_cons.mp known
      obtain ⟨j, next⟩ := settled.step first
      exact ih _ _ j later next
  exact run digits 0 0 0 all ⟨Nat.dvd_zero _, Nat.le_refl _, Nat.one_pos, .inl rfl⟩

end Accumulation

/-- Less than the weight of the last bit changes the nearest integer only where it breaks a tie. -/
theorem nearestEven_add_small {n r g step : Nat} (positive : 0 < step) (divides : g ∣ n)
    (doubled : 2 * g ∣ step) (small : r < g) :
    nearestEven (n + r) step =
      if 0 < r ∧ 2 * (n % step) = step ∧ n / step % 2 = 0 then nearestEven n step + 1
      else nearestEven n step := by
  obtain ⟨half, rfl⟩ : 2 ∣ step := Nat.dvd_trans (Nat.dvd_mul_right 2 g) doubled
  have halves : g ∣ half := Nat.dvd_of_mul_dvd_mul_left Nat.two_pos doubled
  have whole : g ∣ 2 * half := Nat.dvd_mul_left_of_dvd halves 2
  have rest : g ∣ n % (2 * half) := (Nat.dvd_mod_iff whole).mpr divides
  have bound := Nat.mod_lt n positive
  have split := Nat.div_add_mod n (2 * half)
  have next : n % (2 * half) + g ≤ 2 * half :=
    Nat.le_of_lt_add_of_dvd (by omega) (Nat.dvd_add rest (Nat.dvd_refl g)) whole
  have nextHalf : n % (2 * half) < half → n % (2 * half) + g ≤ half := fun less =>
    Nat.le_of_lt_add_of_dvd (by omega) (Nat.dvd_add rest (Nat.dvd_refl g)) halves
  obtain ⟨quotient, remainder⟩ : (n + r) / (2 * half) = n / (2 * half) ∧
      (n + r) % (2 * half) = n % (2 * half) + r :=
    (Nat.div_mod_unique positive).mpr ⟨by omega, by omega⟩
  unfold nearestEven
  simp only [quotient, remainder]
  generalize n % (2 * half) = t at *
  generalize n / (2 * half) = q at *
  split_ifs <;> omega

theorem ofNat_eq_iff {n m : Nat} :
    ofNat n = ofNat m ↔
      roundNat n = roundNat m ∨ limitUnits ≤ roundNat n ∧ limitUnits ≤ roundNat m := by
  rcases Nat.lt_or_ge (roundNat n) limitUnits with first | first <;>
    rcases Nat.lt_or_ge (roundNat m) limitUnits with second | second
  · rw [ofNat_of_lt first, ofNat_of_lt second]
    simp [Nat.not_le.mpr first]
  · rw [ofNat_of_lt first, ofNat_of_le second]
    simp
    omega
  · rw [ofNat_of_le first, ofNat_of_lt second]
    simp
    omega
  · rw [ofNat_of_le first, ofNat_of_le second]
    simp [first, second]

/-- Where all 53 bits are in use, the magnitude nearest to a natural number counts in steps of its
spare bits. -/
theorem roundNat_eq {n : Nat} (large : 2 ^ 52 ≤ n) :
    roundNat n = nearestEven n (2 ^ spareBits n) * 2 ^ spareBits n * oneUnits := by
  rw [roundNat, oneUnits_eq, roundUnits_mul_pow large]
  unfold roundUnits
  simp only [Nat.div_one, Nat.one_mul, Nat.pow_eq]

private theorem limitUnits_le_roundNat {n : Nat} (large : 2 ^ 1024 ≤ n) :
    limitUnits ≤ roundNat n := by
  have exact := roundNat_exact (show 1 ≤ 2 ^ 53 by decide) 1024
  rw [Nat.one_mul, ← limitUnits_eq] at exact
  rw [← exact]
  exact roundNat_mono large

section Ties

variable {sum value i : Nat} (settled : Settled sum value i) (large : 2 ^ 53 ≤ sum)
include settled large

/-- The digits that counted reach beyond the last bit that is kept. -/
theorem Settled.lt_spareBits : i < spareBits sum := by
  have small := (spareBits_bounds ((show 2 ^ 52 ≤ 2 ^ 53 by decide).trans large)).2
  have less := Nat.lt_of_le_of_lt (settled.le_of_ge large) small
  rw [Nat.pow_lt_pow_iff_right (by decide)] at less
  omega

/-- The exact value has the leading bit of the settled one. -/
theorem Settled.spareBits_eq : spareBits value = spareBits sum := by
  have few := settled.lt_spareBits large
  obtain ⟨low, high⟩ := spareBits_bounds ((show 2 ^ 52 ≤ 2 ^ 53 by decide).trans large)
  refine Double.spareBits_eq (.inr (low.trans settled.le)) (settled.lt.trans_le ?_)
  refine Nat.le_of_lt_add_of_dvd (Nat.add_lt_add_right high _)
    (Nat.dvd_add settled.divides (Nat.dvd_refl _)) (Nat.pow_dvd_pow 2 (by omega))

private theorem Settled.roundNat_eq :
    roundNat value =
      if LowTie sum ∧ sum < value then roundNat sum + 2 ^ spareBits sum * oneUnits
      else roundNat sum := by
  have le := settled.le
  have doubled : 2 * 2 ^ i ∣ 2 ^ spareBits sum := by
    rw [Nat.mul_comm, ← Nat.pow_succ]
    exact Nat.pow_dvd_pow 2 (settled.lt_spareBits large)
  have nearest := nearestEven_add_small (Nat.two_pow_pos (spareBits sum)) settled.divides doubled
    (show value - sum < 2 ^ i by have := settled.lt; omega)
  rw [Nat.add_sub_cancel' le] at nearest
  have enough : 2 ^ 52 ≤ sum := (show 2 ^ 52 ≤ 2 ^ 53 by decide).trans large
  rw [ExprTree.roundNat_eq enough, ExprTree.roundNat_eq (enough.trans le),
    settled.spareBits_eq large, nearest]
  have tie : (0 < value - sum ∧ 2 * (sum % 2 ^ spareBits sum) = 2 ^ spareBits sum ∧
      sum / 2 ^ spareBits sum % 2 = 0) ↔ LowTie sum ∧ sum < value := by
    unfold LowTie
    omega
  simp only [tie]
  split <;> ring

end Ties

/-- Rounding a tie with an even lower neighbour never goes up. -/
theorem LowTie.roundNat_le {n : Nat} (tie : LowTie n) (large : 2 ^ 52 ≤ n) :
    roundNat n ≤ n * oneUnits := by
  have low : nearestEven n (2 ^ spareBits n) = n / 2 ^ spareBits n := if_pos (.inr tie)
  rw [roundNat_eq large, low]
  exact Nat.mul_le_mul_right _ (Nat.div_mul_le_self _ _)

/-- The settled value and the exact one have the same nearest number, unless the first one is a tie
that the difference would have to break. -/
theorem Settled.ofNat_eq_iff {sum value i : Nat} (settled : Settled sum value i) :
    ofNat sum = ofNat value ↔ ¬ (LowTie sum ∧ sum < value ∧ sum < 2 ^ 1024) := by
  rcases Nat.lt_or_ge sum (2 ^ 53) with below | large
  · rw [settled.eq_of_lt below]
    simp only [Nat.lt_irrefl, false_and, and_false, not_false_eq_true]
  · have rounded := settled.roundNat_eq large
    rw [ExprTree.ofNat_eq_iff, ← and_assoc]
    by_cases lost : LowTie sum ∧ sum < value
    · have step : 0 < 2 ^ spareBits sum * oneUnits := Nat.mul_pos (Nat.two_pow_pos _) oneUnits_pos
      rw [if_pos lost] at rounded
      constructor
      · rintro same ⟨-, bounded⟩
        have low := lost.1.roundNat_le ((show 2 ^ 52 ≤ 2 ^ 53 by decide).trans large)
        have finite : sum * oneUnits < limitUnits := mul_oneUnits_lt bounded (Nat.le_refl _)
        omega
      · intro unbounded
        have beyond := limitUnits_le_roundNat (Nat.le_of_not_lt fun bounded =>
          unbounded ⟨lost, bounded⟩)
        exact .inr ⟨beyond, by omega⟩
    · rw [if_neg lost] at rounded
      exact iff_of_true (.inl rounded.symm) fun both => lost both.1

end ExprTree
