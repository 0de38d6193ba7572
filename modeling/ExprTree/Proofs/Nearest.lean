import ExprTree.Proofs.Rounding
import Mathlib.Data.Nat.Dist

/-!
Rounding gives the nearest number. Main statements: rounding takes the magnitude of 53 bits nearest
to a fraction, of two equally near ones the even one, and nothing else does; hence it keeps the order
of fractions and depends on their value alone.
-/
namespace ExprTree.Double

section Quotient

variable (num : Nat) {den : Nat} (positive : 0 < den)
include positive

/-- The nearest integer is at most half a step away, and exactly half a step only if it is even. -/
theorem nearestEven_spec :
    2 * nearestEven num den * den ≤ 2 * num + den ∧
      2 * num ≤ 2 * nearestEven num den * den + den ∧
      (2 * nearestEven num den * den = 2 * num + den ∨
        2 * num = 2 * nearestEven num den * den + den → nearestEven num den % 2 = 0) := by
  have split : den * (num / den) + num % den = num := Nat.div_add_mod num den
  have small : num % den < den := Nat.mod_lt num positive
  unfold nearestEven
  dsimp only
  generalize num / den = q at *
  generalize num % den = r at *
  split_ifs with near
  · refine ⟨by linarith, by rcases near with less | half <;> linarith, fun ends => ?_⟩
    rcases near with less | half
    · rcases ends with first | last <;> linarith
    · exact half.2
  · have far : den ≤ 2 * r := by omega
    refine ⟨by linarith, by linarith, fun ends => ?_⟩
    have half : 2 * r = den := by rcases ends with first | last <;> linarith
    omega

/-- No other integer is nearer, and one that is equally near leaves the nearest one even. -/
theorem nearestEven_nearest (k : Nat) :
    Nat.dist num (nearestEven num den * den) ≤ Nat.dist num (k * den) ∧
      (k ≠ nearestEven num den →
        Nat.dist num (nearestEven num den * den) = Nat.dist num (k * den) →
          nearestEven num den % 2 = 0) := by
  obtain ⟨low, high, ties⟩ := nearestEven_spec num positive
  generalize nearestEven num den = n at *
  rw [Nat.mul_assoc] at low high ties
  unfold Nat.dist
  rcases Nat.lt_trichotomy k n with below | rfl | above
  · have step : (k + 1) * den ≤ n * den := Nat.mul_le_mul_right den below
    rw [Nat.succ_mul] at step
    exact ⟨by omega, fun _ tie => ties (by omega)⟩
  · exact ⟨Nat.le_refl _, fun other => absurd rfl other⟩
  · have step : (n + 1) * den ≤ k * den := Nat.mul_le_mul_right den above
    rw [Nat.succ_mul] at step
    exact ⟨by omega, fun _ tie => ties (by omega)⟩

end Quotient

theorem nearestEven_scale (num den : Nat) {k : Nat} (some : 0 < k) :
    nearestEven (num * k) (den * k) = nearestEven num den := by
  have less : 2 * (num % den * k) < den * k ↔ 2 * (num % den) < den := by
    rw [← Nat.mul_assoc, Nat.mul_lt_mul_right some]
  have same : 2 * (num % den * k) = den * k ↔ 2 * (num % den) = den := by
    rw [← Nat.mul_assoc, Nat.mul_left_inj some.ne']
  unfold nearestEven
  dsimp only
  rw [Nat.mul_div_mul_right _ _ some, Nat.mul_mod_mul_right]
  simp only [less, same]

/-- Rounding depends on the value of a fraction alone. -/
theorem roundUnits_scale (num den : Nat) {k : Nat} (some : 0 < k) :
    roundUnits (num * k) (den * k) = roundUnits num den := by
  unfold roundUnits
  dsimp only
  rw [Nat.mul_div_mul_right _ _ some, Nat.mul_right_comm, nearestEven_scale _ _ some]

theorem spareBits_mono {u v : Nat} (le : u ≤ v) : spareBits u ≤ spareBits v := by
  unfold spareBits
  by_cases zero : u = 0
  · simp [zero]
  · have : 2 ^ u.log2 ≤ v := Nat.le_trans (Nat.log2_self_le zero) le
    have : u.log2 ≤ v.log2 := (Nat.le_log2 (by omega)).mpr this
    omega

section Leading

variable {lead spare : Nat}

theorem stored_scaled (spare : Nat) (fits : lead ≤ 2 ^ 53) : Stored (lead * 2 ^ spare) :=
  spare_dvd_scaled lead spare fits

private theorem normal_of_lead (fits : lead < 2 ^ 53) (leading : spare = 0 ∨ 2 ^ 52 ≤ lead) :
    Normal (lead * 2 ^ spare) lead spare := by
  have step := Nat.two_pow_pos spare
  refine ⟨rfl, spareBits_eq (leading.imp id fun large => ?_) ?_, fits, leading⟩
  · rw [Nat.pow_add]
    exact Nat.mul_le_mul_right _ large
  · rw [Nat.pow_add]
    exact Nat.mul_lt_mul_of_pos_right fits step

theorem Normal.quotient {units : Nat} (normal : Normal units lead spare) :
    units / 2 ^ spareBits units = lead := by
  rw [normal.place, normal.same, Nat.mul_div_cancel _ (Nat.two_pow_pos spare)]

/-- With one bit too many the leading bits are those of a power of two, and even. -/
theorem even_quotient (fits : lead ≤ 2 ^ 53) (leading : spare = 0 ∨ 2 ^ 52 ≤ lead)
    (even : lead % 2 = 0) : lead * 2 ^ spare / 2 ^ spareBits (lead * 2 ^ spare) % 2 = 0 := by
  rcases Nat.eq_or_lt_of_le fits with rfl | below
  · have carried : 2 ^ 53 * 2 ^ spare = 2 ^ 52 * 2 ^ (spare + 1) := by
      rw [Nat.pow_succ 2 spare]
      ring
    rw [carried, (normal_of_lead (by decide) (.inr (Nat.le_refl _))).quotient]
    rfl
  · rw [(normal_of_lead below leading).quotient, even]

end Leading

/-- The magnitudes of 53 bits are multiples of a step, but for those below all that have the step. -/
theorem Stored.grid {v : Nat} (stored : Stored v) (spare : Nat) :
    2 ^ spare ∣ v ∨ spare ≠ 0 ∧ v < 2 ^ 52 * 2 ^ spare := by
  obtain ⟨lead, normal⟩ := stored.normal
  rcases Nat.lt_or_ge (spareBits v) spare with finer | coarser
  · right
    refine ⟨by omega, ?_⟩
    calc v = lead * 2 ^ spareBits v := normal.same
      _ < 2 ^ 53 * 2 ^ spareBits v :=
        Nat.mul_lt_mul_of_pos_right normal.fits (Nat.two_pow_pos (spareBits v))
      _ = 2 ^ (53 + spareBits v) := (Nat.pow_add 2 53 _).symm
      _ ≤ 2 ^ (52 + spare) := Nat.pow_le_pow_right (by decide) (by omega)
      _ = 2 ^ 52 * 2 ^ spare := Nat.pow_add 2 52 _
  · exact .inl (Nat.dvd_trans (Nat.pow_dvd_pow 2 coarser) stored)

/-- The magnitude of 53 bits nearest to `num / den`; of two equally near ones it is the even one. -/
structure NearestUnits (num den units : Nat) : Prop where
  stored : Stored units
  nearest : ∀ v, Stored v → Nat.dist num (units * den) ≤ Nat.dist num (v * den)
  even : ∀ v, Stored v → v ≠ units → Nat.dist num (units * den) = Nat.dist num (v * den) →
    units / 2 ^ spareBits units % 2 = 0

section Fraction

variable (num : Nat) {den : Nat} (positive : 0 < den)
include positive

/-- Where bits are spare, the leading one is in its place. -/
theorem le_of_spareBits (some : spareBits (num / den) ≠ 0) :
    2 ^ 52 * (den * 2 ^ spareBits (num / den)) ≤ num := by
  have nonzero : num / den ≠ 0 := by
    intro zero
    rw [zero] at some
    exact some rfl
  have place : 2 ^ (52 + spareBits (num / den)) ≤ num / den := by
    refine Nat.le_trans (Nat.pow_le_pow_right (by decide) ?_) (Nat.log2_self_le nonzero)
    unfold spareBits at some ⊢
    omega
  rw [Nat.le_div_iff_mul_le positive, Nat.pow_add] at place
  linarith

/-- Rounding takes a whole number of steps, with 53 bits or with one too many. -/
theorem roundUnits_lead :
    nearestEven num (den * 2 ^ spareBits (num / den)) ≤ 2 ^ 53 ∧
      (spareBits (num / den) = 0 ∨
        2 ^ 52 ≤ nearestEven num (den * 2 ^ spareBits (num / den))) := by
  have step : 0 < den * 2 ^ spareBits (num / den) := Nat.mul_pos positive (Nat.two_pow_pos _)
  constructor
  · have near := nearestEven_le num (den * 2 ^ spareBits (num / den))
    have bits : num / (den * 2 ^ spareBits (num / den)) < 2 ^ 53 := quotient_lt num den
    omega
  · by_cases none : spareBits (num / den) = 0
    · exact .inl none
    · right
      have large := le_of_spareBits num positive none
      obtain ⟨-, high, -⟩ := nearestEven_spec num step
      by_contra below
      have : (nearestEven num (den * 2 ^ spareBits (num / den)) + 1) *
          (den * 2 ^ spareBits (num / den)) ≤ 2 ^ 52 * (den * 2 ^ spareBits (num / den)) :=
        Nat.mul_le_mul_right _ (by omega)
      linarith

/-- Rounding finds the nearest magnitude. One off the steps lies below the first one that has the
step, which is a multiple of it and nearer. -/
theorem roundUnits_nearest : NearestUnits num den (roundUnits num den) := by
  obtain ⟨fits, leading⟩ := roundUnits_lead num positive
  have shape : roundUnits num den =
      nearestEven num (den * 2 ^ spareBits (num / den)) * 2 ^ spareBits (num / den) := rfl
  have large := le_of_spareBits num positive
  generalize spareBits (num / den) = spare at *
  have step : 0 < den * 2 ^ spare := Nat.mul_pos positive (Nat.two_pow_pos spare)
  have nearest := nearestEven_nearest num step
  generalize nearestEven num (den * 2 ^ spare) = n at *
  have scaled : ∀ k, k * 2 ^ spare * den = k * (den * 2 ^ spare) := fun k => by ring
  rw [shape]
  have below : ∀ v, spare ≠ 0 → v < 2 ^ 52 * 2 ^ spare →
      Nat.dist num (n * 2 ^ spare * den) < Nat.dist num (v * den) := by
    intro v some small
    have first := (nearest (2 ^ 52)).1
    have reached := large some
    have less : v * den < 2 ^ 52 * (den * 2 ^ spare) := by
      rw [← scaled]
      exact Nat.mul_lt_mul_of_pos_right small positive
    rw [scaled]
    unfold Nat.dist at first ⊢
    omega
  refine ⟨stored_scaled spare fits, fun v stored => ?_, fun v stored other tie => ?_⟩
  · rcases stored.grid spare with ⟨k, rfl⟩ | ⟨some, small⟩
    · rw [Nat.mul_comm _ k, scaled, scaled]
      exact (nearest k).1
    · exact (below v some small).le
  · rcases stored.grid spare with ⟨k, rfl⟩ | ⟨some, small⟩
    · rw [Nat.mul_comm _ k] at tie other
      rw [scaled, scaled] at tie
      refine even_quotient fits leading ((nearest k).2 ?_ tie)
      rintro rfl
      exact other rfl
    · exact absurd tie (below v some small).ne

end Fraction

section Unique

variable {num den u v : Nat}

/-- Nothing lies between a magnitude of 53 bits and the next one, a step above. -/
theorem Stored.add_step_le (first : Stored u) (second : Stored v) (less : u < v) :
    u + 2 ^ spareBits u ≤ v := by
  have other : 2 ^ spareBits u ∣ v :=
    Nat.dvd_trans (Nat.pow_dvd_pow 2 (spareBits_mono less.le)) second
  have between : 2 ^ spareBits u ∣ v - u := Nat.dvd_sub other first
  have := Nat.le_of_dvd (by omega) between
  omega

/-- Of two nearest magnitudes the greater one would be the next one after the other, and odd. -/
theorem NearestUnits.not_lt (positive : 0 < den) (first : NearestUnits num den u)
    (second : NearestUnits num den v) : ¬ u < v := by
  intro less
  obtain ⟨lead, normal⟩ := first.stored.normal
  have fits := normal.fits
  have scaled := Nat.mul_lt_mul_of_pos_right less positive
  have tie : Nat.dist num (u * den) = Nat.dist num (v * den) :=
    Nat.le_antisymm (first.nearest v second.stored) (second.nearest u first.stored)
  have even := first.even v second.stored less.ne' tie
  have other := second.even u first.stored less.ne tie.symm
  rw [normal.quotient] at even
  have next : (lead + 1) * 2 ^ spareBits u = u + 2 ^ spareBits u := by
    rw [Nat.succ_mul, ← normal.same]
  have same : (lead + 1) * 2 ^ spareBits u = v := by
    have reached := first.stored.add_step_le second.stored less
    rw [next]
    refine Nat.le_antisymm reached (Nat.le_of_not_lt fun beyond => ?_)
    have nearer := second.nearest _ (stored_scaled (spareBits u) fits)
    have step := Nat.two_pow_pos (spareBits u)
    have below : u * den < (u + 2 ^ spareBits u) * den :=
      Nat.mul_lt_mul_of_pos_right (by omega) positive
    have above := Nat.mul_lt_mul_of_pos_right beyond positive
    rw [next] at nearer
    unfold Nat.dist at nearer tie
    omega
  rw [← same, (normal_of_lead (by omega) (normal.leading.imp id (by omega))).quotient] at other
  omega

/-- There is one nearest magnitude. -/
theorem NearestUnits.unique (positive : 0 < den) (first : NearestUnits num den u)
    (second : NearestUnits num den v) : u = v :=
  Nat.le_antisymm (Nat.le_of_not_lt (second.not_lt positive first))
    (Nat.le_of_not_lt (first.not_lt positive second))

end Unique

/-- Rounding keeps the order of fractions. -/
theorem roundUnits_mono {num den num' den' : Nat} (positive : 0 < den) (other : 0 < den')
    (le : num * den' ≤ num' * den) : roundUnits num den ≤ roundUnits num' den' := by
  by_contra above
  have first := roundUnits_nearest num positive
  have second := roundUnits_nearest num' other
  have near := first.nearest _ second.stored
  have near' := second.nearest _ first.stored
  have same : num * den' = num' * den := by
    refine Nat.le_antisymm le ?_
    have less : roundUnits num' den' < roundUnits num den := Nat.lt_of_not_le above
    have low := Nat.mul_lt_mul_of_pos_right less positive
    have high := Nat.mul_lt_mul_of_pos_right less other
    generalize roundUnits num den = r at *
    generalize roundUnits num' den' = r' at *
    unfold Nat.dist at near near'
    have lower : (r + r') * den ≤ 2 * num := by
      rw [Nat.add_mul]
      omega
    have upper : 2 * num' ≤ (r + r') * den' := by
      rw [Nat.add_mul]
      omega
    have crossed := Nat.mul_le_mul_right den' lower
    have crossed' := Nat.mul_le_mul_right den upper
    linarith
  rw [← roundUnits_scale num den other, ← roundUnits_scale num' den' positive, same,
    Nat.mul_comm den'] at above
  exact above (Nat.le_refl _)

/-- The number nearest to `num / den` units: the nearest magnitude, or infinite when that is beyond
the finite range. -/
inductive Nearest (num den : Nat) : Double → Prop where
  | finite {units : Nat} (nearest : NearestUnits num den units) (fits : Representable units) :
      Nearest num den (.finite false units fits)
  | infinite {units : Nat} (nearest : NearestUnits num den units) (beyond : limitUnits ≤ units) :
      Nearest num den (.infinite false)

theorem nearest_iff {num den : Nat} (positive : 0 < den) {x : Double} :
    Nearest num den x ↔ x = ofRatio false num den := by
  have rounded := roundUnits_nearest num positive
  constructor
  · rintro (⟨nearest, fits⟩ | ⟨nearest, beyond⟩)
    · obtain rfl := nearest.unique positive rounded
      rw [ofRatio, dif_pos fits.1]
    · rw [nearest.unique positive rounded] at beyond
      rw [ofRatio, dif_neg (Nat.not_lt.mpr beyond)]
  · intro same
    rw [same, ofRatio]
    split
    · exact .finite rounded _
    · rename_i beyond
      exact .infinite rounded (Nat.le_of_not_lt beyond)

end ExprTree.Double
