import ExprTree.Proofs.FewestDigits

/-!
The layout of a number's text is settled by the place of the point in its shortest decimal. The
thresholds are powers of ten that are their own shortest decimals, and reading keeps the order of
decimals: so a number reaches a threshold exactly when its decimal does.
-/
namespace ExprTree.Double

/-- The layout of digits of which the first `n` stand before the point: padded with zeros up to 21
places before the point and six behind it, and with a power of ten beyond. -/
def layout (digits : List Char) (n : Int) : List Char :=
  if digits.length ≤ n ∧ n ≤ 21 then digits ++ List.replicate (n - digits.length).toNat '0'
  else if 0 < n ∧ n ≤ 21 then digits.take n.toNat ++ '.' :: digits.drop n.toNat
  else if -6 < n ∧ n ≤ 0 then '0' :: '.' :: (List.replicate (-n).toNat '0' ++ digits)
  else digits.take 1 ++ (if 1 < digits.length then '.' :: digits.drop 1 else []) ++
    'e' :: (if n - 1 < 0 then '-' else '+') :: Nat.toDigits 10 (n - 1).natAbs

section Layout

variable {digits : List Char} {n : Int}

theorem positional_eq_layout (some : digits ≠ []) (low : -6 < n) (high : n ≤ 21) :
    positional digits n = layout digits n := by
  have present : 0 < digits.length := List.length_pos_iff.mpr some
  unfold positional layout
  by_cases small : n ≤ 0
  · rw [if_pos small, if_neg (by omega), if_neg (by omega), if_pos ⟨low, small⟩]
  · rw [if_neg small]
    dsimp only
    rcases Nat.lt_or_ge n.toNat digits.length with cut | padded
    · have rest : digits.drop n.toNat ≠ [] := by
        rw [Ne, List.drop_eq_nil_iff]
        omega
      rw [if_neg (by simpa using rest), if_neg (by omega), if_pos (by omega), List.length_take,
        Nat.min_eq_left cut.le, Nat.sub_self, List.replicate_zero, List.append_nil]
    · have zeros : n.toNat - digits.length = (n - digits.length).toNat := by omega
      rw [List.take_of_length_le padded, List.drop_eq_nil_of_le padded, zeros,
        if_pos (List.isEmpty_nil), if_pos ⟨by omega, high⟩]

private theorem scientific_eq_layout (some : digits ≠ []) (outside : n ≤ -6 ∨ 21 < n) :
    scientific digits n = layout digits n := by
  rw [layout, if_neg (by omega), if_neg (by omega), if_neg (by omega)]
  unfold scientific
  dsimp only
  rw [Nat.toString_eq_repr, Nat.toList_repr]
  match digits, some with
  | [_], _ => rfl
  | _ :: _ :: _, _ => rfl

end Layout

/-- The magnitude nearest to a power of ten. -/
def tenUnits (p : Int) : Nat :=
  roundUnits (1 * (tenPower p).1) (4 * (tenPower p).2)

section Threshold

variable {units : Nat} (fits : Representable units) (positive : 0 < units)
include fits positive

/-- Where a power of ten is the shortest decimal of its number, a magnitude reaches the number
exactly when the leading digit of its own shortest decimal reaches the place. -/
theorem tenUnits_le_iff {p : Int} (exact : shortest (tenUnits p) = ⟨1, p⟩)
    (bounded : Representable (tenUnits p)) (some : 0 < tenUnits p) :
    tenUnits p ≤ units ↔ p < (shortest units).exponent + (shortest units).width := by
  have inside := within_shortest fits positive
  have power := within_shortest bounded some
  rw [exact] at power
  obtain ⟨first, last⟩ :=
    Decimal.value_bounds (d := shortest units) (within_digits_pos fits positive inside)
  constructor
  · intro reached
    by_contra below
    have less : (shortest units).value < (⟨1, p⟩ : Decimal).value := by
      rw [Decimal.value_one]
      exact last.trans_le (zpow_le_zpow_right₀ (by norm_num) (by omega))
    have same : units = tenUnits p :=
      Nat.le_antisymm (le_of_value_le fits bounded positive some inside power less.le) reached
    rw [same, exact] at less
    exact lt_irrefl _ less
  · intro place
    refine le_of_value_le bounded fits some positive power inside ?_
    rw [Decimal.value_one]
    exact (zpow_le_zpow_right₀ (by norm_num) (by omega)).trans first

end Threshold

private theorem ofDecimal_power (p : Int) (bounded : Representable (tenUnits p)) :
    ofDecimal false ⟨1, p⟩ = .finite false (tenUnits p) bounded := by
  rw [ofDecimal_eq_ofRatio]
  exact ofRatio_eq false bounded rfl

/-- The text is positional exactly when the point of the shortest decimal is near. -/
theorem moderate_iff {units : Nat} (fits : Representable units) (positive : 0 < units) :
    ((ofDecimal false ⟨1, -6⟩).le (.finite false units fits) &&
        (Double.finite false units fits).lt (ofDecimal false ⟨1, 21⟩)) = true ↔
      -6 < (shortest units).exponent + (shortest units).width ∧
        (shortest units).exponent + (shortest units).width ≤ 21 := by
  have low : Representable (tenUnits (-6)) := by decide +kernel
  have high : Representable (tenUnits 21) := by decide +kernel
  have least := tenUnits_le_iff fits positive (p := -6) (by decide +kernel) low (by decide +kernel)
  have greatest := tenUnits_le_iff fits positive (p := 21) (by decide +kernel) high (by decide +kernel)
  rw [ofDecimal_power _ low, ofDecimal_power _ high, Bool.and_eq_true, le_finite, lt_finite, least,
    ← Nat.not_le, greatest, Int.not_lt]

end ExprTree.Double

namespace ExprTree

open Double

/-- The text of a number other than zero is its sign and the layout of a decimal with the fewest
digits that reads as its size. -/
theorem number_text_layout (negative : Bool) {units : Nat} (fits : Representable units)
    (nonzero : units ≠ 0) :
    ∃ d : Decimal, ShortestDecimal fits d ∧
      (Value.number (.finite negative units fits)).toText =
        String.ofList ((if negative then ['-'] else []) ++
          layout (Nat.toDigits 10 d.digits) (d.exponent + d.width)) := by
  have positive : 0 < units := Nat.pos_of_ne_zero nonzero
  have moderate := moderate_iff fits positive
  refine ⟨shortest units, shortest_shortestDecimal fits positive, ?_⟩
  have some : Nat.toDigits 10 (shortest units).digits ≠ [] := Nat.toDigits_ne_nil
  have place : (shortest units).width = (Nat.toDigits 10 (shortest units).digits).length := rfl
  rw [place] at moderate ⊢
  rw [Value.toText, Double.toText, if_neg nonzero]
  dsimp only
  rw [Nat.toString_eq_repr, Nat.toList_repr]
  generalize Nat.toDigits 10 (shortest units).digits = digits at *
  have body : (if ((ofDecimal false ⟨1, -6⟩).le (.finite false units fits) &&
        (Double.finite false units fits).lt (ofDecimal false ⟨1, 21⟩)) = true
      then positional digits ((shortest units).exponent + digits.length)
      else scientific digits ((shortest units).exponent + digits.length)) =
      layout digits ((shortest units).exponent + digits.length) := by
    split
    · rename_i near
      obtain ⟨low, high⟩ := moderate.mp near
      exact positional_eq_layout some low high
    · rename_i far
      rw [moderate] at far
      exact scientific_eq_layout some (by omega)
  rw [body]
  cases negative <;> rfl

/-- The number just below `10^21`, which is 999999999999999868928. -/
def belowSextillion : Double :=
  .finite true ((10 ^ 21 - 2 ^ 17) * oneUnits) (by decide +kernel)

theorem number_text_layout_below :
    (10 ^ 21 - 2 ^ 17) * oneUnits ≠ 0 ∧ belowSextillion.toText = "-999999999999999900000" ∧
      ∃ d : Decimal, ∃ fits : Representable ((10 ^ 21 - 2 ^ 17) * oneUnits),
        ShortestDecimal fits d ∧ belowSextillion.toText =
          String.ofList ('-' :: layout (Nat.toDigits 10 d.digits) (d.exponent + d.width)) := by
  have nonzero : (10 ^ 21 - 2 ^ 17) * oneUnits ≠ 0 := by decide +kernel
  have fits : Representable ((10 ^ 21 - 2 ^ 17) * oneUnits) := by decide +kernel
  obtain ⟨d, short, text⟩ := number_text_layout true fits nonzero
  exact ⟨nonzero, by decide +kernel, d, fits, short, text⟩

end ExprTree
