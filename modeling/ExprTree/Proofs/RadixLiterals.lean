import ExprTree.Proofs.DigitRounding
import ExprTree.Proofs.NumberReaders
import Mathlib.Data.List.TakeWhile

/-!
Integer literals of the bases 2, 8 and 16 and the reader of integers. Main statement: a literal reads
as the number nearest to its value exactly if the digits behind the first ones to reach `2^53` do not
have to break a tie; the reader of integers, which is exact below `2^63`, only fails to beyond.
-/
namespace ExprTree

open Double Numeral

section Readers

variable {base : Nat} {digits : List Char}

private theorem toNat_of_digitValue {c : Char} (digit : digitValue c < 36) :
    48 ≤ c.toNat ∧ c.toNat ≤ 57 ∨ 65 ≤ c.toNat ∧ c.toNat ≤ 90 ∨ 97 ≤ c.toNat ∧ c.toNat ≤ 122 := by
  unfold digitValue at digit
  split at digit
  · rename_i decimal
    exact .inl decimal
  · split at digit
    · rename_i lower
      exact .inr (.inr lower)
    · split at digit
      · rename_i upper
        exact .inr (.inl upper)
      · omega

theorem isSpace_of_digitValue {c : Char} (digit : digitValue c < 36) : Text.isSpace c = false := by
  have bounds := toNat_of_digitValue digit
  simp only [Text.isSpace, Bool.or_eq_false_iff, Bool.and_eq_false_iff, decide_eq_false_iff_not,
    beq_eq_false_iff_ne]
  omega

private theorem splitSign_of_digitValue {c : Char} (digit : digitValue c < 36) (rest : List Char) :
    splitSign (c :: rest) = (false, c :: rest) := by
  unfold splitSign
  split
  · rename_i front
    cases front
    exact absurd digit (by decide)
  · rename_i front
    cases front
    exact absurd digit (by decide)
  · rfl

/-- Digits of the base are refused only when their value is out of range. -/
theorem accumulate_eq (positive : 0 < base) (all : ∀ c ∈ digits, digitValue c < base)
    {bound sum : Nat} (small : sum < bound) :
    accumulate base bound false sum digits =
      if digits.foldl (fun sum c => sum * base + digitValue c) sum < bound then
        .ok (digits.foldl (fun sum c => sum * base + digitValue c) sum)
      else .error .outOfRange := by
  induction digits generalizing sum with
  | nil => rw [accumulate, List.foldl_nil, if_pos small]
  | cons c rest ih =>
    obtain ⟨first, later⟩ := List.forall_mem_cons.mp all
    rw [accumulate, List.foldl_cons, Bool.false_and, if_neg Bool.false_ne_true,
      if_neg (Nat.not_le.mpr first)]
    dsimp only
    split
    · rename_i beyond
      have grown := le_foldl_digits positive rest (sum * base + digitValue c)
      rw [if_neg (by omega)]
    · rename_i within
      exact ih later (Nat.lt_of_not_le within)

private theorem signed64_eq (positive : 0 < base) (few : base ≤ 36) (some : digits ≠ [])
    (all : ∀ c ∈ digits, digitValue c < base) :
    signed64 base digits =
      if valueOf base digits < 2 ^ 63 then .ok (valueOf base digits : Int)
      else .error .outOfRange := by
  obtain ⟨c, rest, rfl⟩ := List.exists_cons_of_ne_nil some
  have unsigned : splitSign (c :: rest) = (false, c :: rest) :=
    splitSign_of_digitValue ((all c List.mem_cons_self).trans_le few) rest
  have read : Numeral.unsigned base (Nat.pow 2 64) (c :: rest) =
      if valueOf base (c :: rest) < 2 ^ 64 then .ok (valueOf base (c :: rest))
      else .error .outOfRange := by
    unfold Numeral.unsigned
    rw [if_neg (by simp), if_pos positive.ne']
    exact accumulate_eq positive all (Nat.two_pow_pos 64)
  unfold signed64
  simp only [unsigned, read, Nat.pow_eq]
  generalize valueOf base (c :: rest) = value
  by_cases word : value < 2 ^ 64
  · rw [if_pos word]
    simp only [Bool.false_eq_true, if_false, ← Nat.not_lt, ite_not]
  · rw [if_neg word, if_neg (by omega)]

theorem digitsNumber_eq (positive : 0 < base) (few : base ≤ 36) (some : digits ≠ [])
    (all : ∀ c ∈ digits, digitValue c < base) :
    Builtin.digitsNumber base digits =
      if valueOf base digits < 2 ^ 63 then ofNat (valueOf base digits)
      else radixNumber base digits := by
  unfold Builtin.digitsNumber
  rw [signed64_eq positive few some all]
  by_cases word : valueOf base digits < 2 ^ 63
  · simp only [word, if_true, ofInt_natCast]
  · simp only [word, if_false]

/-- The reader of integers takes digits of the base whole. -/
theorem parseIntIn_eq (several : 2 ≤ base) (few : base ≤ 16) (some : digits ≠ [])
    (all : ∀ c ∈ digits, digitValue c < base) :
    Builtin.parseIntIn (String.ofList digits) base = Builtin.digitsNumber base digits := by
  have trimmed : Text.trimChars Text.isSpace (String.ofList digits).toList = digits := by
    rw [String.toList_ofList]
    refine Text.trimChars_eq_self fun c member => isSpace_of_digitValue ?_
    have := all c member
    omega
  have unsigned : splitSign digits = (false, digits) := by
    obtain ⟨c, rest, rfl⟩ := List.exists_cons_of_ne_nil some
    have := all c List.mem_cons_self
    exact splitSign_of_digitValue (by omega) rest
  have unmarked : Builtin.dropHexMark digits = none := by
    unfold Builtin.dropHexMark
    split
    · rename_i mark rest
      have digit : digitValue mark < 16 := (all mark (by simp)).trans_le few
      refine if_neg ?_
      rintro (rfl | rfl) <;> exact absurd digit (by decide)
    · rfl
  have taken : digits.takeWhile (fun c => digitValue c < base) = digits := by
    refine List.takeWhile_eq_self_iff.mpr fun c member => ?_
    exact decide_eq_true (all c member)
  have chosen : (if (base : Int) = 0 ∨ (base : Int) = 16 then
      (if (base : Int) = 0 then 10 else 16, digits) else ((base : Int), digits)) =
        ((base : Int), digits) := by
    by_cases hex : base = 16
    · subst hex
      rfl
    · rw [if_neg (by omega)]
  unfold Builtin.parseIntIn
  simp only [trimmed, unsigned, unmarked, chosen]
  rw [if_neg (by omega)]
  simp [taken, some]

end Readers

/-- The marks of integer literals and the bases they stand for. -/
def radixMarks : List (Char × Nat) :=
  [('b', 2), ('B', 2), ('o', 8), ('O', 8), ('x', 16), ('X', 16)]

section Literals

variable {mark : Char} {base : Nat} {digits : List Char}

theorem radixOfMark?_eq_some_iff : radixOfMark? mark = some base ↔ (mark, base) ∈ radixMarks := by
  simp only [radixMarks, List.mem_cons, Prod.mk.injEq, List.not_mem_nil, or_false]
  unfold radixOfMark?
  split_ifs <;> grind

private theorem base_of_mark (marked : (mark, base) ∈ radixMarks) :
    base = 2 ∨ base = 8 ∨ base = 16 := by
  simp only [radixMarks, List.mem_cons, Prod.mk.injEq, List.not_mem_nil, or_false] at marked
  omega

theorem exists_bits (marked : (mark, base) ∈ radixMarks) :
    ∃ k, base = 2 ^ k ∧ 1 ≤ k ∧ k ≤ 4 := by
  rcases base_of_mark marked with rfl | rfl | rfl
  · exact ⟨1, rfl, by decide, by decide⟩
  · exact ⟨3, rfl, by decide, by decide⟩
  · exact ⟨4, rfl, by decide, by decide⟩

private theorem isSpace_of_mark (marked : (mark, base) ∈ radixMarks) :
    Text.isSpace mark = false := by
  simp only [radixMarks, List.mem_cons, Prod.mk.injEq, List.not_mem_nil, or_false] at marked
  rcases marked with ⟨rfl, -⟩ | ⟨rfl, -⟩ | ⟨rfl, -⟩ | ⟨rfl, -⟩ | ⟨rfl, -⟩ | ⟨rfl, -⟩ <;> rfl

/-- A text that is trimmed to a base mark and more is read in the base. -/
theorem textNumber_of_trimmed {text : String} (marked : (mark, base) ∈ radixMarks)
    (some : digits ≠ [])
    (trimmed : Text.trimChars Text.isSpace text.toList = '0' :: mark :: digits) :
    textNumber text = radixNumber base digits := by
  obtain ⟨c, rest, rfl⟩ := List.exists_cons_of_ne_nil some
  have zero : ∀ name : List Char, name.head? ≠ .some '0' → '0' :: mark :: c :: rest ≠ name := by
    rintro name other rfl
    exact other rfl
  unfold textNumber
  simp only [trimmed, radixOfMark?_eq_some_iff.mpr marked]
  rw [if_neg (by simp), if_neg, if_neg (zero _ (by decide))]
  rintro (infinite | positive)
  · exact zero _ (by decide) infinite
  · exact zero _ (by decide) positive

/-- Blanks around a literal and the base mark are taken off. -/
theorem textNumber_radix (marked : (mark, base) ∈ radixMarks) (some : digits ≠ [])
    (all : ∀ c ∈ digits, digitValue c < base) {before after : List Char}
    (front : ∀ c ∈ before, Text.isSpace c = true) (back : ∀ c ∈ after, Text.isSpace c = true) :
    textNumber (String.ofList (before ++ '0' :: mark :: digits ++ after)) =
      radixNumber base digits := by
  obtain ⟨k, rfl, -, few⟩ := exists_bits marked
  refine textNumber_of_trimmed marked some ?_
  rw [String.toList_ofList, Text.trimChars_append front back, Text.trimChars_eq_self]
  rintro c (_ | ⟨_, _ | ⟨_, member⟩⟩)
  · rfl
  · exact isSpace_of_mark marked
  · have bounded : 2 ^ k ≤ 2 ^ 4 := Nat.pow_le_pow_right (by decide) few
    have := all c member
    exact isSpace_of_digitValue (by omega)

end Literals

/-- The base as the second argument of the reader of integers. -/
theorem toInt32_base {base : Nat} (known : base = 2 ∨ base = 8 ∨ base = 16) :
    (Value.number (ofNat base)).toInt32.toInt = base := by
  rcases known with rfl | rfl | rfl <;> decide +kernel

/-- How integer literals read. A literal, between blanks, reads as the number nearest to its value
exactly if its last digits break no tie that the first ones leave; the reader of integers does so on
its digits also wherever the value is below `2^63`. -/
theorem radix_literal_nearest_iff {mark : Char} {base : Nat} {digits before after : List Char}
    (marked : (mark, base) ∈ radixMarks) (some : digits ≠ [])
    (all : ∀ c ∈ digits, digitValue c < base)
    (front : ∀ c ∈ before, Text.isSpace c = true) (back : ∀ c ∈ after, Text.isSpace c = true)
    (origin : Nat) :
    let value := valueOf base digits
    let literal :=
      (Value.text (String.ofList (before ++ '0' :: mark :: digits ++ after))).toNumber
    ∃ parsed,
      Builtin.parseInt.call origin [.text (String.ofList digits), .number (ofNat base)] =
        .ok (.number parsed) ∧
      (Nearest (value * oneUnits) 1 literal ↔ ¬ TieLost base digits) ∧
      (Nearest (value * oneUnits) 1 parsed ↔ value < 2 ^ 63 ∨ ¬ TieLost base digits) ∧
      (literal = parsed ↔ 2 ^ 63 ≤ value ∨ ¬ TieLost base digits) := by
  intro value literal
  have argument := toInt32_base (base_of_mark marked)
  obtain ⟨k, rfl, several, few⟩ := exists_bits marked
  have bounded : 2 ^ k ≤ 2 ^ 4 := Nat.pow_le_pow_right (by decide) few
  have large : 2 ^ 1 ≤ 2 ^ k := Nat.pow_le_pow_right (by decide) several
  obtain ⟨i, settled⟩ := exists_settled all
  have agree : ofNat (settledValue (2 ^ k) digits) = ofNat value ↔ ¬ TieLost (2 ^ k) digits :=
    settled.ofNat_eq_iff
  have accumulated := radixNumber_eq_ofNat (by omega) some all
  have read : literal = ofNat (settledValue (2 ^ k) digits) :=
    (textNumber_radix marked some all front back).trans accumulated
  have parsed : Builtin.parseIntIn (String.ofList digits) (2 ^ k : Nat) =
      if value < 2 ^ 63 then ofNat value else ofNat (settledValue (2 ^ k) digits) := by
    rw [parseIntIn_eq (by omega) (by omega) some all,
      digitsNumber_eq (by omega) (by omega) some all, accumulated]
  have nearest : ∀ x, Nearest (value * oneUnits) 1 x ↔ x = ofNat value := fun x =>
    nearest_iff Nat.one_pos
  refine ⟨Builtin.parseIntIn (String.ofList digits) (2 ^ k : Nat), ?_, ?_, ?_, ?_⟩
  · rw [← argument]
    rfl
  · rw [nearest, read, agree]
  · rw [nearest, parsed]
    by_cases word : value < 2 ^ 63
    · rw [if_pos word]
      exact iff_of_true rfl (.inl word)
    · rw [if_neg word, agree]
      exact (or_iff_right word).symm
  · rw [read, parsed]
    by_cases word : value < 2 ^ 63
    · rw [if_pos word, agree]
      exact (or_iff_right (Nat.not_le.mpr word)).symm
    · rw [if_neg word]
      exact iff_of_true rfl (.inl (Nat.le_of_not_lt word))

/-- A one, 52 zeros and two more ones: half way between two numbers, and then more. -/
def tiedDigits : List Char :=
  '1' :: List.replicate 52 '0' ++ ['1', '1']

theorem radix_literal_nearest_iff_tied :
    let literal :=
      (Value.text (String.ofList (['\uFEFF'] ++ '0' :: 'b' :: tiedDigits ++ ['\n']))).toNumber
    valueOf 2 tiedDigits = 2 ^ 54 + 3 ∧ TieLost 2 tiedDigits ∧
      ¬ Nearest ((2 ^ 54 + 3) * oneUnits) 1 literal ∧
      ∃ parsed,
        Builtin.parseInt.call 0 [.text (String.ofList tiedDigits), .number (ofNat 2)] =
          .ok (.number parsed) ∧
        Nearest ((2 ^ 54 + 3) * oneUnits) 1 parsed ∧ literal ≠ parsed := by
  intro literal
  have value : valueOf 2 tiedDigits = 2 ^ 54 + 3 := by decide +kernel
  have lost : TieLost 2 tiedDigits := by decide +kernel
  have valid : tiedDigits.all (fun c => digitValue c < 2) = true := by decide +kernel
  obtain ⟨parsed, called, literally, exactly, together⟩ :=
    @radix_literal_nearest_iff 'b' 2 tiedDigits ['\uFEFF'] ['\n'] (by decide) (by decide)
      (fun c member => of_decide_eq_true (List.all_eq_true.mp valid c member))
      (List.forall_mem_singleton.mpr rfl) (List.forall_mem_singleton.mpr rfl) 0
  rw [value] at literally exactly together
  refine ⟨value, lost, fun nearest => literally.mp nearest lost, parsed, called, ?_, ?_⟩
  · exact exactly.mpr (.inl (by decide))
  · intro same
    rcases together.mp same with beyond | kept
    · exact absurd beyond (by decide)
    · exact kept lost

end ExprTree
