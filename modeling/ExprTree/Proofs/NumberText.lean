import ExprTree.Proofs.Shortest
import ExprTree.Proofs.Spelling

/-!
The text of a number reads back as the number. Whatever the layout, positional or scientific, the
text spells a decimal in the rounding interval; only the sign of zero is lost.
-/
namespace ExprTree

namespace Numeral

theorem digitValue_of_isDigit {c : Char} (digit : c.isDigit = true) :
    digitValue c = c.toNat - '0'.toNat := by
  rw [digitValue, if_pos]
  simpa [Char.isDigit, Char.le_def] using digit

theorem valueOf_append (first second : List Char) :
    valueOf 10 (first ++ second) =
      second.foldl (fun sum c => sum * 10 + digitValue c) (valueOf 10 first) := by
  rw [valueOf, List.foldl_append]
  rfl

private theorem foldl_zeros (k sum : Nat) :
    (List.replicate k '0').foldl (fun sum c => sum * 10 + digitValue c) sum = sum * 10 ^ k := by
  induction k generalizing sum with
  | zero => simp
  | succ k ih =>
    rw [List.replicate_succ, List.foldl_cons, ih, Nat.pow_succ']
    have zero : digitValue '0' = 0 := rfl
    rw [zero, Nat.add_zero, Nat.mul_assoc]

private theorem valueOf_append_zeros (digits : List Char) (k : Nat) :
    valueOf 10 (digits ++ List.replicate k '0') = valueOf 10 digits * 10 ^ k := by
  rw [valueOf_append, foldl_zeros]

private theorem valueOf_zeros_append (k : Nat) (digits : List Char) :
    valueOf 10 (List.replicate k '0' ++ digits) = valueOf 10 digits := by
  rw [valueOf_append, valueOf, foldl_zeros, Nat.zero_mul]
  rfl

theorem allDigits_toDigits (n : Nat) : AllDigits (Nat.toDigits 10 n) :=
  fun _ member => Nat.isDigit_of_mem_toDigits (by decide) (by decide) member

private theorem foldl_eq_ofDigitChars {digits : List Char} (all : AllDigits digits) (sum : Nat) :
    digits.foldl (fun sum c => sum * 10 + digitValue c) sum = Nat.ofDigitChars 10 digits sum := by
  induction digits generalizing sum with
  | nil => rfl
  | cons c rest ih =>
    rw [List.foldl_cons, Nat.ofDigitChars_cons, digitValue_of_isDigit (all c (by simp)),
      Nat.mul_comm sum 10]
    exact ih (fun d member => all d (List.mem_cons_of_mem _ member)) _

theorem valueOf_toDigits (n : Nat) : valueOf 10 (Nat.toDigits 10 n) = n := by
  rw [valueOf, foldl_eq_ofDigitChars (allDigits_toDigits n), Nat.ofDigitChars_ten_toDigits]

/-- More digits never make a value smaller. -/
theorem le_foldl_digits {base : Nat} (positive : 0 < base) (digits : List Char) (sum : Nat) :
    sum ≤ digits.foldl (fun sum c => sum * base + digitValue c) sum := by
  induction digits generalizing sum with
  | nil => exact Nat.le_refl sum
  | cons c rest ih =>
    have scaled : sum ≤ sum * base := Nat.le_mul_of_pos_right sum positive
    exact Nat.le_trans (by omega) (ih (sum * base + digitValue c))

private theorem foldl_capped {digits : List Char} {sum : Nat}
    (small : digits.foldl (fun sum c => sum * 10 + digitValue c) sum < 10000) :
    digits.foldl (fun sum c => if sum < 10000 then sum * 10 + digitValue c else sum) sum =
      digits.foldl (fun sum c => sum * 10 + digitValue c) sum := by
  induction digits generalizing sum with
  | nil => rfl
  | cons c rest ih =>
    have below : sum < 10000 :=
      Nat.lt_of_le_of_lt (le_foldl_digits (by decide) (c :: rest) sum) small
    rw [List.foldl_cons, List.foldl_cons, if_pos below]
    exact ih small

/-- An exponent of at most four digits counts in full. -/
theorem powerOf_eq_valueOf {digits : List Char} (small : valueOf 10 digits < 10000) :
    powerOf digits = valueOf 10 digits :=
  foldl_capped small

/-- The digits of a positive number do not start with zero. -/
theorem toDigits_eq_cons {n : Nat} (positive : 0 < n) :
    ∃ c rest, Nat.toDigits 10 n = c :: rest ∧ c ≠ '0' := by
  induction n using Nat.strongRecOn with
  | ind n ih =>
    rw [Nat.toDigits_eq_if (by decide)]
    by_cases single : n < 10
    · rw [if_pos single]
      exact ⟨_, [], rfl, by simpa using positive.ne'⟩
    · obtain ⟨c, rest, same, other⟩ := ih (n / 10) (by omega) (by omega)
      rw [if_neg single, same]
      exact ⟨c, rest ++ _, rfl, other⟩

/-- A positive number reaches the power of ten of its leading digit. -/
theorem pow_le_of_toDigits {n : Nat} (positive : 0 < n) :
    10 ^ ((Nat.toDigits 10 n).length - 1) ≤ n := by
  by_cases single : (Nat.toDigits 10 n).length = 1
  · rw [single]
    exact positive
  · have some : 0 < (Nat.toDigits 10 n).length := Nat.length_toDigits_pos
    rw [← Nat.not_lt, ← Nat.length_toDigits_le_iff (by decide) (by omega)]
    omega

private theorem dropWhile_leading {digits : List Char}
    (leading : ∃ c rest, digits = c :: rest ∧ c ≠ '0') :
    digits.dropWhile (· == '0') = digits := by
  obtain ⟨c, rest, rfl, other⟩ := leading
  rw [List.dropWhile_cons_of_neg (by simpa using other)]

private theorem Spelling.fractionChars_of_ne_nil {digits : List Char} (some : digits ≠ []) :
    fractionChars digits = '.' :: digits := by
  cases digits with
  | nil => exact absurd rfl some
  | cons digit rest => rfl

end Numeral

namespace Double

open Numeral

/-- A spelling that reads as a magnitude: it spells a decimal in the rounding interval, and all its
digits are held. -/
structure Reads (units : Nat) (s : Spelling) : Prop where
  well : s.WellSpelled
  short : s.literal.whole.length ≤ Literal.heldDigits
  inside : Within units s.literal.decimal

theorem Reads.toDouble {units : Nat} {s : Spelling} (reads : Reads units s)
    (fits : Representable units) (positive : 0 < units) :
    s.literal.toDouble = .finite s.negative units fits := by
  unfold Literal.toDouble
  rw [if_pos (by simp [reads.short])]
  exact ofDecimal_of_within s.negative fits positive reads.inside

section Layout

variable {units n : Nat} {e : Int} (fits : Representable units) (positive : 0 < units)
  (inside : Within units ⟨n, e⟩)
include fits positive inside

/-- The place of the point is not far from the first digit. -/
theorem place_bounds :
    -400 ≤ e + (Nat.toDigits 10 n).length ∧ e + (Nat.toDigits 10 n).length ≤ 401 := by
  have some : 0 < (Nat.toDigits 10 n).length := Nat.length_toDigits_pos
  have digits : 0 < n := within_digits_pos fits positive inside
  constructor
  · exact le_within_place fits positive inside
      ((Nat.length_toDigits_le_iff (by decide) some).mp (Nat.le_refl _))
  · have := within_place_le fits positive inside (pow_le_of_toDigits digits)
    omega

/-- The digits cut in two, with the power that puts the point where it belongs. -/
theorem reads_cut (negative : Bool) {k : Nat} (some : 0 < k) (whole : k ≤ (Nat.toDigits 10 n).length)
    (short : k ≤ Literal.heldDigits) (power : Option (Bool × List Char))
    (written : ∀ down digits, power = .some (down, digits) → AllDigits digits ∧ digits ≠ [])
    (place : Spelling.powerValue power = e + (Nat.toDigits 10 n).length - k) :
    Reads units ⟨negative, (Nat.toDigits 10 n).take k, (Nat.toDigits 10 n).drop k, power⟩ := by
  have all := allDigits_toDigits n
  have leading : ∃ c rest, (Nat.toDigits 10 n).take k = c :: rest ∧ c ≠ '0' := by
    obtain ⟨c, rest, same, other⟩ := toDigits_eq_cons (within_digits_pos fits positive inside)
    obtain ⟨less, rfl⟩ := Nat.exists_eq_succ_of_ne_zero some.ne'
    exact ⟨c, rest.take less, by rw [same, List.take_succ_cons], other⟩
  refine ⟨⟨?_, .inr leading, ?_, written⟩, ?_, ?_⟩
  · exact fun c member => all c (List.mem_of_mem_take member)
  · exact fun c member => all c (List.mem_of_mem_drop member)
  · simp only [Spelling.literal, dropWhile_leading leading, List.length_take]
    omega
  · simp only [Spelling.literal, dropWhile_leading leading, Literal.decimal, Literal.digits,
      List.take_append_drop, valueOf_toDigits, List.length_drop, place]
    have same : e + (Nat.toDigits 10 n).length - k - ((Nat.toDigits 10 n).length - k : Nat) = e := by
      omega
    rw [same]
    exact inside

omit fits positive in
/-- All digits behind the point, after zeros. -/
theorem reads_small (negative : Bool) (zeros : Nat)
    (place : e + (Nat.toDigits 10 n).length = -zeros) :
    Reads units ⟨negative, ['0'], List.replicate zeros '0' ++ Nat.toDigits 10 n, none⟩ := by
  refine ⟨⟨by simp [AllDigits], .inl rfl, ?_, fun _ _ given => by cases given⟩, Nat.zero_le _, ?_⟩
  · intro c member
    rcases List.mem_append.mp member with zero | digit
    · rw [(List.mem_replicate.mp zero).2]
      rfl
    · exact allDigits_toDigits n c digit
  · have same : (0 : Int) - (zeros + (Nat.toDigits 10 n).length : Nat) = e := by omega
    simp only [Spelling.literal, Literal.decimal, Literal.digits, Spelling.powerValue,
      List.length_append, List.length_replicate, same]
    rw [show ['0'].dropWhile (· == '0') = [] from rfl, List.nil_append, valueOf_zeros_append,
      valueOf_toDigits]
    exact inside

/-- All digits and more zeros before the point. -/
theorem reads_padded (negative : Bool) (zeros : Nat) (place : e = zeros) :
    Reads units ⟨negative, Nat.toDigits 10 n ++ List.replicate zeros '0', [], none⟩ := by
  have bounds := place_bounds fits positive inside
  have leading : ∃ c rest, Nat.toDigits 10 n ++ List.replicate zeros '0' = c :: rest ∧ c ≠ '0' := by
    obtain ⟨c, rest, same, other⟩ := toDigits_eq_cons (within_digits_pos fits positive inside)
    exact ⟨c, rest ++ List.replicate zeros '0', by rw [same, List.cons_append], other⟩
  refine ⟨⟨?_, .inr leading, by simp [AllDigits], fun _ _ given => by cases given⟩, ?_, ?_⟩
  · intro c member
    rcases List.mem_append.mp member with digit | zero
    · exact allDigits_toDigits n c digit
    · rw [(List.mem_replicate.mp zero).2]
      rfl
  · simp only [Spelling.literal, dropWhile_leading leading, List.length_append,
      List.length_replicate, Literal.heldDigits]
    omega
  · simp only [Spelling.literal, dropWhile_leading leading, Literal.decimal, Literal.digits,
      Spelling.powerValue, List.append_nil, valueOf_append_zeros, valueOf_toDigits,
      List.length_nil]
    rw [within_shift]
    have same : (0 : Int) - (0 : Nat) + zeros = e := by omega
    rw [same]
    exact inside

private theorem exists_reads_positional (negative : Bool) :
    ∃ s : Spelling, s.negative = negative ∧ Reads units s ∧
      s.body = positional (Nat.toDigits 10 n) (e + (Nat.toDigits 10 n).length) := by
  have bounds := place_bounds fits positive inside
  have present : Nat.toDigits 10 n ≠ [] := Nat.toDigits_ne_nil
  generalize place : e + ((Nat.toDigits 10 n).length : Int) = p at *
  unfold positional
  by_cases small : p ≤ 0
  · refine ⟨_, rfl, reads_small inside negative (-p).toNat (by omega), ?_⟩
    have some : List.replicate (-p).toNat '0' ++ Nat.toDigits 10 n ≠ [] := by simp [present]
    rw [if_pos small, Spelling.body, Spelling.fractionChars_of_ne_nil some, Spelling.powerChars,
      List.append_nil, List.singleton_append]
  · rw [if_neg small]
    dsimp only
    rcases Nat.lt_or_ge p.toNat (Nat.toDigits 10 n).length with cut | padded
    · have rest : (Nat.toDigits 10 n).drop p.toNat ≠ [] := by
        rw [Ne, List.drop_eq_nil_iff]
        omega
      refine ⟨_, rfl, reads_cut fits positive inside negative (k := p.toNat) (by omega)
        cut.le ?_ none (fun _ _ given => by cases given) ?_, ?_⟩
      · unfold Literal.heldDigits
        omega
      · rw [Spelling.powerValue]
        omega
      · rw [Spelling.body, Spelling.fractionChars_of_ne_nil rest, Spelling.powerChars,
          List.append_nil, List.length_take, Nat.min_eq_left cut.le, Nat.sub_self,
          List.replicate_zero, List.append_nil, if_neg (by simpa using rest)]
    · refine ⟨_, rfl, reads_padded fits positive inside negative
        (p.toNat - (Nat.toDigits 10 n).length) (by omega), ?_⟩
      rw [List.take_of_length_le padded, List.drop_eq_nil_of_le padded]
      simp [Spelling.body, Spelling.fractionChars, Spelling.powerChars]

private theorem exists_reads_scientific (negative : Bool) :
    ∃ s : Spelling, s.negative = negative ∧ Reads units s ∧
      s.body = scientific (Nat.toDigits 10 n) (e + (Nat.toDigits 10 n).length) := by
  have bounds := place_bounds fits positive inside
  have some : 0 < (Nat.toDigits 10 n).length := Nat.length_toDigits_pos
  generalize place : e + ((Nat.toDigits 10 n).length : Int) = p at *
  refine ⟨_, rfl, reads_cut fits positive inside negative Nat.one_pos some (by decide)
    (.some (decide (p - 1 < 0), Nat.toDigits 10 (p - 1).natAbs)) ?_ ?_, ?_⟩
  · rintro down digits ⟨⟩
    exact ⟨allDigits_toDigits _, Nat.toDigits_ne_nil⟩
  · have size : powerOf (Nat.toDigits 10 (p - 1).natAbs) = (p - 1).natAbs := by
      rw [powerOf_eq_valueOf] <;> rw [valueOf_toDigits]
      omega
    by_cases down : p - 1 < 0
    · simp only [down, decide_true, Spelling.powerValue, size]
      omega
    · simp only [down, decide_false, Spelling.powerValue, size]
      omega
  · have sign : (if decide (p - 1 < 0) = true then '-' else '+') =
        if p - 1 < 0 then '-' else '+' := by simp
    simp only [scientific, Spelling.body, Spelling.powerChars, Nat.toString_eq_repr,
      Nat.toList_repr, sign]
    cases written : Nat.toDigits 10 n with
    | nil => exact absurd written Nat.toDigits_ne_nil
    | cons first rest =>
      cases rest with
      | nil => rfl
      | cons second rest => rfl

private theorem exists_reads (negative moderate : Bool) :
    ∃ s : Spelling, s.negative = negative ∧ Reads units s ∧ s.body =
      if moderate then positional (Nat.toDigits 10 n) (e + (Nat.toDigits 10 n).length)
      else scientific (Nat.toDigits 10 n) (e + (Nat.toDigits 10 n).length) := by
  cases moderate with
  | true => exact exists_reads_positional fits positive inside negative
  | false => exact exists_reads_scientific fits positive inside negative

end Layout

/-- The number itself, but positive zero for either zero. -/
def unsignedZero (x : Double) : Double :=
  if x.isZero then zero false else x

/-- The text of a finite number spells it. -/
theorem exists_spelling {x : Double} (finite : x.isFinite = true) :
    ∃ s : Spelling, s.WellSpelled ∧ x.toText.toList = s.chars ∧
      s.literal.toDouble = x.unsignedZero := by
  cases x with
  | nan => cases finite
  | infinite negative => cases finite
  | finite negative units fits =>
    by_cases none : units = 0
    · subst none
      refine ⟨⟨false, ['0'], [], .none⟩, ⟨?_, .inl rfl, ?_, ?_⟩, ?_, rfl⟩
      · simp [AllDigits]
      · simp [AllDigits]
      · intro down digits given
        cases given
      · rw [toText, if_pos rfl]
        rfl
    · have positive : 0 < units := Nat.pos_of_ne_zero none
      have inside : Within units ⟨(shortest units).digits, (shortest units).exponent⟩ :=
        within_shortest fits positive
      have same : unsignedZero (.finite negative units fits) = .finite negative units fits := by
        simp [unsignedZero, isZero, none]
      rw [same]
      rw [toText, if_neg none]
      dsimp only
      rw [Nat.toString_eq_repr, Nat.toList_repr]
      -- Which layout is taken has no part in what the text reads as.
      generalize ((ofDecimal false ⟨1, -6⟩).le _ && _) = moderate
      obtain ⟨s, rfl, reads, layout⟩ := exists_reads fits positive inside negative moderate
      refine ⟨s, reads.well, ?_, reads.toDouble fits positive⟩
      rw [String.toList_ofList, Spelling.chars, layout]

/-- The text of a finite number reads back as the number. -/
theorem decimal?_toText {x : Double} (finite : x.isFinite = true) :
    Numeral.decimal? x.toText.toList = some x.unsignedZero := by
  obtain ⟨s, well, text, value⟩ := exists_spelling finite
  have scanned := Spelling.scan_chars well Spelling.ends_nil
  rw [List.append_nil] at scanned
  rw [text, Numeral.decimal?, scanned]
  exact congrArg some value

/-- The text of a finite number starts with a digit or a minus. -/
theorem toText_front {x : Double} (finite : x.isFinite = true) :
    ∃ c text, x.toText.toList = c :: text ∧ (c.isDigit = true ∨ c = '-') := by
  obtain ⟨s, well, spelled, _⟩ := exists_spelling finite
  obtain ⟨c, text, same, digit⟩ := well.body_eq
  rw [spelled, Spelling.chars]
  split
  · exact ⟨'-', s.body, rfl, .inr rfl⟩
  · exact ⟨c, text, same, .inl digit⟩

/-- The reader of JSON tokens takes the text of a finite number whole. -/
theorem scanNumber_toText {x : Double} (finite : x.isFinite = true) {rest : List Char}
    (ends : Spelling.Ends rest) :
    Json.scanNumber (x.toText.toList ++ rest) = some (x.toText.toList, rest) := by
  obtain ⟨s, well, text, _⟩ := exists_spelling finite
  rw [text]
  exact Json.scanNumber_chars well ends

end Double

end ExprTree
