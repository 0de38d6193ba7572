import ExprTree.Proofs.IntegerPart
import ExprTree.Proofs.NumberGrammar
import Mathlib.Data.Nat.Digits.Defs

/-!
The reader of an integer at the front of a text. What it takes is a relation on whole texts: white
space, a sign, a mark of base 16 where the radix lets one be skipped, and the longest run of digits of
the base, with anything behind. Main statement: the reader gives the signed value of this run, exactly
as long as it is at most `2^53`, and NaN exactly if there is none.
-/
namespace ExprTree

open Double Numeral

/-- What comes before the digits under a radix, and the base it leaves: nothing, with the radix as the
base and 10 for radix 0, or a mark of base 16, which radix 0 and radix 16 never take for digits. -/
inductive Opens (radix : Int) : List Char → Nat → List Char → Prop where
  | given {base : Nat} {tail : List Char} (chosen : (base : Int) = if radix = 0 then 10 else radix)
      (unmarked : radix = 0 ∨ radix = 16 →
        ∀ x later, x = 'x' ∨ x = 'X' → tail ≠ '0' :: x :: later) : Opens radix [] base tail
  | marked {x : Char} {tail : List Char} (hex : x = 'x' ∨ x = 'X')
      (either : radix = 0 ∨ radix = 16) : Opens radix ['0', x] 16 tail

/-- Digits of a base with no further one behind them. -/
structure DigitRun (base : Nat) (digits rest : List Char) : Prop where
  nonempty : digits ≠ []
  all : ∀ c ∈ digits, digitValue c < base
  stops : ∀ c, rest.head? = some c → base ≤ digitValue c

/-- A text with an integer at the front: white space, a sign, what opens the base and its digits. -/
inductive IntegerFront (radix : Int) : List Char → Bool → Nat → List Char → Prop where
  | intro {blanks sign mark digits rest : List Char} {base : Nat}
      (blank : ∀ c ∈ blanks, c ∈ whiteSpace) (signed : IsSign sign)
      (opens : Opens radix mark base (digits ++ rest)) (run : DigitRun base digits rest) :
      IntegerFront radix (blanks ++ (sign ++ (mark ++ (digits ++ rest)))) (sign == ['-']) base digits

/-- The radixes that are taken: those of a digit alphabet, and 0 for the choice by the text. -/
def IsRadix (radix : Int) : Prop :=
  radix = 0 ∨ 2 ≤ radix ∧ radix ≤ 36

section Opening

variable {radix : Int} {mark tail : List Char} {base : Nat}

private theorem dropHexMark_eq_some {x : Char} (hex : x = 'x' ∨ x = 'X') (tail : List Char) :
    Builtin.dropHexMark ('0' :: x :: tail) = some tail :=
  if_pos hex

private theorem dropHexMark_eq_none {body : List Char}
    (unmarked : ∀ x later, x = 'x' ∨ x = 'X' → body ≠ '0' :: x :: later) :
    Builtin.dropHexMark body = none := by
  unfold Builtin.dropHexMark
  split
  · rename_i x later
    exact if_neg fun hex => unmarked x later hex rfl
  · rfl

/-- The base and the digits that the reader goes on with. -/
def openBase (radix : Int) (body : List Char) : Int × List Char :=
  if radix = 0 ∨ radix = 16 then
    match Builtin.dropHexMark body with
    | some rest => (16, rest)
    | none => (if radix = 0 then 10 else 16, body)
  else (radix, body)

private theorem Opens.openBase_eq (opens : Opens radix mark base tail) :
    openBase radix (mark ++ tail) = ((base : Int), tail) := by
  unfold openBase
  cases opens with
  | given chosen unmarked =>
    rw [List.nil_append, chosen]
    by_cases either : radix = 0 ∨ radix = 16
    · rw [if_pos either, dropHexMark_eq_none (unmarked either)]
      rcases either with rfl | rfl <;> rfl
    · rw [if_neg either, if_neg fun zero => either (.inl zero)]
  | marked hex either =>
    rw [if_pos either, List.cons_append, List.cons_append, dropHexMark_eq_some hex]
    rfl

theorem Opens.bounds (opens : Opens radix mark base tail) (valid : IsRadix radix) :
    2 ≤ base ∧ base ≤ 36 := by
  cases opens with
  | given chosen =>
    rcases valid with rfl | ⟨low, high⟩
    · rw [if_pos rfl] at chosen
      omega
    · rw [if_neg (by omega)] at chosen
      omega
  | marked => decide

/-- Every text opens in one way or the other. -/
theorem exists_opens (valid : IsRadix radix) (body : List Char) :
    ∃ mark base tail, body = mark ++ tail ∧ Opens radix mark base tail := by
  by_cases unmarked : radix = 0 ∨ radix = 16 →
      ∀ x later, x = 'x' ∨ x = 'X' → body ≠ '0' :: x :: later
  · obtain ⟨base, chosen⟩ : ∃ base : Nat, (base : Int) = if radix = 0 then 10 else radix := by
      refine Int.eq_ofNat_of_zero_le ?_ |>.imp fun _ => Eq.symm
      unfold IsRadix at valid
      split <;> omega
    exact ⟨[], base, body, rfl, .given chosen unmarked⟩
  · push Not at unmarked
    obtain ⟨either, x, later, hex, rfl⟩ := unmarked
    exact ⟨['0', x], 16, later, rfl, .marked hex either⟩

/-- The characters of a mark are digits of base 36. -/
theorem Opens.mark_lt (opens : Opens radix mark base tail) : ∀ c ∈ mark, digitValue c < 36 := by
  cases opens with
  | given => exact nofun
  | marked hex =>
    refine List.forall_mem_cons.mpr ⟨by decide, List.forall_mem_singleton.mpr ?_⟩
    rcases hex with rfl | rfl <;> decide

/-- How a text opens does not depend on whether it ends earlier. -/
theorem Opens.of_prefix {shorter : List Char} (opens : Opens radix mark base tail)
    (front : shorter <+: tail) : Opens radix mark base shorter := by
  cases opens with
  | given chosen unmarked =>
    obtain ⟨more, rfl⟩ := front
    refine .given chosen fun either x later hex same => ?_
    exact unmarked either x (later ++ more) hex (by rw [same]; rfl)
  | marked hex either => exact .marked hex either

/-- White space does not complete a mark. -/
theorem Opens.append_blank {after : List Char} (opens : Opens radix mark base tail)
    (some : tail ≠ []) (blank : ∀ c ∈ after, c ∈ whiteSpace) :
    Opens radix mark base (tail ++ after) := by
  cases opens with
  | given chosen unmarked =>
    refine .given chosen fun either x later hex same => ?_
    cases tail with
    | nil => exact some rfl
    | cons c rest =>
      obtain ⟨zero, behind⟩ := List.cons.inj same
      cases rest with
      | nil =>
        obtain rfl : after = x :: later := behind
        have taken := blank x List.mem_cons_self
        rcases hex with rfl | rfl <;> exact absurd taken (by decide)
      | cons y more =>
        obtain ⟨mark, -⟩ := List.cons.inj behind
        exact unmarked either x more hex (by rw [zero, mark])
  | marked hex either => exact .marked hex either

end Opening

section Trimming

variable {blanks core : List Char}

/-- Trimming a text leaves what stands in front of its last blanks. -/
theorem exists_trimChars_eq (blank : ∀ c ∈ blanks, c ∈ whiteSpace) (some : core ≠ [])
    (solid : ∀ c ∈ core, Text.isSpace c = false) (rest : List Char) :
    ∃ kept, kept <+: rest ∧
      Text.trimChars Text.isSpace (blanks ++ (core ++ rest)) = core ++ kept := by
  have front : (core ++ rest).dropWhile Text.isSpace = core ++ rest := by
    obtain ⟨c, later, rfl⟩ := List.exists_cons_of_ne_nil some
    exact List.dropWhile_cons_of_neg (by simp [solid c List.mem_cons_self])
  have back : core.reverse.dropWhile Text.isSpace = core.reverse := by
    obtain ⟨c, later, reversed⟩ := List.exists_cons_of_ne_nil (List.reverse_ne_nil_iff.mpr some)
    have member : c ∈ core := List.mem_reverse.mp (reversed ▸ List.mem_cons_self)
    rw [reversed]
    exact List.dropWhile_cons_of_neg (by simp [solid c member])
  refine ⟨(rest.reverse.dropWhile Text.isSpace).reverse, ?_, ?_⟩
  · exact List.reverse_suffix.mp (by simpa using List.dropWhile_suffix Text.isSpace)
  · unfold Text.trimChars
    rw [List.dropWhile_append_of_pos fun c member => isSpace_iff.mpr (blank c member), front,
      List.reverse_append, List.dropWhile_append, back]
    by_cases none : rest.reverse.dropWhile Text.isSpace = []
    · rw [none]
      simp
    · rw [if_neg (by simpa using none), List.reverse_append, List.reverse_reverse]

end Trimming

namespace Double

/-- A number that counting can lead to: not NaN and without a minus. -/
def IsCount (x : Double) : Prop :=
  x ≠ nan ∧ x.signBit = false

private theorem isCount_ofRatio (num den : Nat) : IsCount (ofRatio false num den) := by
  refine ⟨ofRatio_ne_nan false num den, ?_⟩
  unfold ofRatio
  split <;> rfl

private theorem isCount_ofNat (n : Nat) : IsCount (ofNat n) :=
  isCount_ofRatio (n * oneUnits) 1

private theorem isCount_zero : IsCount (zero false) :=
  ⟨by simp [zero], rfl⟩

private theorem isCount_infinite : IsCount (infinite false) :=
  ⟨by simp, rfl⟩

variable {x y : Double}

private theorem IsCount.eq_infinite_or_finite (count : IsCount x) :
    x = infinite false ∨ ∃ units fits, x = finite false units fits := by
  obtain ⟨number, sign⟩ := count
  cases x with
  | nan => exact absurd rfl number
  | infinite negative => exact .inl (congrArg infinite sign)
  | finite negative units fits =>
    obtain rfl : negative = false := sign
    exact .inr ⟨units, fits, rfl⟩

/-- An infinity times a base is one; only zero would leave NaN. -/
theorem IsCount.mul (count : IsCount x) {n : Nat} (positive : 0 < n) (small : n ≤ 2 ^ 53) :
    IsCount (x.mul (ofNat n)) := by
  have factor : n * oneUnits ≠ 0 := (Nat.mul_pos positive oneUnits_pos).ne'
  rw [ofNat_small small]
  obtain rfl | ⟨units, fits, rfl⟩ := count.eq_infinite_or_finite
  · rw [Double.mul, if_neg factor]
    exact isCount_infinite
  · exact isCount_ofRatio _ _

theorem IsCount.add (first : IsCount x) (second : IsCount y) : IsCount (x.add y) := by
  obtain rfl | ⟨m, fits, rfl⟩ := first.eq_infinite_or_finite
  · obtain rfl | ⟨n, others, rfl⟩ := second.eq_infinite_or_finite
    · exact isCount_infinite
    · exact isCount_infinite
  · obtain rfl | ⟨n, others, rfl⟩ := second.eq_infinite_or_finite
    · exact isCount_infinite
    · have sum : ¬ signed false m + signed false n < 0 := by
        simp only [signed, Bool.false_eq_true, if_false]
        omega
      rw [Double.add]
      split
      · exact isCount_zero
      · rw [decide_eq_false sum]
        exact isCount_ofRatio _ _

end Double

section Digits

variable {base : Nat} {digits : List Char}

/-- The value of digits, the first of them the most significant. -/
def placeValue (base : Nat) (digits : List Char) : Nat :=
  Nat.ofDigits base (digits.map digitValue).reverse

private theorem valueOf_eq_placeValue : valueOf base digits = placeValue base digits := by
  induction digits using List.reverseRecOn with
  | nil => rfl
  | append_singleton front last ih =>
    have step : valueOf base (front ++ [last]) =
        valueOf base front * base + digitValue last := by
      unfold valueOf
      rw [List.foldl_append, List.foldl_cons, List.foldl_nil]
    have place : placeValue base (front ++ [last]) =
        digitValue last + base * placeValue base front := by
      simp [placeValue, Nat.ofDigits_cons]
    rw [step, place, ih, Nat.mul_comm, Nat.add_comm]

private theorem isCount_accumulate (positive : 0 < base) (few : base ≤ 36) {sum : Double}
    (count : IsCount sum) (digits : List Char) :
    IsCount (digits.foldl
      (fun sum c => (sum.mul (ofNat base)).add (ofNat (digitValue c))) sum) := by
  induction digits generalizing sum with
  | nil => exact count
  | cons c rest ih =>
    rw [List.foldl_cons]
    exact ih ((count.mul positive (by omega)).add (isCount_ofNat _))

/-- Digits have a number, however long they are. -/
theorem isCount_digitsNumber (positive : 0 < base) (few : base ≤ 36) (some : digits ≠ [])
    (all : ∀ c ∈ digits, digitValue c < base) : IsCount (Builtin.digitsNumber base digits) := by
  have valid : (digits.isEmpty || digits.any fun c => base ≤ digitValue c) = false := by
    simpa [some] using all
  rw [digitsNumber_eq positive few some all]
  split
  · exact isCount_ofNat _
  · unfold radixNumber
    rw [valid, if_neg Bool.false_ne_true]
    exact isCount_accumulate positive few isCount_zero digits

/-- Small values are read exactly. -/
theorem digitsNumber_small (positive : 0 < base) (few : base ≤ 36) (some : digits ≠ [])
    (all : ∀ c ∈ digits, digitValue c < base) (small : placeValue base digits ≤ 2 ^ 53) :
    Builtin.digitsNumber base digits =
      .finite false (placeValue base digits * oneUnits) (representable_small small) := by
  rw [digitsNumber_eq positive few some all, valueOf_eq_placeValue, if_pos (by omega),
    ofNat_small small]

end Digits

section Reader

variable {radix : Int} {text : String} {base : Nat} {negative : Bool}

/-- The number of digits with their sign. -/
def signedNumber (negative : Bool) (base : Nat) (digits : List Char) : Double :=
  if negative then (Builtin.digitsNumber base digits).neg else Builtin.digitsNumber base digits

private theorem signedNumber_ne_nan (positive : 0 < base) (few : base ≤ 36) {digits : List Char}
    (some : digits ≠ []) (all : ∀ c ∈ digits, digitValue c < base) :
    signedNumber negative base digits ≠ .nan := by
  obtain ⟨number, -⟩ := isCount_digitsNumber positive few some all
  unfold signedNumber
  generalize Builtin.digitsNumber base digits = x at number
  cases x <;> cases negative <;> first | exact number | exact nofun

private theorem parseIntIn_eq_openBase {body : List Char}
    (split : splitSign (Text.trimChars Text.isSpace text.toList) = (negative, body)) :
    Builtin.parseIntIn text radix =
      let (base, tail) := openBase radix body
      if base < 2 ∨ 36 < base then .nan
      else if tail.takeWhile (fun c => digitValue c < base.toNat) = [] then .nan
      else signedNumber negative base.toNat (tail.takeWhile fun c => digitValue c < base.toNat) := by
  unfold Builtin.parseIntIn signedNumber
  simp only [split, List.isEmpty_iff]
  rfl

/-- Without a radix nothing is read. -/
theorem parseIntIn_of_not_isRadix (invalid : ¬ IsRadix radix) :
    Builtin.parseIntIn text radix = .nan := by
  unfold IsRadix at invalid
  rw [parseIntIn_eq_openBase rfl, openBase, if_neg (by omega)]
  exact if_pos (by omega)

/-- What is read behind the sign and what opens the base. -/
theorem parseIntIn_of_opens {mark tail : List Char} (valid : IsRadix radix)
    (split : splitSign (Text.trimChars Text.isSpace text.toList) = (negative, mark ++ tail))
    (opens : Opens radix mark base tail) :
    Builtin.parseIntIn text radix =
      if tail.takeWhile (fun c => digitValue c < base) = [] then .nan
      else signedNumber negative base (tail.takeWhile fun c => digitValue c < base) := by
  have bounds := opens.bounds valid
  rw [parseIntIn_eq_openBase split, opens.openBase_eq]
  exact if_neg (by omega)

private theorem DigitRun.takeWhile_eq {digits rest kept : List Char}
    (run : DigitRun base digits rest)
    (front : kept <+: rest) :
    (digits ++ kept).takeWhile (fun c => digitValue c < base) = digits := by
  have stop : kept.takeWhile (fun c => digitValue c < base) = [] := by
    cases kept with
    | nil => rfl
    | cons c later =>
      obtain ⟨more, rfl⟩ := front
      exact List.takeWhile_cons_of_neg (by simpa using run.stops c rfl)
  rw [List.takeWhile_append_of_pos fun c member => decide_eq_true (run.all c member), stop,
    List.append_nil]

private theorem isSpace_of_isSign {sign : List Char} (signed : IsSign sign) :
    ∀ c ∈ sign, Text.isSpace c = false := by
  rcases signed with rfl | rfl | rfl
  · exact nofun
  · exact List.forall_mem_singleton.mpr rfl
  · exact List.forall_mem_singleton.mpr rfl

private theorem unsigned_of_digitValue {word : List Char} (some : word ≠ [])
    (all : ∀ c ∈ word, digitValue c < 36) (rest : List Char) : Unsigned (word ++ rest) := by
  obtain ⟨c, later, rfl⟩ := List.exists_cons_of_ne_nil some
  have digit := all c List.mem_cons_self
  rintro c ⟨⟩
  constructor <;> rintro rfl <;> exact absurd digit (by decide)

/-- The reader takes the integer at the front: mark and digits are digits of base 36, hence neither
blank nor a sign, and stay whole when blanks and sign are taken off. -/
theorem IntegerFront.parseIntIn_eq {digits : List Char} (valid : IsRadix radix)
    (front : IntegerFront radix text.toList negative base digits) :
    Builtin.parseIntIn text radix = signedNumber negative base digits := by
  obtain ⟨chars, same⟩ : ∃ chars, text.toList = chars := ⟨_, rfl⟩
  rw [same] at front
  obtain @⟨blanks, sign, mark, digits, rest, base, blank, signed, opens, run⟩ := front
  have word : ∀ c ∈ mark ++ digits, digitValue c < 36 := by
    intro c member
    rcases List.mem_append.mp member with marked | digit
    · exact opens.mark_lt c marked
    · exact (run.all c digit).trans_le (opens.bounds valid).2
  have some : mark ++ digits ≠ [] := by simp [run.nonempty]
  have solid : ∀ c ∈ sign ++ (mark ++ digits), Text.isSpace c = false := by
    intro c member
    rcases List.mem_append.mp member with first | later
    · exact isSpace_of_isSign signed c first
    · exact isSpace_of_digitValue (word c later)
  obtain ⟨kept, shorter, trimmed⟩ :=
    exists_trimChars_eq blank (by simp [run.nonempty]) solid rest
  have split : splitSign (Text.trimChars Text.isSpace text.toList) =
      (sign == ['-'], mark ++ (digits ++ kept)) := by
    rw [← List.append_assoc mark, ← splitSign_append signed (unsigned_of_digitValue some word kept),
      same]
    simpa only [List.append_assoc] using congrArg splitSign trimmed
  have opened := opens.of_prefix ((List.prefix_append_right_inj digits).mpr shorter)
  rw [parseIntIn_of_opens valid split opened, run.takeWhile_eq shorter, if_neg run.nonempty]

/-- Behind the digits that the reader takes from a trimmed text stands no further one. -/
theorem digitRun_takeWhile {tail after : List Char} (few : base ≤ 36)
    (some : tail.takeWhile (fun c => digitValue c < base) ≠ [])
    (blank : ∀ c ∈ after, c ∈ whiteSpace) :
    DigitRun base (tail.takeWhile fun c => digitValue c < base)
      (tail.dropWhile (fun c => digitValue c < base) ++ after) := by
  refine ⟨some, fun c member => ?_, fun c front => ?_⟩
  · simpa using List.all_eq_true.mp List.all_takeWhile c member
  · have off := List.head?_dropWhile_not (fun c => decide (digitValue c < base)) tail
    cases behind : tail.dropWhile fun c => digitValue c < base with
    | nil =>
      rw [behind, List.nil_append] at front
      have space := isSpace_iff.mpr (blank c (List.mem_of_head? front))
      by_contra digit
      rw [isSpace_of_digitValue (by omega)] at space
      cases space
    | cons d later =>
      rw [behind] at off front
      cases front
      simpa using off

private theorem IntegerFront.digits_spec {chars digits : List Char} (valid : IsRadix radix)
    (front : IntegerFront radix chars negative base digits) :
    0 < base ∧ base ≤ 36 ∧ digits ≠ [] ∧ ∀ c ∈ digits, digitValue c < base := by
  obtain ⟨-, -, opens, run⟩ := front
  have bounds := opens.bounds valid
  exact ⟨by omega, bounds.2, run.nonempty, run.all⟩

/-- Where the reader gives a number, an integer is at the front, followed by the blanks that were
trimmed off the end. -/
theorem exists_integerFront (valid : IsRadix radix)
    (number : Builtin.parseIntIn text radix ≠ .nan) :
    ∃ negative base digits, IntegerFront radix text.toList negative base digits := by
  obtain ⟨⟨before, after, front, back, same⟩, -, -⟩ := trimmed_trimChars text.toList
  obtain ⟨sign, signed, body, -⟩ := splitSign_spec (Text.trimChars Text.isSpace text.toList)
  obtain ⟨mark, base, tail, opened, opens⟩ :=
    exists_opens valid (splitSign (Text.trimChars Text.isSpace text.toList)).2
  rw [parseIntIn_of_opens valid (Prod.ext rfl opened) opens] at number
  have some : tail.takeWhile (fun c => digitValue c < base) ≠ [] := fun none =>
    number (if_pos none)
  have run := digitRun_takeWhile (opens.bounds valid).2 some back
  have extended : Opens radix mark base (tail ++ after) :=
    opens.append_blank (fun none => some (by rw [none]; rfl)) back
  have joined : tail ++ after = tail.takeWhile (fun c => digitValue c < base) ++
      (tail.dropWhile (fun c => digitValue c < base) ++ after) := by
    rw [← List.append_assoc, List.takeWhile_append_dropWhile]
  have whole : text.toList = before ++ (sign ++ (mark ++ (tail ++ after))) := by
    rw [same, body, opened]
    simp only [List.append_assoc]
  rw [joined] at extended whole
  rw [whole]
  exact ⟨_, _, _, .intro front signed extended run⟩

/-- Exactly without a radix or an integer at the front the reader gives NaN. -/
theorem parseIntIn_eq_nan_iff :
    Builtin.parseIntIn text radix = .nan ↔
      ¬ IsRadix radix ∨ ∀ negative base digits,
        ¬ IntegerFront radix text.toList negative base digits := by
  by_cases valid : IsRadix radix
  · constructor
    · intro nan
      refine .inr fun negative base digits front => ?_
      obtain ⟨positive, few, some, all⟩ := front.digits_spec valid
      rw [front.parseIntIn_eq valid] at nan
      exact signedNumber_ne_nan positive few some all nan
    · intro none
      by_contra number
      obtain ⟨negative, base, digits, front⟩ := exists_integerFront valid number
      exact none.resolve_left (not_not.mpr valid) negative base digits front
  · exact iff_of_true (parseIntIn_of_not_isRadix valid) (.inl valid)

private theorem IntegerFront.parseIntIn_small {digits : List Char} (valid : IsRadix radix)
    (front : IntegerFront radix text.toList negative base digits)
    (small : placeValue base digits ≤ 2 ^ 53) :
    Builtin.parseIntIn text radix =
      .finite negative (placeValue base digits * oneUnits) (representable_small small) := by
  obtain ⟨positive, few, some, all⟩ := front.digits_spec valid
  rw [front.parseIntIn_eq valid, signedNumber, digitsNumber_small positive few some all small]
  cases negative <;> rfl

end Reader

/-- What the reader of integers reads, for all arguments. The digits of the integer at the front,
where their value is at most `2^53`, give exactly this value with the sign before them, so that a
minus leaves negative zero. The result is NaN exactly if the radix is none or no integer is there. -/
theorem parseInt_reads_longest_front (origin : Nat) (args : List Value) :
    let text := (argument args 0).toText.toList
    let radix := (argument args 1).toInt32.toInt
    ∃ x, Builtin.parseInt.call origin args = .ok (.number x) ∧
      (∀ negative base digits, IsRadix radix → IntegerFront radix text negative base digits →
        ∀ small : placeValue base digits ≤ 2 ^ 53,
          x = .finite negative (placeValue base digits * oneUnits) (representable_small small)) ∧
      (x = .nan ↔ ¬ IsRadix radix ∨
        ∀ negative base digits, ¬ IntegerFront radix text negative base digits) :=
  ⟨_, rfl, fun _ _ _ valid front small => front.parseIntIn_small valid small,
    parseIntIn_eq_nan_iff⟩

/-- Zeros behind a minus and a mark, with no radix given. -/
theorem parseInt_reads_longest_front_marked :
    Builtin.parseInt.call 0 [.text "\u2003-0X00g"] = .ok (.number (.zero true)) := by
  obtain ⟨x, called, reads, -⟩ := parseInt_reads_longest_front 0 [.text "\u2003-0X00g"]
  have radix : (argument [.text "\u2003-0X00g"] 1).toInt32.toInt = 0 := by decide +kernel
  have run : DigitRun 16 ['0', '0'] ['g'] :=
    ⟨by simp, by simp [digitValue], by rintro c ⟨⟩; decide⟩
  have front : IntegerFront 0 "\u2003-0X00g".toList true 16 ['0', '0'] :=
    @IntegerFront.intro 0 ['\u2003'] ['-'] ['0', 'X'] ['0', '0'] ['g'] 16
      (List.forall_mem_singleton.mpr (by decide)) (.inr (.inr rfl))
      (.marked (.inr rfl) (.inl rfl)) run
  have value : placeValue 16 ['0', '0'] = 0 := by decide
  rw [radix] at reads
  rw [called, reads true 16 ['0', '0'] (.inl rfl) front (by rw [value]; decide)]
  simp only [value, Nat.zero_mul]
  rfl

end ExprTree
