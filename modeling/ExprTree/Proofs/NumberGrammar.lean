import ExprTree.Proofs.DecimalLiterals
import ExprTree.Proofs.DecimalRounding
import ExprTree.Proofs.RadixLiterals

/-!
Which texts are numbers. Between white space, conversion takes nothing, an infinity, an integer
literal with a base mark or a decimal literal, and everything else is NaN; the reader of a number at
the front of a text takes the longest infinity or decimal literal there.
-/
namespace ExprTree

open Double Numeral

/-- White space: tab, line and page breaks, the byte order mark and the space separators. -/
def whiteSpace : List Char :=
  ['\t', '\n', '\x0b', '\x0c', '\r', ' ', '\u00a0', '\u1680', '\u2000', '\u2001', '\u2002', '\u2003',
    '\u2004', '\u2005', '\u2006', '\u2007', '\u2008', '\u2009', '\u200a', '\u2028', '\u2029', '\u202f',
    '\u205f', '\u3000', '\ufeff']

theorem isSpace_iff {c : Char} : Text.isSpace c = true ↔ c ∈ whiteSpace := by
  have codes : c ∈ whiteSpace ↔ c.toNat ∈ whiteSpace.map Char.toNat :=
    (List.mem_map_of_injective fun _ _ same => Char.ext (UInt32.toNat_inj.mp same)).symm
  have list : whiteSpace.map Char.toNat = [0x09, 0x0a, 0x0b, 0x0c, 0x0d, 0x20, 0xa0, 0x1680, 0x2000,
      0x2001, 0x2002, 0x2003, 0x2004, 0x2005, 0x2006, 0x2007, 0x2008, 0x2009, 0x200a, 0x2028, 0x2029,
      0x202f, 0x205f, 0x3000, 0xfeff] := rfl
  have breaks : ∀ n : Nat, 0x09 ≤ n ∧ n ≤ 0x0d ↔
      n = 0x09 ∨ n = 0x0a ∨ n = 0x0b ∨ n = 0x0c ∨ n = 0x0d := by omega
  have quads : ∀ n : Nat, 0x2000 ≤ n ∧ n ≤ 0x200a ↔ n = 0x2000 ∨ n = 0x2001 ∨ n = 0x2002 ∨
      n = 0x2003 ∨ n = 0x2004 ∨ n = 0x2005 ∨ n = 0x2006 ∨ n = 0x2007 ∨ n = 0x2008 ∨ n = 0x2009 ∨
      n = 0x200a := by omega
  rw [codes, list]
  simp only [Text.isSpace, List.mem_cons, List.not_mem_nil, or_false, Bool.or_eq_true,
    Bool.and_eq_true, decide_eq_true_eq, beq_iff_eq, breaks, quads, or_assoc]

/-- A text less the white space at its ends. -/
structure Trimmed (text trimmed : List Char) : Prop where
  around : ∃ before after, (∀ c ∈ before, c ∈ whiteSpace) ∧ (∀ c ∈ after, c ∈ whiteSpace) ∧
    text = before ++ trimmed ++ after
  front : ∀ c, trimmed.head? = some c → c ∉ whiteSpace
  back : ∀ c, trimmed.getLast? = some c → c ∉ whiteSpace

theorem trimmed_trimChars (text : List Char) : Trimmed text (Text.trimChars Text.isSpace text) := by
  have taken : ∀ chars : List Char, ∀ c ∈ chars.takeWhile Text.isSpace, c ∈ whiteSpace := by
    intro chars c member
    exact isSpace_iff.mp (List.all_eq_true.mp List.all_takeWhile c member)
  have first : ∀ (chars : List Char) (c : Char), (chars.dropWhile Text.isSpace).head? = some c →
      c ∉ whiteSpace := by
    intro chars c front
    have off := List.head?_dropWhile_not Text.isSpace chars
    rw [front] at off
    rw [← isSpace_iff]
    simpa using off
  have split : text.dropWhile Text.isSpace = Text.trimChars Text.isSpace text ++
      ((text.dropWhile Text.isSpace).reverse.takeWhile Text.isSpace).reverse := by
    unfold Text.trimChars
    rw [← List.reverse_append, List.takeWhile_append_dropWhile, List.reverse_reverse]
  refine ⟨⟨text.takeWhile Text.isSpace,
    ((text.dropWhile Text.isSpace).reverse.takeWhile Text.isSpace).reverse, taken text, ?_, ?_⟩, ?_, ?_⟩
  · intro c member
    exact taken _ c (List.mem_reverse.mp member)
  · rw [List.append_assoc, ← split, List.takeWhile_append_dropWhile]
  · intro c front
    refine first text c ?_
    rw [split, List.head?_append, front]
    rfl
  · intro c back
    refine first (text.dropWhile Text.isSpace).reverse c ?_
    rwa [Text.trimChars, List.getLast?_reverse] at back

theorem Trimmed.eq {text trimmed : List Char} (ends : Trimmed text trimmed) :
    trimmed = Text.trimChars Text.isSpace text := by
  have blank : ∀ {c : Char}, c ∈ whiteSpace → Text.isSpace c = true := isSpace_iff.mpr
  have other : ∀ {c : Char}, c ∉ whiteSpace → Text.isSpace c = false := fun off =>
    Bool.eq_false_iff.mpr (isSpace_iff.not.mpr off)
  obtain ⟨before, after, front, back, rfl⟩ := ends.around
  rw [Text.trimChars_append (fun c member => blank (front c member))
    (fun c member => blank (back c member))]
  exact (Text.trimChars_eq_of_ends (fun c first => other (ends.front c first))
    fun c last => other (ends.back c last)).symm

/-- Each text has one form without white space at its ends. -/
theorem trimmed_iff {text trimmed : List Char} :
    Trimmed text trimmed ↔ trimmed = Text.trimChars Text.isSpace text := by
  refine ⟨Trimmed.eq, ?_⟩
  rintro rfl
  exact trimmed_trimChars text

namespace Numeral

section Decimal

variable {text : List Char}

theorem IsMantissa.isLiteralChar (digits : IsMantissa text) : ∀ c ∈ text, IsLiteralChar c := by
  cases digits with
  | plain all some => exact fun c member => .inl (all c member)
  | pointed all behind some =>
    intro c member
    rcases List.mem_append.mp member with digit | later
    · exact .inl (all c digit)
    · rcases List.mem_cons.mp later with rfl | digit
      · decide
      · exact .inl (behind c digit)

theorem IsDecimal.isLiteralChar (decimal : IsDecimal text) : ∀ c ∈ text, IsLiteralChar c := by
  obtain ⟨signed, digits, powered⟩ := decimal
  intro c member
  rcases List.mem_append.mp member with first | later
  · have mark : c = '+' ∨ c = '-' := by
      rcases signed with rfl | rfl | rfl <;> simp_all
    rcases mark with rfl | rfl <;> decide
  · rcases List.mem_append.mp later with second | third
    · exact digits.isLiteralChar c second
    · exact powered.isLiteralChar c third

private theorem IsDecimal.ne_nil (decimal : IsDecimal text) : text ≠ [] := by
  obtain ⟨signed, digits, powered⟩ := decimal
  obtain ⟨c, rest, rfl, -⟩ := digits.eq_cons
  simp

private theorem toDouble_ne_nan (l : Literal) : l.toDouble ≠ .nan :=
  ofDecimal_ne_nan l.negative _

/-- Exactly the decimal literals have a number. -/
theorem decimalNumber_ne_nan_iff : decimalNumber text ≠ .nan ↔ IsDecimal text := by
  unfold decimalNumber decimal?
  constructor
  · intro number
    split at number
    · rename_i read scanned
      obtain ⟨literal, same, decimal, -⟩ := exists_decimal_of_scan scanned
      rw [List.append_nil] at same
      rwa [same]
    · exact absurd rfl number
  · intro decimal
    obtain ⟨read, rest, scanned, short⟩ := decimal.scan_append []
    rw [List.append_nil] at scanned
    obtain rfl := List.eq_nil_of_length_eq_zero (Nat.le_zero.mp short)
    rw [scanned]
    exact toDouble_ne_nan read

end Decimal

/-- An infinity with an optional sign. -/
def IsInfinity (text : List Char) : Prop :=
  ∃ sign, IsSign sign ∧ text = sign ++ "Infinity".toList

/-- An integer literal: a zero, a base mark and digits of the base. -/
def IsRadixLiteral (text : List Char) : Prop :=
  ∃ mark base digits, (mark, base) ∈ radixMarks ∧ digits ≠ [] ∧
    (∀ c ∈ digits, digitValue c < base) ∧ text = '0' :: mark :: digits

end Numeral

section Conversion

private theorem radixNumber_ne_nan_iff {mark : Char} {base : Nat} {digits : List Char}
    (marked : (mark, base) ∈ radixMarks) :
    radixNumber base digits ≠ .nan ↔ digits ≠ [] ∧ ∀ c ∈ digits, digitValue c < base := by
  constructor
  · intro number
    unfold radixNumber at number
    split at number
    · exact absurd rfl number
    · rename_i kept
      simpa using kept
  · rintro ⟨some, all⟩
    obtain ⟨k, rfl, -, few⟩ := exists_bits marked
    rw [radixNumber_eq_ofNat (by omega) some all, ofNat, ofUnits]
    exact ofRatio_ne_nan false _ _

private theorem isInfinity_iff {text : List Char} :
    IsInfinity text ↔ (text = "Infinity".toList ∨ text = "+Infinity".toList) ∨
      text = "-Infinity".toList := by
  constructor
  · rintro ⟨sign, rfl | rfl | rfl, rfl⟩
    · exact .inl (.inl rfl)
    · exact .inl (.inr rfl)
    · exact .inr rfl
  · rintro ((rfl | rfl) | rfl)
    · exact ⟨[], .inl rfl, rfl⟩
    · exact ⟨['+'], .inr (.inl rfl), rfl⟩
    · exact ⟨['-'], .inr (.inr rfl), rfl⟩

/-- What starts with a base mark is an integer literal or no number. -/
theorem marked_ne_nan_iff {mark c : Char} {base : Nat} {rest : List Char}
    (marked : radixOfMark? mark = some base) :
    radixNumber base (c :: rest) ≠ .nan ↔
      IsRadixLiteral ('0' :: mark :: c :: rest) ∨ IsDecimal ('0' :: mark :: c :: rest) := by
  have known := radixOfMark?_eq_some_iff.mp marked
  rw [radixNumber_ne_nan_iff known]
  constructor
  · rintro ⟨some, all⟩
    exact .inl ⟨mark, base, c :: rest, known, some, all, rfl⟩
  · rintro (⟨_, other, digits, named, some, all, same⟩ | decimal)
    · cases same
      rw [radixOfMark?_eq_some_iff.mpr named] at marked
      cases marked
      exact ⟨some, all⟩
    · rw [(decimal.isLiteralChar mark (by simp)).radixOfMark?_eq] at marked
      cases marked

/-- What does not is a decimal literal or no number. -/
theorem unmarked_ne_nan_iff {body : List Char}
    (unmarked : ∀ mark c rest, body = '0' :: mark :: c :: rest → radixOfMark? mark = none) :
    decimalNumber body ≠ .nan ↔ IsRadixLiteral body ∨ IsDecimal body := by
  rw [decimalNumber_ne_nan_iff]
  refine ⟨.inr, ?_⟩
  rintro (⟨mark, base, digits, named, some, all, same⟩ | decimal)
  · obtain ⟨c, rest, rfl⟩ := List.exists_cons_of_ne_nil some
    have none := unmarked mark c rest same
    rw [radixOfMark?_eq_some_iff.mpr named] at none
    cases none
  · exact decimal

private theorem textNumber_ne_nan_iff (text : String) :
    textNumber text ≠ .nan ↔
      Text.trimChars Text.isSpace text.toList = [] ∨
        IsInfinity (Text.trimChars Text.isSpace text.toList) ∨
        IsRadixLiteral (Text.trimChars Text.isSpace text.toList) ∨
        IsDecimal (Text.trimChars Text.isSpace text.toList) := by
  unfold textNumber
  generalize Text.trimChars Text.isSpace text.toList = body
  dsimp only
  rw [isInfinity_iff]
  by_cases empty : body = []
  · rw [if_pos (by simpa using empty)]
    exact iff_of_true (by simp [Double.zero]) (.inl empty)
  · rw [if_neg (by simpa using empty)]
    by_cases positive : body = "Infinity".toList ∨ body = "+Infinity".toList
    · rw [if_pos positive]
      exact iff_of_true (by simp) (.inr (.inl (.inl positive)))
    · rw [if_neg positive]
      by_cases negative : body = "-Infinity".toList
      · rw [if_pos negative]
        exact iff_of_true (by simp) (.inr (.inl (.inr negative)))
      · rw [if_neg negative]
        simp only [empty, positive, negative, false_or]
        split
        · rename_i mark c rest
          cases marked : radixOfMark? mark with
          | some base => exact marked_ne_nan_iff marked
          | none =>
            refine unmarked_ne_nan_iff fun mark' c' rest' same => ?_
            cases same
            exact marked
        · rename_i short
          exact unmarked_ne_nan_iff fun mark c rest same => absurd same (short mark c rest)

end Conversion

/-- An infinity or a decimal literal. -/
def IsFloat (text : List Char) : Prop :=
  IsInfinity text ∨ IsDecimal text

/-- The longest infinity or decimal literal at the front of a text. -/
structure LongestFloat (text front : List Char) : Prop where
  isPrefix : front <+: text
  float : IsFloat front
  longest : ∀ other, other <+: text → IsFloat other → other.length ≤ front.length

section Front

variable {text body front : List Char}

private theorem IsFloat.trimChars_eq (float : IsFloat text) :
    Text.trimChars Text.isSpace text = text := by
  rcases float with infinite | decimal
  · rcases isInfinity_iff.mp infinite with (rfl | rfl) | rfl <;> rfl
  · exact Text.trimChars_eq_self fun c member => (decimal.isLiteralChar c member).isSpace_eq

private theorem textNumber_congr {first second : String}
    (same : Text.trimChars Text.isSpace first.toList = Text.trimChars Text.isSpace second.toList) :
    textNumber first = textNumber second := by
  unfold textNumber
  rw [same]

private theorem parseFloatPrefix_congr {first second : String}
    (same : Text.trimChars Text.isSpace first.toList = Text.trimChars Text.isSpace second.toList) :
    Builtin.parseFloatPrefix first = Builtin.parseFloatPrefix second := by
  unfold Builtin.parseFloatPrefix
  rw [same]

private theorem textNumber_infinity {sign : List Char} (signed : IsSign sign) :
    textNumber (String.ofList (sign ++ "Infinity".toList)) = .infinite (sign == ['-']) := by
  rcases signed with rfl | rfl | rfl <;> decide +kernel

private theorem textNumber_of_scan {read : Literal} (decimal : IsDecimal text)
    (scanned : scan text = some (read, [])) : textNumber (String.ofList text) = read.toDouble := by
  rw [textNumber_eq_decimalNumber, String.toList_ofList, decimalNumber, decimal?, scanned]
  · rfl
  · rw [String.toList_ofList]
    exact decimal.ne_nil
  · rw [String.toList_ofList]
    exact decimal.isLiteralChar

/-- Behind the sign of a text with an infinity in front stands the name. -/
theorem Numeral.IsInfinity.splitSign_append (infinite : IsInfinity front) (tail : List Char) :
    (splitSign (front ++ tail)).2 = "Infinity".toList ++ tail := by
  rcases isInfinity_iff.mp infinite with (rfl | rfl) | rfl <;> rfl

/-- Behind the sign of a text with a decimal literal in front stands no name. -/
theorem Numeral.IsDecimal.not_named (decimal : IsDecimal front) (tail : List Char) :
    "Infinity".toList.isPrefixOf (splitSign (front ++ tail)).2 = false := by
  obtain @⟨sign, mantissa, power, signed, digits, powered⟩ := decimal
  have joined : sign ++ (mantissa ++ power) ++ tail = sign ++ (mantissa ++ (power ++ tail)) := by
    simp only [List.append_assoc]
  rw [joined, splitSign_append signed (digits.unsigned _)]
  obtain ⟨c, rest, rfl, first⟩ := digits.eq_cons
  have other : 'I' ≠ c := by
    rintro rfl
    revert first
    decide
  simp [List.isPrefixOf, other]

/-- An infinity in front is the longest there is. -/
theorem longestFloat_infinity {sign tail : List Char} (signed : IsSign sign)
    (split : (splitSign body).2 = "Infinity".toList ++ tail) (same : body = sign ++ (splitSign body).2) :
    LongestFloat body (sign ++ "Infinity".toList) := by
  rw [split, ← List.append_assoc] at same
  refine ⟨⟨tail, same.symm⟩, .inl ⟨sign, signed, rfl⟩, ?_⟩
  rintro other ⟨rest, rfl⟩ (infinite | decimal)
  · rw [infinite.splitSign_append, List.append_cancel_left_eq] at split
    have lengths := congrArg List.length same
    rw [split, List.length_append, List.length_append] at lengths
    omega
  · have named := decimal.not_named rest
    rw [split] at named
    simp [List.isPrefixOf] at named

/-- The decimal literal that the scan takes is the longest there is, unless an infinity is there. -/
theorem longestFloat_scan {read : Literal} {rest : List Char}
    (unnamed : "Infinity".toList.isPrefixOf (splitSign body).2 = false)
    (scanned : scan body = some (read, rest)) (same : body = front ++ rest)
    (decimal : IsDecimal front) : LongestFloat body front := by
  refine ⟨⟨rest, same.symm⟩, .inr decimal, ?_⟩
  rintro other ⟨tail, rfl⟩ (infinite | longer)
  · rw [infinite.splitSign_append] at unnamed
    simp [List.isPrefixOf] at unnamed
  · obtain ⟨read', rest', again, short⟩ := longer.scan_append tail
    rw [scanned] at again
    cases again
    have lengths := congrArg List.length same
    rw [List.length_append, List.length_append] at lengths
    omega

private theorem not_isFloat_of_scan
    (unnamed : "Infinity".toList.isPrefixOf (splitSign body).2 = false)
    (none : scan body = none) : ∀ other, other <+: body → ¬ IsFloat other := by
  rintro other ⟨tail, rfl⟩ (infinite | decimal)
  · rw [infinite.splitSign_append] at unnamed
    simp [List.isPrefixOf] at unnamed
  · obtain ⟨read, rest, scanned, -⟩ := decimal.scan_append tail
    rw [none] at scanned
    cases scanned

end Front

/-- The reader of a number at the front converts the longest one, and gives NaN if there is none. -/
theorem parseFloatPrefix_spec (text : String) :
    (∃ front, LongestFloat (Text.trimChars Text.isSpace text.toList) front ∧
        Builtin.parseFloatPrefix text = textNumber (String.ofList front)) ∨
      (∀ other, other <+: Text.trimChars Text.isSpace text.toList → ¬ IsFloat other) ∧
        Builtin.parseFloatPrefix text = .nan := by
  unfold Builtin.parseFloatPrefix
  generalize Text.trimChars Text.isSpace text.toList = body
  obtain ⟨sign, signed, same, minus⟩ := splitSign_spec body
  dsimp only
  rw [minus]
  cases named : "Infinity".toList.isPrefixOf (splitSign body).2 with
  | true =>
    obtain ⟨tail, split⟩ := List.isPrefixOf_iff_prefix.mp named
    refine .inl ⟨_, longestFloat_infinity signed split.symm same, ?_⟩
    rw [if_pos rfl, textNumber_infinity signed]
  | false =>
    rw [if_neg Bool.false_ne_true]
    cases scanned : scan body with
    | some result =>
      obtain ⟨read, rest⟩ := result
      obtain ⟨front, split, decimal, alone⟩ := exists_decimal_of_scan scanned
      refine .inl ⟨front, longestFloat_scan named scanned split decimal, ?_⟩
      rw [textNumber_of_scan decimal alone]
    | none => exact .inr ⟨not_isFloat_of_scan named scanned, rfl⟩

/-- Where the whole text is an infinity or a decimal literal, both readers agree. -/
theorem parseFloatPrefix_eq_textNumber {text : String}
    (float : IsFloat (Text.trimChars Text.isSpace text.toList)) :
    Builtin.parseFloatPrefix text = textNumber text := by
  rcases parseFloatPrefix_spec text with ⟨front, longest, parsed⟩ | ⟨none, -⟩
  · have whole := longest.isPrefix.eq_of_length_le (longest.longest _ (List.prefix_refl _) float)
    rw [parsed]
    refine textNumber_congr ?_
    rw [String.toList_ofList, whole, float.trimChars_eq]
  · exact absurd float (none _ (List.prefix_refl _))

private theorem parseFloat_call (origin : Nat) (s : String) :
    Builtin.parseFloat.call origin [.text s] = .ok (.number (Builtin.parseFloatPrefix s)) :=
  rfl

/-- How texts read as numbers. Without the white space at its ends, a text converts to a number
exactly if it is empty, an infinity, an integer literal with a base mark or a decimal literal. The
reader of a number at the front converts the longest infinity or decimal literal there, so that it
agrees with the conversion of all but empty texts and integer literals; and white space at the ends
is nothing to either. -/
theorem text_number_grammar (s : String) (origin : Nat) :
    ∃ t, (∀ trimmed, Trimmed s.toList trimmed ↔ trimmed = t) ∧
      ((Value.text s).toNumber ≠ .nan ↔
        t = [] ∨ IsInfinity t ∨ IsRadixLiteral t ∨ IsDecimal t) ∧
      (∃ x, Builtin.parseFloat.call origin [.text s] = .ok (.number x) ∧
        ((∃ front, LongestFloat t front ∧ x = (Value.text (String.ofList front)).toNumber) ∨
          (∀ front, front <+: t → ¬ IsFloat front) ∧ x = .nan) ∧
        ((Value.text s).toNumber ≠ .nan → t ≠ [] → ¬ IsRadixLiteral t →
          x = (Value.text s).toNumber)) ∧
      ∀ before after, (∀ c ∈ before, c ∈ whiteSpace) → (∀ c ∈ after, c ∈ whiteSpace) →
        (Value.text (String.ofList (before ++ s.toList ++ after))).toNumber =
            (Value.text s).toNumber ∧
          Builtin.parseFloat.call origin [.text (String.ofList (before ++ s.toList ++ after))] =
            Builtin.parseFloat.call origin [.text s] := by
  refine ⟨_, fun trimmed => trimmed_iff, textNumber_ne_nan_iff s,
    ⟨_, parseFloat_call origin s, ?_, ?_⟩, ?_⟩
  · exact parseFloatPrefix_spec s
  · intro number some unmarked
    refine parseFloatPrefix_eq_textNumber ?_
    rcases (textNumber_ne_nan_iff s).mp number with empty | infinite | radix | decimal
    · exact absurd empty some
    · exact .inl infinite
    · exact absurd radix unmarked
    · exact .inr decimal
  · intro before after front back
    have same : Text.trimChars Text.isSpace (String.ofList (before ++ s.toList ++ after)).toList =
        Text.trimChars Text.isSpace s.toList := by
      rw [String.toList_ofList]
      exact Text.trimChars_append (fun c member => isSpace_iff.mpr (front c member))
        (fun c member => isSpace_iff.mpr (back c member)) s.toList
    refine ⟨textNumber_congr same, ?_⟩
    rw [parseFloat_call, parseFloat_call, parseFloatPrefix_congr same]

theorem text_number_grammar_padded :
    (Value.text "-.5e1").toNumber ≠ .nan ∧
      (Value.text "\ufeff-.5e1\u3000").toNumber = (Value.text "-.5e1").toNumber ∧
      Builtin.parseFloat.call 0 [.text "\ufeff-.5e1\u3000"] =
        .ok (.number (Value.text "-.5e1").toNumber) := by
  obtain ⟨t, only, numeric, ⟨x, parsed, -, agree⟩, padded⟩ := text_number_grammar "-.5e1" 0
  have decimal : IsDecimal "-.5e1".toList :=
    @IsDecimal.intro ['-'] ['.', '5'] ['e', '1'] (.inr (.inr rfl))
      (@IsMantissa.pointed [] ['5'] (by simp [AllDigits]) (by simp [AllDigits]) (by simp))
      (@Json.IsPower.digits 'e' [] ['1'] (.inl rfl) (.inl rfl) (by simp [AllDigits]) (by simp))
  have ends : Trimmed "-.5e1".toList "-.5e1".toList := by
    refine ⟨⟨[], [], by simp, by simp, rfl⟩, ?_, ?_⟩ <;> rintro c ⟨⟩ <;> decide
  obtain rfl := (only _).mp ends
  have number := numeric.mpr (.inr (.inr (.inr decimal)))
  have unmarked : ¬ IsRadixLiteral "-.5e1".toList := by
    rintro ⟨mark, base, digits, -, -, -, same⟩
    cases same
  obtain ⟨converted, called⟩ := padded ['\ufeff'] ['\u3000']
    (List.forall_mem_singleton.mpr (by decide)) (List.forall_mem_singleton.mpr (by decide))
  refine ⟨number, converted, ?_⟩
  rw [← agree number (by decide) unmarked, ← parsed]
  exact called

end ExprTree
