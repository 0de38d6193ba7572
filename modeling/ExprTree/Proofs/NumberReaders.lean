import ExprTree.Proofs.RoundTrip

/-!
What reads numbers. The text of a number goes through three readers with rules of their own: the
conversion of texts, which looks for blanks, infinities and base marks first, the reader of the
longest literal at the front of a text, and documents. Main statement: all of them give the number
back, but for the sign of zero.
-/
namespace ExprTree

namespace Numeral

theorem toNat_of_isDigit {c : Char} (digit : c.isDigit = true) :
    48 ≤ c.toNat ∧ c.toNat ≤ 57 := by
  rw [Char.isDigit, Bool.and_eq_true, decide_eq_true_eq, decide_eq_true_eq] at digit
  exact digit

/-- All characters of literals but the mark of an exponent stand together. -/
theorem IsLiteralChar.toNat {c : Char} (literal : IsLiteralChar c) :
    43 ≤ c.toNat ∧ c.toNat ≤ 57 ∨ c = 'e' ∨ c = 'E' := by
  rcases literal with digit | mark
  · have bounds := toNat_of_isDigit digit
    omega
  · revert mark
    simp only [List.mem_cons, List.not_mem_nil, or_false]
    rintro (rfl | rfl | rfl | rfl | rfl) <;> decide

theorem IsLiteralChar.isSpace_eq {c : Char} (literal : IsLiteralChar c) :
    Text.isSpace c = false := by
  rcases literal.toNat with bounds | rfl | rfl
  · simp only [Text.isSpace, Bool.or_eq_false_iff, Bool.and_eq_false_iff, decide_eq_false_iff_not,
      beq_eq_false_iff_ne]
    omega
  · rfl
  · rfl

theorem IsLiteralChar.radixOfMark?_eq {c : Char} (literal : IsLiteralChar c) :
    radixOfMark? c = none := by
  rcases literal.toNat with bounds | rfl | rfl
  · have other : ∀ mark : Char, 57 < mark.toNat → c ≠ mark := by
      rintro mark above rfl
      omega
    simp [radixOfMark?, other]
  · rfl
  · rfl

end Numeral

open Numeral

theorem Text.trimChars_eq_of_ends {test : Char → Bool} {text : List Char}
    (front : ∀ c, text.head? = some c → test c = false)
    (back : ∀ c, text.getLast? = some c → test c = false) : trimChars test text = text := by
  have kept : ∀ {chars : List Char}, (∀ c, chars.head? = some c → test c = false) →
      chars.dropWhile test = chars := by
    intro chars off
    cases chars with
    | nil => rfl
    | cons c rest => exact List.dropWhile_cons_of_neg (by simp [off c rfl])
  rw [trimChars, kept front, kept, List.reverse_reverse]
  intro c last
  rw [List.head?_reverse] at last
  exact back c last

theorem Text.trimChars_eq_self {test : Char → Bool} {text : List Char}
    (none : ∀ c ∈ text, test c = false) : trimChars test text = text :=
  trimChars_eq_of_ends (fun c front => none c (List.mem_of_head? front))
    fun c back => none c (List.mem_of_getLast? back)

/-- What is trimmed may be put in front of a text and behind it. -/
theorem Text.trimChars_append {test : Char → Bool} {before after : List Char}
    (front : ∀ c ∈ before, test c = true) (back : ∀ c ∈ after, test c = true) (text : List Char) :
    trimChars test (before ++ text ++ after) = trimChars test text := by
  unfold trimChars
  rw [List.append_assoc, List.dropWhile_append_of_pos front, List.dropWhile_append]
  by_cases blank : text.dropWhile test = []
  · have none : after.dropWhile test = [] := by
      rw [← List.append_nil after, List.dropWhile_append_of_pos back]
      rfl
    rw [blank, none]
    rfl
  · rw [if_neg (by simpa using blank), List.reverse_append,
      List.dropWhile_append_of_pos fun c member => back c (List.mem_reverse.mp member)]

/-- A text of such characters only is read as a decimal literal, or as none at all. -/
theorem textNumber_eq_decimalNumber {text : String} (some : text.toList ≠ [])
    (literal : ∀ c ∈ text.toList, IsLiteralChar c) :
    textNumber text = decimalNumber text.toList := by
  have trimmed : Text.trimChars Text.isSpace text.toList = text.toList :=
    Text.trimChars_eq_self fun c member => (literal c member).isSpace_eq
  have nameless : ∀ name : List Char, 'I' ∈ name → text.toList ≠ name := by
    rintro name member same
    rw [← same] at member
    exact absurd (literal 'I' member) (by decide)
  unfold textNumber
  simp only [trimmed]
  rw [if_neg (by simpa using some), if_neg, if_neg (nameless _ (by decide))]
  · split
    · rename_i mark c rest front
      rw [(literal mark (by simp [front])).radixOfMark?_eq]
    · rfl
  · rintro (infinite | positive)
    · exact nameless _ (by decide) infinite
    · exact nameless _ (by decide) positive

namespace Double

/-- Converting the text of a number gives the number. -/
theorem textNumber_toText (x : Double) : textNumber x.toText = x.unsignedZero := by
  by_cases finite : x.isFinite = true
  · obtain ⟨s, well, text, _⟩ := exists_spelling finite
    obtain ⟨c, rest, front, _⟩ := toText_front finite
    have literal := well.isLiteralChar
    rw [← text] at literal
    rw [textNumber_eq_decimalNumber (by simp [front]) literal, decimalNumber,
      decimal?_toText finite]
    rfl
  · cases x with
    | nan => decide +kernel
    | infinite negative => cases negative <;> decide +kernel
    | finite negative units fits => exact absurd rfl finite

/-- The longest literal at the front of the text of a number is the whole text. -/
theorem parseFloatPrefix_toText (x : Double) :
    Builtin.parseFloatPrefix x.toText = x.unsignedZero := by
  by_cases finite : x.isFinite = true
  · obtain ⟨s, well, text, value⟩ := exists_spelling finite
    have scanned := Spelling.scan_chars well Spelling.ends_nil
    have signed := Spelling.splitSign_chars well []
    rw [List.append_nil] at scanned
    rw [List.append_nil, List.append_nil] at signed
    have trimmed : Text.trimChars Text.isSpace x.toText.toList = s.chars := by
      rw [text]
      exact Text.trimChars_eq_self fun c member => (well.isLiteralChar c member).isSpace_eq
    have nameless : "Infinity".toList.isPrefixOf s.body = false := by
      obtain ⟨c, rest, front, digit⟩ := well.body_eq
      have other : 'I' ≠ c := by
        rintro rfl
        cases digit
      rw [front]
      simp [List.isPrefixOf, other]
    unfold Builtin.parseFloatPrefix
    simp only [trimmed, signed, nameless, scanned, value, Bool.false_eq_true, if_false]
  · cases x with
    | nan => decide +kernel
    | infinite negative => cases negative <;> decide +kernel
    | finite negative units fits => exact absurd rfl finite

end Double

/-- The text of a number is read as that number again, with zero for either zero: by conversion, by
`parseFloat`, and for a finite number also by decoding what JSON writes for it. -/
theorem number_text_reads_back (x : Double) :
    (Value.text (Value.number x).toText).toNumber = x.unsignedZero ∧
      (∀ origin, Builtin.parseFloat.call origin [.text (Value.number x).toText] =
        .ok (.number x.unsignedZero)) ∧
      (x.isFinite = true →
        decodeDocument (Utf8.encode (Value.number x).jsonChars) =
          .ok (.number x.unsignedZero)) := by
  refine ⟨x.textNumber_toText, ?_, ?_⟩
  · intro origin
    rw [Builtin.call]
    simp only [argument, Value.toText, List.getElem?_cons_zero, Option.getD_some,
      x.parseFloatPrefix_toText]
  · intro finite
    have decoded := (Value.number x).decodeDocument_written (Nat.zero_le _) trivial
    rwa [Value.norm, if_pos finite] at decoded

/-- The negative number nearest to zero. -/
def leastNegative : Double :=
  .finite true 1 (by decide +kernel)

theorem number_text_reads_back_least :
    leastNegative.isFinite = true ∧ leastNegative.toText = "-5e-324" ∧
      (Value.text "-5e-324").toNumber = leastNegative ∧
      Builtin.parseFloat.call 0 [.text "-5e-324"] = .ok (.number leastNegative) ∧
      decodeDocument (Utf8.encode "-5e-324".toList) = .ok (.number leastNegative) := by
  have finite : leastNegative.isFinite = true := rfl
  have text : leastNegative.toText = "-5e-324" := by decide +kernel
  have written : (Value.number leastNegative).jsonChars = "-5e-324".toList := by
    rw [Value.jsonChars, if_pos finite, text]
  obtain ⟨converted, parsed, decoded⟩ := number_text_reads_back leastNegative
  rw [Value.toText, text] at converted parsed
  rw [written] at decoded
  exact ⟨finite, text, converted, parsed 0, decoded finite⟩

end ExprTree
