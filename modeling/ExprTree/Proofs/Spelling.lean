import ExprTree.Json.Token
import ExprTree.Numeral

/-!
Spellings of decimal literals: an optional minus, digits, an optional fraction and an optional
signed exponent. Both the numeral reader and the reader of JSON tokens take such a spelling off the
front of a text whole, as long as nothing follows that could prolong it.
-/
namespace ExprTree.Numeral

/-- Whether all characters are decimal digits. -/
def AllDigits (digits : List Char) : Prop :=
  ∀ c ∈ digits, c.isDigit = true

/-- A text that does not start with a digit. -/
def StartsOff (text : List Char) : Prop :=
  ∀ c, text.head? = some c → c.isDigit = false

theorem takeWhile_isDigit {digits rest : List Char} (all : AllDigits digits)
    (off : StartsOff rest) : (digits ++ rest).takeWhile Char.isDigit = digits := by
  rw [List.takeWhile_append_of_pos all]
  cases rest with
  | nil => simp
  | cons c text => simp [off c rfl]

theorem dropWhile_isDigit {digits rest : List Char} (all : AllDigits digits)
    (off : StartsOff rest) : (digits ++ rest).dropWhile Char.isDigit = rest := by
  rw [List.dropWhile_append_of_pos all]
  cases rest with
  | nil => rfl
  | cons c text => rw [List.dropWhile_cons_of_neg (by simp [off c rfl])]

theorem splitSign_of_isDigit {c : Char} (digit : c.isDigit = true) (rest : List Char) :
    splitSign (c :: rest) = (false, c :: rest) := by
  unfold splitSign
  split
  · rename_i front
    cases front
    cases digit
  · rename_i front
    cases front
    cases digit
  · rfl

/-- The characters of decimal literals: digits, the point, the mark of an exponent and signs. -/
def IsLiteralChar (c : Char) : Prop :=
  c.isDigit = true ∨ c ∈ ['.', 'e', 'E', '+', '-']

instance (c : Char) : Decidable (IsLiteralChar c) :=
  inferInstanceAs (Decidable (_ ∨ _))

/-- How a decimal literal is written. An exponent is down when it is negative. -/
structure Spelling where
  negative : Bool
  whole : List Char
  fraction : List Char
  power : Option (Bool × List Char)

namespace Spelling

def fractionChars : List Char → List Char
  | [] => []
  | digits => '.' :: digits

def powerChars : Option (Bool × List Char) → List Char
  | none => []
  | some (down, digits) => 'e' :: (if down then '-' else '+') :: digits

def powerValue : Option (Bool × List Char) → Int
  | none => 0
  | some (true, digits) => -powerOf digits
  | some (false, digits) => powerOf digits

/-- The text without its sign. -/
def body (s : Spelling) : List Char :=
  s.whole ++ (fractionChars s.fraction ++ powerChars s.power)

def chars (s : Spelling) : List Char :=
  if s.negative then '-' :: s.body else s.body

def literal (s : Spelling) : Literal :=
  ⟨s.negative, s.whole.dropWhile (· == '0'), s.fraction, powerValue s.power⟩

/-- Digits where digits belong, and no zero in front of other digits. -/
structure WellSpelled (s : Spelling) : Prop where
  whole : AllDigits s.whole
  leading : s.whole = ['0'] ∨ ∃ c rest, s.whole = c :: rest ∧ c ≠ '0'
  fraction : AllDigits s.fraction
  power : ∀ down digits, s.power = some (down, digits) → AllDigits digits ∧ digits ≠ []

/-- A spelling has no other characters than literals have. -/
theorem WellSpelled.isLiteralChar {s : Spelling} (well : s.WellSpelled) :
    ∀ c ∈ s.chars, IsLiteralChar c := by
  have whole : ∀ c ∈ s.whole, IsLiteralChar c := fun c member => .inl (well.whole c member)
  have fraction : ∀ c ∈ fractionChars s.fraction, IsLiteralChar c := by
    intro c member
    unfold fractionChars at member
    split at member
    · cases member
    · rcases List.mem_cons.mp member with rfl | digit
      · decide
      · exact .inl (well.fraction c digit)
  have power : ∀ c ∈ powerChars s.power, IsLiteralChar c := by
    intro c member
    unfold powerChars at member
    split at member
    · cases member
    · rename_i down digits written
      rcases List.mem_cons.mp member with rfl | later
      · decide
      · rcases List.mem_cons.mp later with rfl | digit
        · cases down <;> decide
        · exact .inl ((well.power down digits written).1 c digit)
  have body : ∀ c ∈ s.body, IsLiteralChar c := by
    intro c member
    rcases List.mem_append.mp member with first | rest
    · exact whole c first
    · rcases List.mem_append.mp rest with second | third
      · exact fraction c second
      · exact power c third
  intro c member
  unfold chars at member
  split at member
  · rcases List.mem_cons.mp member with rfl | later
    · decide
    · exact body c later
  · exact body c member

/-- Nothing that could prolong a literal stands in front. -/
def Ends (rest : List Char) : Prop :=
  ∀ c, rest.head? = some c → c.isDigit = false ∧ c ≠ '.' ∧ c ≠ 'e' ∧ c ≠ 'E'

theorem Ends.startsOff {rest : List Char} (ends : Ends rest) : StartsOff rest :=
  fun c front => (ends c front).1

theorem ends_nil : Ends [] := by
  intro c front
  cases front

variable {s : Spelling} {rest : List Char}

private theorem startsOff_power (power : Option (Bool × List Char)) (ends : Ends rest) :
    StartsOff (powerChars power ++ rest) := by
  cases power with
  | none => exact ends.startsOff
  | some written =>
    rintro c ⟨⟩
    rfl

private theorem plain_power (power : Option (Bool × List Char)) (ends : Ends rest)
    (text : List Char) :
    powerChars power ++ rest ≠ '.' :: text := by
  intro front
  cases power with
  | none =>
    have first : rest.head? = some '.' := congrArg List.head? front
    exact (ends '.' first).2.1 rfl
  | some written => cases front

private theorem startsOff_fraction (fraction : List Char) {after : List Char}
    (off : StartsOff after) :
    StartsOff (fractionChars fraction ++ after) := by
  cases fraction with
  | nil => exact off
  | cons digit digits =>
    rintro c ⟨⟩
    rfl

private theorem WellSpelled.whole_ne_nil (well : s.WellSpelled) : s.whole ≠ [] := by
  rcases well.leading with zero | ⟨c, digits, same, _⟩
  · simp [zero]
  · simp [same]

theorem WellSpelled.body_eq (well : s.WellSpelled) :
    ∃ c text, s.body = c :: text ∧ c.isDigit = true := by
  obtain ⟨c, digits, same⟩ := List.exists_cons_of_ne_nil well.whole_ne_nil
  refine ⟨c, digits ++ (fractionChars s.fraction ++ powerChars s.power), ?_, ?_⟩
  · rw [body, same, List.cons_append]
  · exact well.whole c (by simp [same])

private theorem scanExponent_powerChars (well : s.WellSpelled) (ends : Ends rest) :
    scanExponent (powerChars s.power ++ rest) = (powerValue s.power, rest) := by
  cases written : s.power with
  | none =>
    cases rest with
    | nil => rfl
    | cons c text =>
      obtain ⟨_, _, lower, upper⟩ := ends c rfl
      simp [powerChars, scanExponent, powerValue, lower, upper]
  | some power =>
    obtain ⟨down, digits⟩ := power
    obtain ⟨all, some⟩ := well.power down digits written
    have taken := takeWhile_isDigit all ends.startsOff
    have dropped := dropWhile_isDigit all ends.startsOff
    cases down <;>
      simp [powerChars, scanExponent, splitSign, powerValue, taken, dropped, some]

theorem splitSign_chars (well : s.WellSpelled) (rest : List Char) :
    splitSign (s.chars ++ rest) = (s.negative, s.body ++ rest) := by
  unfold chars
  cases s.negative with
  | true => rfl
  | false =>
    obtain ⟨c, digits, same, digit⟩ := well.body_eq
    simp only [Bool.false_eq_true, if_false, same, List.cons_append]
    exact splitSign_of_isDigit digit _

/-- The numeral reader takes a spelling whole. -/
theorem scan_chars (well : s.WellSpelled) (ends : Ends rest) :
    scan (s.chars ++ rest) = some (s.literal, rest) := by
  have power := scanExponent_powerChars well ends
  have off := startsOff_power s.power ends
  have present := well.whole_ne_nil
  have wholeTaken := takeWhile_isDigit well.whole (startsOff_fraction s.fraction off)
  have wholeDropped := dropWhile_isDigit well.whole (startsOff_fraction s.fraction off)
  unfold scan
  rw [splitSign_chars well]
  simp only [body, List.append_assoc, wholeTaken, wholeDropped]
  cases written : s.fraction with
  | nil =>
    have plain := plain_power s.power ends
    simp only [fractionChars, List.nil_append]
    simp [power, present, literal, written]
  | cons digit digits =>
    have all : AllDigits (digit :: digits) := written ▸ well.fraction
    have taken := takeWhile_isDigit all off
    have dropped := dropWhile_isDigit all off
    simp only [fractionChars, List.cons_append] at taken dropped ⊢
    simp [taken, dropped, power, literal, written]

end Spelling

end ExprTree.Numeral

namespace ExprTree.Json

open Numeral Numeral.Spelling

variable {s : Spelling} {rest : List Char}

private theorem scanDigits_append {digits : List Char} (all : AllDigits digits) (some : digits ≠ [])
    (off : StartsOff rest) : scanDigits (digits ++ rest) = .some (digits, rest) := by
  unfold scanDigits
  simp [takeWhile_isDigit all off, dropWhile_isDigit all off, some]

private theorem scanWhole_whole (well : s.WellSpelled) (off : StartsOff rest) :
    scanWhole (s.whole ++ rest) = some (s.whole, rest) := by
  rcases well.leading with zero | ⟨c, digits, same, other⟩
  · rw [zero]
    rfl
  · have all : AllDigits (c :: digits) := same ▸ well.whole
    rw [same, List.cons_append]
    unfold scanWhole
    split
    · rename_i front
      cases front
      exact absurd rfl other
    · exact scanDigits_append all (by simp) off

private theorem scanFraction_fractionChars (well : s.WellSpelled) (off : StartsOff rest)
    (plain : ∀ text, rest ≠ '.' :: text) :
    scanFraction (fractionChars s.fraction ++ rest) = some (fractionChars s.fraction, rest) := by
  cases written : s.fraction with
  | nil =>
    unfold scanFraction
    split
    · rename_i text front
      exact absurd front (plain text)
    · rfl
  | cons digit digits =>
    have all : AllDigits (digit :: digits) := written ▸ well.fraction
    simp only [fractionChars, List.cons_append, scanFraction]
    rw [← List.cons_append, scanDigits_append all (by simp) off]
    rfl

private theorem scanPower_powerChars (well : s.WellSpelled) (ends : Ends rest) :
    scanPower (powerChars s.power ++ rest) = some (powerChars s.power, rest) := by
  cases written : s.power with
  | none =>
    cases rest with
    | nil => rfl
    | cons c text =>
      obtain ⟨_, _, lower, upper⟩ := ends c rfl
      simp [powerChars, scanPower, lower, upper]
  | some power =>
    obtain ⟨down, digits⟩ := power
    obtain ⟨all, some⟩ := well.power down digits written
    have scanned := scanDigits_append all some ends.startsOff
    cases down <;> simp [powerChars, scanPower, scanned]

/-- The reader of JSON tokens takes a spelling whole. -/
theorem scanNumber_chars (well : s.WellSpelled) (ends : Ends rest) :
    scanNumber (s.chars ++ rest) = some (s.chars, rest) := by
  have off := startsOff_power s.power ends
  have whole := scanWhole_whole well (startsOff_fraction s.fraction off)
  have fraction := scanFraction_fractionChars well off (plain_power s.power ends)
  have power := scanPower_powerChars well ends
  unfold scanNumber chars
  cases s.negative with
  | true => simp [body, whole, fraction, power]
  | false =>
    have unsigned : ∀ text, s.body ++ rest = '-' :: text → False := by
      intro text front
      obtain ⟨c, digits, same, digit⟩ := well.body_eq
      rw [same] at front
      cases front
      cases digit
    have start : scanWhole (s.body ++ rest) =
        some (s.whole, fractionChars s.fraction ++ (powerChars s.power ++ rest)) := by
      rw [body, List.append_assoc, List.append_assoc]
      exact whole
    simp only [Bool.false_eq_true, if_false, start]
    simp [fraction, power, body]

end ExprTree.Json
