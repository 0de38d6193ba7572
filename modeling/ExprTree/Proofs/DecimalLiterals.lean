import ExprTree.Proofs.JsonNumber
import Mathlib.Data.List.TakeWhile

/-!
The grammar of decimal literals and the scan that takes one off the front of a text. What has been
read is judged with the characters behind it present, so that the parts of a literal cannot be cut
short. Main statements: the scan takes a literal, reads the same from it when nothing follows, and
takes at least as much as any other literal at the front.
-/
namespace ExprTree.Numeral

/-- An optional sign. -/
def IsSign (sign : List Char) : Prop :=
  sign = [] ∨ sign = ['+'] ∨ sign = ['-']

/-- Digits, of which some may stand behind a point. -/
inductive IsMantissa : List Char → Prop where
  | plain {whole : List Char} (all : AllDigits whole) (some : whole ≠ []) : IsMantissa whole
  | pointed {whole fraction : List Char} (all : AllDigits whole) (behind : AllDigits fraction)
      (some : whole ≠ [] ∨ fraction ≠ []) : IsMantissa (whole ++ '.' :: fraction)

/-- Decimal literals: an optional sign, digits with an optional point, an optional exponent. -/
inductive IsDecimal : List Char → Prop where
  | intro {sign mantissa power : List Char} (signed : IsSign sign) (digits : IsMantissa mantissa)
      (powered : Json.IsPower power) : IsDecimal (sign ++ (mantissa ++ power))

section Sign

/-- A text that does not start with a sign. -/
def Unsigned (text : List Char) : Prop :=
  ∀ c, text.head? = some c → c ≠ '+' ∧ c ≠ '-'

variable {sign body : List Char}

theorem splitSign_append (signed : IsSign sign) (unsigned : Unsigned body) :
    splitSign (sign ++ body) = (sign == ['-'], body) := by
  rcases signed with rfl | rfl | rfl
  · cases body with
    | nil => rfl
    | cons c rest =>
      obtain ⟨plus, minus⟩ := unsigned c rfl
      unfold splitSign
      split
      · rename_i front
        cases front
        exact absurd rfl plus
      · rename_i front
        cases front
        exact absurd rfl minus
      · rfl
  · rfl
  · rfl

theorem splitSign_spec (text : List Char) :
    ∃ sign, IsSign sign ∧ text = sign ++ (splitSign text).2 ∧
      (splitSign text).1 = (sign == ['-']) := by
  unfold splitSign
  split
  · exact ⟨['+'], .inr (.inl rfl), rfl, rfl⟩
  · exact ⟨['-'], .inr (.inr rfl), rfl, rfl⟩
  · exact ⟨[], .inl rfl, rfl, rfl⟩

private theorem unsigned_of_allDigits {digits : List Char} (all : AllDigits digits)
    (some : digits ≠ [])
    (rest : List Char) : Unsigned (digits ++ rest) := by
  obtain ⟨c, later, rfl⟩ := List.exists_cons_of_ne_nil some
  have digit := all c List.mem_cons_self
  rintro c ⟨⟩
  constructor <;> rintro rfl <;> cases digit

end Sign

section Mantissa

/-- A text that prolongs no digits and starts with no point. -/
def Stops (text : List Char) : Prop :=
  ∀ c, text.head? = some c → c.isDigit = false ∧ c ≠ '.'

theorem Stops.startsOff {text : List Char} (stops : Stops text) : StartsOff text :=
  fun c front => (stops c front).1

private theorem Stops.ne_point {text : List Char} (stops : Stops text) (later : List Char) :
    text ≠ '.' :: later := by
  rintro rfl
  exact (stops '.' rfl).2 rfl

/-- Digits at the front of a text, before and behind a point, that nothing prolongs. -/
inductive ScansMantissa : List Char → List Char → List Char → List Char → Prop where
  | plain {whole rest : List Char} (all : AllDigits whole) (some : whole ≠ []) (stops : Stops rest) :
      ScansMantissa (whole ++ rest) whole [] rest
  | pointed {whole fraction rest : List Char} (all : AllDigits whole) (behind : AllDigits fraction)
      (some : whole ≠ [] ∨ fraction ≠ []) (off : StartsOff rest) :
      ScansMantissa (whole ++ '.' :: (fraction ++ rest)) whole fraction rest

variable {text mantissa whole fraction rest : List Char}

private theorem startsOff_point (rest : List Char) : StartsOff ('.' :: rest) := by
  rintro c ⟨⟩
  rfl

private theorem exists_digits (text : List Char) :
    ∃ digits rest, text = digits ++ rest ∧ AllDigits digits ∧ StartsOff rest := by
  refine ⟨text.takeWhile Char.isDigit, text.dropWhile Char.isDigit,
    List.takeWhile_append_dropWhile.symm, List.all_eq_true.mp List.all_takeWhile, ?_⟩
  intro c front
  have off := List.head?_dropWhile_not Char.isDigit text
  rw [front] at off
  simpa using off

private theorem stops_or_point {rest : List Char} (off : StartsOff rest) :
    Stops rest ∨ ∃ later, rest = '.' :: later := by
  cases rest with
  | nil => exact .inl fun c front => by cases front
  | cons c later =>
    by_cases point : c = '.'
    · exact .inr ⟨later, by rw [point]⟩
    · left
      rintro c ⟨⟩
      exact ⟨off c rfl, point⟩

/-- What follows the whole digits settles how the scan goes on. -/
theorem scan_of_scansMantissa {negative : Bool} {body : List Char}
    (split : splitSign text = (negative, body)) (scans : ScansMantissa body whole fraction rest) :
    scan text = some (⟨negative, whole.dropWhile (· == '0'), fraction, (scanExponent rest).1⟩,
      (scanExponent rest).2) := by
  unfold scan
  simp only [split]
  cases scans with
  | plain all some stops =>
    have taken := takeWhile_isDigit all stops.startsOff
    have dropped := dropWhile_isDigit all stops.startsOff
    have unpointed := stops.ne_point
    simp only [taken, dropped]
    simp [some]
  | @pointed _ _ rest all behind some off =>
    have taken := takeWhile_isDigit all (startsOff_point (fraction ++ rest))
    have dropped := dropWhile_isDigit all (startsOff_point (fraction ++ rest))
    have takenBehind := takeWhile_isDigit behind off
    have droppedBehind := dropWhile_isDigit behind off
    have present : (whole.isEmpty && fraction.isEmpty) = false := by
      rcases some with before | after
      · simp [before]
      · simp [after]
    simp only [taken, dropped, takenBehind, droppedBehind, present, Bool.false_eq_true, if_false]

/-- Where there are no digits to take, the scan takes nothing. -/
theorem scansMantissa_or_none {negative : Bool} {body : List Char}
    (split : splitSign text = (negative, body)) :
    (∃ whole fraction rest, ScansMantissa body whole fraction rest) ∨ scan text = none := by
  obtain ⟨whole, after, rfl, all, off⟩ := exists_digits body
  have taken := takeWhile_isDigit all off
  have dropped := dropWhile_isDigit all off
  rcases stops_or_point off with stops | ⟨later, rfl⟩
  · by_cases empty : whole = []
    · right
      have unpointed := stops.ne_point
      unfold scan
      simp only [split, taken, dropped]
      simp [empty]
    · exact .inl ⟨whole, [], after, .plain all empty stops⟩
  · obtain ⟨fraction, rest, rfl, behind, beyond⟩ := exists_digits later
    by_cases present : whole ≠ [] ∨ fraction ≠ []
    · exact .inl ⟨whole, fraction, rest, .pointed all behind present beyond⟩
    · right
      obtain ⟨rfl, rfl⟩ : whole = [] ∧ fraction = [] := by
        simpa using present
      have none := takeWhile_isDigit behind beyond
      unfold scan
      simp only [split, taken, dropped, none]
      rfl

theorem IsMantissa.eq_cons (digits : IsMantissa mantissa) :
    ∃ c rest, mantissa = c :: rest ∧ (c.isDigit = true ∨ c = '.') := by
  cases digits with
  | plain all some =>
    obtain ⟨c, rest, rfl⟩ := List.exists_cons_of_ne_nil some
    exact ⟨c, rest, rfl, .inl (all c List.mem_cons_self)⟩
  | @pointed whole fraction all behind some =>
    cases whole with
    | nil => exact ⟨'.', fraction, rfl, .inr rfl⟩
    | cons c rest => exact ⟨c, rest ++ '.' :: fraction, rfl, .inl (all c List.mem_cons_self)⟩

theorem IsMantissa.unsigned (digits : IsMantissa mantissa) (tail : List Char) :
    Unsigned (mantissa ++ tail) := by
  obtain ⟨c, rest, rfl, first⟩ := digits.eq_cons
  rintro c ⟨⟩
  constructor <;> rintro rfl <;> revert first <;> decide

/-- Digits at the front are taken whole, and more where they are prolonged. -/
theorem IsMantissa.scansMantissa (digits : IsMantissa mantissa) (tail : List Char) :
    ∃ whole fraction rest, ScansMantissa (mantissa ++ tail) whole fraction rest ∧
      rest.length ≤ tail.length := by
  obtain ⟨more, after, rfl, prolonged, off⟩ := exists_digits tail
  have both : ∀ {first : List Char}, AllDigits first → AllDigits (first ++ more) := fun all =>
    List.forall_mem_append.mpr ⟨all, prolonged⟩
  rw [List.length_append]
  cases digits with
  | plain all some =>
    rw [← List.append_assoc]
    rcases stops_or_point off with stops | ⟨later, rfl⟩
    · exact ⟨_, _, _, .plain (both all) (by simp [some]) stops, by omega⟩
    · obtain ⟨fraction, rest, rfl, behind, beyond⟩ := exists_digits later
      refine ⟨_, _, _, .pointed (both all) behind (.inl (by simp [some])) beyond, ?_⟩
      rw [List.length_cons, List.length_append]
      omega
  | @pointed whole fraction all behind some =>
    have joined : whole ++ '.' :: fraction ++ (more ++ after) =
        whole ++ '.' :: (fraction ++ more ++ after) := by simp
    rw [joined]
    exact ⟨_, _, _, .pointed all (both behind) (some.imp id (by simp_all)) off, by omega⟩

private theorem IsMantissa.scansMantissa_of_stops (digits : IsMantissa mantissa)
    (stops : Stops rest) :
    ∃ whole fraction, ScansMantissa (mantissa ++ rest) whole fraction rest := by
  cases digits with
  | plain all some => exact ⟨_, _, .plain all some stops⟩
  | pointed all behind some =>
    rw [List.append_assoc]
    exact ⟨_, _, .pointed all behind some stops.startsOff⟩

/-- The digits taken are a mantissa, from which the same is read with anything behind it that stops
it. -/
theorem ScansMantissa.exists_mantissa (scans : ScansMantissa text whole fraction rest) :
    ∃ mantissa, text = mantissa ++ rest ∧ IsMantissa mantissa ∧
      ∀ tail, Stops tail → ScansMantissa (mantissa ++ tail) whole fraction tail := by
  cases scans with
  | plain all some stops =>
    exact ⟨whole, rfl, .plain all some, fun tail ended => .plain all some ended⟩
  | pointed all behind some off =>
    refine ⟨whole ++ '.' :: fraction, by simp, .pointed all behind some, fun tail ended => ?_⟩
    rw [List.append_assoc]
    exact .pointed all behind some ended.startsOff

end Mantissa

section Exponent

variable {text power : List Char}

private theorem stops_power (powered : Json.IsPower power) : Stops power := by
  intro c front
  refine ⟨powered.startsOff c front, ?_⟩
  rintro rfl
  obtain ⟨later, same⟩ := List.head?_eq_some_iff.mp front
  exact powered.plain later same

private theorem scanExponent_of_marked {mark : Char} {sign body : List Char}
    (marked : mark = 'e' ∨ mark = 'E')
    (signed : IsSign sign) (unsigned : Unsigned body) (some : body.takeWhile Char.isDigit ≠ []) :
    scanExponent (mark :: (sign ++ body)) =
      (if (sign == ['-']) = true then -(powerOf (body.takeWhile Char.isDigit) : Int)
        else powerOf (body.takeWhile Char.isDigit), body.dropWhile Char.isDigit) := by
  unfold scanExponent
  simp only [splitSign_append signed unsigned]
  rw [if_pos marked, if_neg (by simpa using some)]

private theorem scanExponent_of_unmarked
    (none : ∀ mark rest, text = mark :: rest → mark = 'e' ∨ mark = 'E' →
      (splitSign rest).2.takeWhile Char.isDigit = []) : scanExponent text = (0, text) := by
  unfold scanExponent
  split
  · rename_i mark rest
    split
    · rename_i marked
      have missing := none mark rest rfl marked
      dsimp only
      rw [if_pos (by simp [missing])]
    · rfl
  · rfl

/-- An exponent is taken whole or not at all, and reads the same with nothing behind it. -/
theorem scanExponent_spec (text : List Char) :
    ∃ power, text = power ++ (scanExponent text).2 ∧ Json.IsPower power ∧
      scanExponent power = ((scanExponent text).1, []) := by
  by_cases present : ∃ mark rest, text = mark :: rest ∧ (mark = 'e' ∨ mark = 'E') ∧
      (splitSign rest).2.takeWhile Char.isDigit ≠ []
  · obtain ⟨mark, rest, rfl, marked, some⟩ := present
    obtain ⟨sign, signed, same, -⟩ := splitSign_spec rest
    generalize (splitSign rest).2 = body at *
    subst same
    obtain ⟨digits, after, rfl, all, off⟩ := exists_digits body
    rw [takeWhile_isDigit all off] at some
    have unsigned := unsigned_of_allDigits all some
    have whole := takeWhile_isDigit all Spelling.ends_nil.startsOff
    have nothing := dropWhile_isDigit all Spelling.ends_nil.startsOff
    have alone := scanExponent_of_marked marked signed (unsigned []) (by rwa [whole])
    have longer := scanExponent_of_marked marked signed (unsigned after)
      (by rwa [takeWhile_isDigit all off])
    rw [whole, nothing, List.append_nil] at alone
    rw [takeWhile_isDigit all off, dropWhile_isDigit all off] at longer
    rw [longer]
    exact ⟨mark :: (sign ++ digits), by simp, .digits marked signed all some, alone⟩
  · have none : scanExponent text = (0, text) := by
      refine scanExponent_of_unmarked fun mark rest same marked => ?_
      by_contra some
      exact present ⟨mark, rest, same, marked, some⟩
    rw [none]
    exact ⟨[], rfl, .none, rfl⟩

private theorem length_scanExponent_le (text : List Char) :
    (scanExponent text).2.length ≤ text.length := by
  obtain ⟨power, same, -⟩ := scanExponent_spec text
  have lengths := congrArg List.length same
  rw [List.length_append] at lengths
  omega

private theorem scanExponent_append (powered : Json.IsPower power) (tail : List Char) :
    (scanExponent (power ++ tail)).2.length ≤ tail.length := by
  cases powered with
  | none => exact length_scanExponent_le tail
  | @digits mark sign digits marked signed all some =>
    have unsigned := unsigned_of_allDigits all some tail
    have taken : (digits ++ tail).takeWhile Char.isDigit ≠ [] := by
      rw [List.takeWhile_append_of_pos all]
      simp [some]
    rw [List.cons_append, List.append_assoc, scanExponent_of_marked marked signed unsigned taken,
      List.dropWhile_append_of_pos all]
    exact List.length_dropWhile_le _ _

end Exponent

/-- The scan takes at least as much as any literal at the front. -/
theorem IsDecimal.scan_append {literal : List Char} (decimal : IsDecimal literal) (tail : List Char) :
    ∃ read rest, scan (literal ++ tail) = some (read, rest) ∧ rest.length ≤ tail.length := by
  obtain @⟨sign, mantissa, power, signed, digits, powered⟩ := decimal
  have joined : sign ++ (mantissa ++ power) ++ tail = sign ++ (mantissa ++ (power ++ tail)) := by
    simp only [List.append_assoc]
  have split := splitSign_append signed (digits.unsigned (power ++ tail))
  rw [joined]
  by_cases empty : power = []
  · subst empty
    obtain ⟨whole, fraction, rest, scans, taken⟩ := digits.scansMantissa tail
    exact ⟨_, _, scan_of_scansMantissa split scans, (length_scanExponent_le rest).trans taken⟩
  · have stops : Stops (power ++ tail) := by
      intro c front
      obtain ⟨mark, later, rfl⟩ := List.exists_cons_of_ne_nil empty
      exact stops_power powered c front
    obtain ⟨whole, fraction, scans⟩ := digits.scansMantissa_of_stops stops
    exact ⟨_, _, scan_of_scansMantissa split scans, scanExponent_append powered tail⟩

/-- What the scan takes is a literal, from which the same is read with nothing behind it. -/
theorem exists_decimal_of_scan {text rest : List Char} {read : Literal}
    (scanned : scan text = some (read, rest)) :
    ∃ literal, text = literal ++ rest ∧ IsDecimal literal ∧ scan literal = some (read, []) := by
  obtain ⟨sign, signed, same, minus⟩ := splitSign_spec text
  generalize split : splitSign text = parts at *
  obtain ⟨negative, body⟩ := parts
  obtain rfl : negative = (sign == ['-']) := minus
  obtain rfl : text = sign ++ body := same
  rcases scansMantissa_or_none split with ⟨whole, fraction, after, scans⟩ | none
  · rw [scan_of_scansMantissa split scans] at scanned
    cases scanned
    obtain ⟨mantissa, rfl, digits, again⟩ := scans.exists_mantissa
    obtain ⟨power, shared, powered, exponent⟩ := scanExponent_spec after
    have alone := scan_of_scansMantissa (splitSign_append signed (digits.unsigned power))
      (again power (stops_power powered))
    rw [exponent] at alone
    refine ⟨_, ?_, .intro signed digits powered, alone⟩
    nth_rewrite 1 [shared]
    simp only [List.append_assoc]
  · rw [none] at scanned
    cases scanned

end ExprTree.Numeral
