import ExprTree.Double.Estimate

/-!
Numerals in text. `Numeral.scan` reads the longest decimal literal at the front of a text; the other
readers take a whole text: floats with their special names and hexadecimal form, and integers of a
given width in a given base.
-/
namespace ExprTree.Numeral

/-- The value of a digit in the bases up to 36, and 36 for every other character. -/
def digitValue (c : Char) : Nat :=
  if '0' ≤ c ∧ c ≤ '9' then c.toNat - '0'.toNat
  else if 'a' ≤ c ∧ c ≤ 'z' then c.toNat - 'a'.toNat + 10
  else if 'A' ≤ c ∧ c ≤ 'Z' then c.toNat - 'A'.toNat + 10
  else 36

/-- The integer that digits spell in a base. -/
def valueOf (base : Nat) (digits : List Char) : Nat :=
  digits.foldl (fun sum c => sum * base + digitValue c) 0

/-- Takes an optional sign off; true for a minus. -/
def splitSign : List Char → Bool × List Char
  | '+' :: rest => (false, rest)
  | '-' :: rest => (true, rest)
  | text => (false, text)

/-- A decimal literal. -/
structure Literal where
  negative : Bool
  /-- The digits before the point, without zeros in front. -/
  whole : List Char
  fraction : List Char
  power : Int
  deriving DecidableEq, Repr

namespace Literal

def digits (l : Literal) : List Char := l.whole ++ l.fraction

/-- The size that a literal spells. -/
def decimal (l : Literal) : Decimal :=
  ⟨valueOf 10 l.digits, l.power - l.fraction.length⟩

/-- The size cut off behind the first 19 digits, which fit a word. -/
def head (l : Literal) : Decimal :=
  ⟨valueOf 10 (l.digits.take 19), l.whole.length + l.power - 19⟩

/-- Whether estimates from the first 19 digits tell the number nearest to a literal that has more of
them: if others than zeros follow, the next size has to round to the same number. -/
def headSettles (l : Literal) : Bool :=
  let next : Decimal := ⟨l.head.digits + 1, l.head.exponent⟩
  l.head.settles && ((l.digits.drop 19).all (· == '0')
    || (next.settles && Double.ofDecimal false l.head == Double.ofDecimal false next))

/-- How many digits are held where estimates do not suffice. -/
def heldDigits : Nat := 800

/-- The size of the held digits with the point behind them. What follows counts only as more than
nothing. -/
def held (l : Literal) : Decimal :=
  let more := (l.digits.drop heldDigits).any (· != '0')
  ⟨valueOf 10 (l.digits.take heldDigits) * 10 + (if more then 1 else 0), l.power - 1⟩

/-- The number nearest to a literal. With more digits before the point than are held, a literal that
the estimates do not settle is taken as if its point stood behind the held ones. -/
def toDouble (l : Literal) : Double :=
  Double.ofDecimal l.negative
    (if l.whole.length ≤ heldDigits || l.headSettles then l.decimal else l.held)

end Literal

/-- The size of an exponent. When it has reached ten thousand, no further digit counts. -/
def powerOf (digits : List Char) : Nat :=
  digits.foldl (fun sum c => if sum < 10000 then sum * 10 + digitValue c else sum) 0

/-- Reads an exponent part; without digits there is none and nothing is taken. -/
def scanExponent (text : List Char) : Int × List Char :=
  match text with
  | mark :: rest =>
    if mark = 'e' ∨ mark = 'E' then
      let (negative, body) := splitSign rest
      let digits := body.takeWhile Char.isDigit
      if digits.isEmpty then (0, text)
      else
        let size : Int := powerOf digits
        (if negative then -size else size, body.dropWhile Char.isDigit)
    else (0, text)
  | [] => (0, [])

/-- Reads the longest decimal literal at the front: digits with an optional point among or around
them and an optional exponent. -/
def scan (text : List Char) : Option (Literal × List Char) :=
  let (negative, body) := splitSign text
  let whole := body.takeWhile Char.isDigit
  let afterWhole := body.dropWhile Char.isDigit
  let (fraction, afterFraction) :=
    match afterWhole with
    | '.' :: rest =>
      if whole.isEmpty && (rest.takeWhile Char.isDigit).isEmpty then ([], afterWhole)
      else (rest.takeWhile Char.isDigit, rest.dropWhile Char.isDigit)
    | _ => ([], afterWhole)
  if whole.isEmpty && fraction.isEmpty then none
  else
    let (power, rest) := scanExponent afterFraction
    some (⟨negative, whole.dropWhile (· == '0'), fraction, power⟩, rest)

/-- The value of a text that is one decimal literal. -/
def decimal? (text : List Char) : Option Double :=
  match scan text with
  | some (literal, []) => some literal.toDouble
  | _ => none

/-- Underscores may only stand between digits, or between a base mark and a digit. -/
def underscoresSeparate (text : List Char) : Bool :=
  let body := (splitSign text).2
  match body with
  | '0' :: mark :: rest =>
    if mark ∈ ['b', 'o', 'B', 'O'] then go false true rest
    else if mark ∈ ['x', 'X'] then go true true rest
    else go false false body
  | _ => go false false body
where
  go (hex afterDigit : Bool) : List Char → Bool
    | [] => true
    | c :: rest =>
      if c.isDigit || (hex && digitValue c < 16) then go hex true rest
      else if c = '_' then
        match rest with
        | next :: _ =>
          afterDigit && (next.isDigit || (hex && digitValue next < 16)) && go hex false rest
        | [] => false
      else go hex false rest

/-- Reads digits of a base with an optional point: the digits and how many follow the point. -/
def scanPointed (base : Nat) (text : List Char) : List Char × List Char × List Char :=
  let isDigit (c : Char) : Bool := digitValue c < base
  let whole := text.takeWhile isDigit
  match text.dropWhile isDigit with
  | '.' :: rest => (whole, rest.takeWhile isDigit, rest.dropWhile isDigit)
  | rest => (whole, [], rest)

/-- The value of a hexadecimal float without sign and `0x`; the power of two is mandatory. -/
def hexFloat? (negative : Bool) (text : List Char) : Option Double :=
  let (whole, fraction, rest) := scanPointed 16 text
  if whole.isEmpty && fraction.isEmpty then none
  else
    match rest with
    | mark :: power =>
      let (down, body) := splitSign power
      let exponentDigits := body.takeWhile Char.isDigit
      if (mark ≠ 'p' ∧ mark ≠ 'P') ∨ exponentDigits.isEmpty
          ∨ ¬ (body.dropWhile Char.isDigit).isEmpty then none
      else
        let digits := valueOf 16 (whole ++ fraction)
        let size : Int := powerOf exponentDigits
        let shift := (if down then -size else size) - 4 * fraction.length
        if digits = 0 then some (Double.zero negative)
        else if shift + digits.log2 < -2000 then some (Double.zero negative)
        else if 2000 < shift + digits.log2 then some (Double.infinite negative)
        else if 0 ≤ shift then
          some (Double.ofUnits negative (digits * Nat.pow 2 shift.toNat * Double.oneUnits))
        else some (Double.ofRatio negative (digits * Double.oneUnits) (Nat.pow 2 (-shift).toNat))
    | [] => none

/-- Reads a whole text as a float: a decimal or hexadecimal literal with separating underscores, or
the name of an infinity or of NaN in any case. A literal beyond the finite range is refused. -/
def float? (text : List Char) : Option Double :=
  let (negative, body) := splitSign text
  let name := body.map Char.toLower
  if name = "inf".toList ∨ name = "infinity".toList then some (.infinite negative)
  else if text.map Char.toLower = "nan".toList then some .nan
  else if text.contains '_' && !underscoresSeparate text then none
  else
    let value :=
      match body.filter (· ≠ '_') with
      | '0' :: mark :: c :: rest =>
        if mark = 'x' ∨ mark = 'X' then hexFloat? negative (c :: rest)
        else decimal? (text.filter (· ≠ '_'))
      | _ => decimal? (text.filter (· ≠ '_'))
    match value with
    | some (.infinite _) => none
    | other => other

/-- Why a text is no integer of the wanted width. -/
inductive IntFault where
  | malformed
  | outOfRange
  deriving DecidableEq, Repr

/-- Accumulates digits of a base below a bound; the first bad digit or excess decides. -/
def accumulate (base bound : Nat) (separators : Bool) : Nat → List Char → Except IntFault Nat
  | sum, [] => .ok sum
  | sum, c :: rest =>
    if separators && c == '_' then accumulate base bound separators sum rest
    else if base ≤ digitValue c then .error .malformed
    else
      let next := sum * base + digitValue c
      if bound ≤ next then .error .outOfRange else accumulate base bound separators next rest

/-- Reads an unsigned integer below `bound`. Base 0 takes the base from the mark `0b`, `0o`, `0x` or
a leading `0`, and allows separating underscores. -/
def unsigned (base bound : Nat) (text : List Char) : Except IntFault Nat :=
  if text.isEmpty then .error .malformed
  else if base ≠ 0 then accumulate base bound false 0 text
  else
    let (marked, digits) :=
      match text with
      | '0' :: mark :: c :: rest =>
        if mark = 'b' ∨ mark = 'B' then (2, c :: rest)
        else if mark = 'o' ∨ mark = 'O' then (8, c :: rest)
        else if mark = 'x' ∨ mark = 'X' then (16, c :: rest)
        else (8, mark :: c :: rest)
      | '0' :: rest => (8, rest)
      | _ => (10, text)
    match accumulate marked bound true 0 digits with
    | .error fault => .error fault
    | .ok n => if text.contains '_' && !underscoresSeparate text then .error .malformed else .ok n

/-- Reads a signed integer of 64 bits. -/
def signed64 (base : Nat) (text : List Char) : Except IntFault Int :=
  let (negative, body) := splitSign text
  match unsigned base (Nat.pow 2 64) body with
  | .error fault => .error fault
  | .ok n =>
    if negative then
      if Nat.pow 2 63 < n then .error .outOfRange else .ok (-(n : Int))
    else if Nat.pow 2 63 ≤ n then .error .outOfRange
    else .ok n

end ExprTree.Numeral
