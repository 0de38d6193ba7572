import ExprTree.Numeral
import ExprTree.Text.Units

/-! Tokens of JSON. A text is read piece by piece, an escaped code unit being a piece of its own, so
that a pair of escaped surrogates can be joined afterwards and a lone one replaced. -/
namespace ExprTree.Json

inductive Token where
  | openRecord
  | closeRecord
  | openList
  | closeList
  | comma
  | colon
  | null
  | bool (b : Bool)
  | number (spelling : List Char)
  | text (s : String)
  deriving DecidableEq, Repr

/-- Between tokens. -/
def isBlank (c : Char) : Bool :=
  c == ' ' || c == '\t' || c == '\n' || c == '\r'

/-- A character that stands for itself, or an escaped code unit. -/
inductive Piece where
  | char (c : Char)
  | unit (code : Nat)
  deriving DecidableEq, Repr

/-- The character of a one-letter escape. -/
def shortEscape? (c : Char) : Option Char :=
  if c = '"' ∨ c = '\\' ∨ c = '/' then some c
  else if c = 'b' then some '\x08'
  else if c = 'f' then some '\x0c'
  else if c = 'n' then some '\n'
  else if c = 'r' then some '\r'
  else if c = 't' then some '\t'
  else none

/-- The code unit of four hexadecimal digits. -/
def unitOfHex? (digits : List Char) : Option Nat :=
  if digits.all fun c => Numeral.digitValue c < 16 then some (Numeral.valueOf 16 digits) else none

/-- Reads the pieces of a text up to its closing quote, and what follows. -/
def scanPieces : List Char → Option (List Piece × List Char)
  | '"' :: rest => some ([], rest)
  | '\\' :: 'u' :: a :: b :: c :: d :: rest =>
    match unitOfHex? [a, b, c, d], scanPieces rest with
    | some code, some (pieces, after) => some (.unit code :: pieces, after)
    | _, _ => none
  | '\\' :: c :: rest =>
    match shortEscape? c, scanPieces rest with
    | some escaped, some (pieces, after) => some (.char escaped :: pieces, after)
    | _, _ => none
  | c :: rest =>
    if c.toNat < 0x20 ∨ c = '\\' then none
    else
      match scanPieces rest with
      | some (pieces, after) => some (.char c :: pieces, after)
      | none => none
  | [] => none

/-- Joins escaped surrogate pairs; a code unit that is no character becomes U+FFFD. -/
def joinPieces : List Piece → List Char
  | [] => []
  | .char c :: rest => c :: joinPieces rest
  | .unit high :: .unit low :: rest =>
    if 0xD800 ≤ high ∧ high < 0xDC00 ∧ 0xDC00 ≤ low ∧ low < 0xE000 then
      Char.ofNat (0x10000 + (high - 0xD800) * 0x400 + (low - 0xDC00)) :: joinPieces rest
    else Text.unitChar high :: joinPieces (.unit low :: rest)
  | .unit code :: rest => Text.unitChar code :: joinPieces rest

/-- Takes digits, at least one. -/
def scanDigits (text : List Char) : Option (List Char × List Char) :=
  let digits := text.takeWhile Char.isDigit
  if digits.isEmpty then none else some (digits, text.dropWhile Char.isDigit)

/-- The integer part: a lone zero, or digits that do not start with one. -/
def scanWhole : List Char → Option (List Char × List Char)
  | '0' :: rest => some (['0'], rest)
  | text => scanDigits text

/-- An optional point with digits behind it. -/
def scanFraction : List Char → Option (List Char × List Char)
  | '.' :: rest => (scanDigits rest).map fun (digits, after) => ('.' :: digits, after)
  | text => some ([], text)

/-- An optional exponent. -/
def scanPower : List Char → Option (List Char × List Char)
  | mark :: rest =>
    if mark = 'e' ∨ mark = 'E' then
      match rest with
      | '+' :: body => (scanDigits body).map fun (digits, after) => (mark :: '+' :: digits, after)
      | '-' :: body => (scanDigits body).map fun (digits, after) => (mark :: '-' :: digits, after)
      | body => (scanDigits body).map fun (digits, after) => (mark :: digits, after)
    else some ([], mark :: rest)
  | [] => some ([], [])

/-- Reads a number and what follows. -/
def scanNumber (text : List Char) : Option (List Char × List Char) := do
  let (sign, body) :=
    match text with
    | '-' :: rest => (['-'], rest)
    | other => ([], other)
  let (whole, afterWhole) ← scanWhole body
  let (fraction, afterFraction) ← scanFraction afterWhole
  let (power, rest) ← scanPower afterFraction
  some (sign ++ whole ++ fraction ++ power, rest)

/-- Reads one token at the front of a text that does not start with a blank. -/
def scanToken : List Char → Option (Token × List Char)
  | '{' :: rest => some (.openRecord, rest)
  | '}' :: rest => some (.closeRecord, rest)
  | '[' :: rest => some (.openList, rest)
  | ']' :: rest => some (.closeList, rest)
  | ',' :: rest => some (.comma, rest)
  | ':' :: rest => some (.colon, rest)
  | 'n' :: 'u' :: 'l' :: 'l' :: rest => some (.null, rest)
  | 't' :: 'r' :: 'u' :: 'e' :: rest => some (.bool true, rest)
  | 'f' :: 'a' :: 'l' :: 's' :: 'e' :: rest => some (.bool false, rest)
  | '"' :: rest =>
    (scanPieces rest).map fun (pieces, after) => (.text (String.ofList (joinPieces pieces)), after)
  | text => (scanNumber text).map fun (spelling, after) => (.number spelling, after)

/-- All tokens of a text. Each token takes a character, so as many rounds as characters suffice. -/
def scanTokens : Nat → List Char → Option (List Token)
  | rounds, text =>
    match text.dropWhile isBlank with
    | [] => some []
    | c :: rest =>
      match rounds with
      | 0 => none
      | rounds + 1 =>
        match scanToken (c :: rest) with
        | some (token, after) => (scanTokens rounds after).map (token :: ·)
        | none => none

def tokens? (text : List Char) : Option (List Token) :=
  scanTokens text.length text

end ExprTree.Json
