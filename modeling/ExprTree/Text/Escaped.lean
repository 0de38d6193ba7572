import ExprTree.Text.Quoted

/-! Text and characters in messages: quoted, and with escapes for whatever would not be seen. -/
namespace ExprTree.Text

/-- Ranges of characters that leave no mark: controls, format characters, spaces other than the
plain one, and the areas for private use. -/
def unseenRanges : List (Nat × Nat) :=
  [(0x00, 0x1F), (0x7F, 0xA0), (0xAD, 0xAD), (0x600, 0x605), (0x61C, 0x61C), (0x6DD, 0x6DD),
    (0x70F, 0x70F), (0x890, 0x891), (0x8E2, 0x8E2), (0x1680, 0x1680), (0x180E, 0x180E),
    (0x2000, 0x200F), (0x2028, 0x202F), (0x205F, 0x206F), (0x3000, 0x3000), (0xE000, 0xF8FF),
    (0xFDD0, 0xFDEF), (0xFEFF, 0xFEFF), (0xFFF0, 0xFFFB), (0xFFFE, 0xFFFF), (0x110BD, 0x110BD),
    (0x110CD, 0x110CD), (0x13430, 0x1343F), (0x1BCA0, 0x1BCA3), (0x1D173, 0x1D17A),
    (0xE0000, 0xE00FF), (0xE01F0, 0x10FFFF)]

def isSeen (c : Char) : Bool :=
  unseenRanges.all fun (first, last) => c.toNat < first || last < c.toNat

/-- The lowest digits of a number in base 16, so many of them. -/
def hexDigits : Nat → Nat → List Char
  | 0, _ => []
  | count + 1, n => hexDigits count (n / 16) ++ [hexDigit (n % 16)]

/-- How one character is written between the given quotes. -/
def escapedChar (quote c : Char) : List Char :=
  if c = quote ∨ c = '\\' then ['\\', c]
  else if isSeen c then [c]
  else
    match c.toNat with
    | 7 => ['\\', 'a']
    | 8 => ['\\', 'b']
    | 9 => ['\\', 't']
    | 10 => ['\\', 'n']
    | 11 => ['\\', 'v']
    | 12 => ['\\', 'f']
    | 13 => ['\\', 'r']
    | code =>
      if code < 0x80 then '\\' :: 'x' :: hexDigits 2 code
      else if code < 0x10000 then '\\' :: 'u' :: hexDigits 4 code
      else '\\' :: 'U' :: hexDigits 8 code

/-- A text in double quotes. -/
def escaped (text : String) : String :=
  String.ofList ('"' :: text.toList.flatMap (escapedChar '"') ++ ['"'])

/-- A character in single quotes. -/
def escapedSingle (c : Char) : String :=
  String.ofList ('\'' :: escapedChar '\'' c ++ ['\''])

end ExprTree.Text
