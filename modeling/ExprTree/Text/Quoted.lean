/-! Double-quoted text as JSON writes it. Besides quotes, backslashes and control characters, the
characters that matter inside markup (angle brackets, ampersand) and the two Unicode line breaks
are written as escapes. -/
namespace ExprTree.Text

/-- A digit of base 16, in lower case. -/
def hexDigit (n : Nat) : Char :=
  if n < 10 then Char.ofNat ('0'.toNat + n) else Char.ofNat ('a'.toNat + (n - 10))

/-- The escape of a code unit by its number. -/
def unitEscape (code : Nat) : List Char :=
  ['\\', 'u', hexDigit (code / 4096 % 16), hexDigit (code / 256 % 16), hexDigit (code / 16 % 16),
    hexDigit (code % 16)]

/-- How one character is written between quotes. -/
def quotedChar (c : Char) : List Char :=
  if c = '"' then ['\\', '"']
  else if c = '\\' then ['\\', '\\']
  else if c = '\x08' then ['\\', 'b']
  else if c = '\x0c' then ['\\', 'f']
  else if c = '\n' then ['\\', 'n']
  else if c = '\r' then ['\\', 'r']
  else if c = '\t' then ['\\', 't']
  else if c.toNat < 0x20 || c = '<' || c = '>' || c = '&' || c = '\u2028' || c = '\u2029' then
    unitEscape c.toNat
  else [c]

/-- A text between quotes. -/
def quoted (text : String) : List Char :=
  '"' :: text.toList.flatMap quotedChar ++ ['"']

end ExprTree.Text
