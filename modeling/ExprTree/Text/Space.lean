/-! White space of the expression language: the space separators of Unicode, tab, line and page
breaks and the byte order mark, without U+0085. -/
namespace ExprTree.Text

def isSpace (c : Char) : Bool :=
  let code := c.toNat
  (0x09 ≤ code && code ≤ 0x0D) || code == 0x20 || code == 0xA0 || code == 0x1680
    || (0x2000 ≤ code && code ≤ 0x200A) || code == 0x2028 || code == 0x2029 || code == 0x202F
    || code == 0x205F || code == 0x3000 || code == 0xFEFF

/-- Removes what satisfies a test from both ends. -/
def trimChars (test : Char → Bool) (text : List Char) : List Char :=
  ((text.dropWhile test).reverse.dropWhile test).reverse

def trim (text : String) : String :=
  String.ofList (trimChars isSpace text.toList)

end ExprTree.Text
