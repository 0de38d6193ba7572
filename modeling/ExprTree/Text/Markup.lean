/-! Text inside markup: the characters that markup gives a meaning are written as references. -/
namespace ExprTree.Text

def markupChar (c : Char) : List Char :=
  if c = '<' then "&lt;".toList
  else if c = '>' then "&gt;".toList
  else if c = '&' then "&amp;".toList
  else if c = '\'' then "&#39;".toList
  else if c = '"' then "&#34;".toList
  else [c]

/-- A text as markup shows it. -/
def markup (text : List Char) : List Char :=
  text.flatMap markupChar

end ExprTree.Text
