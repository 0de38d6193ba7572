/-! Layout of JSON text: containers that hold something are spread over lines. Only blanks outside
of texts are added or removed. -/
namespace ExprTree.Json

/-- Where a character of JSON text stands. -/
inductive Region where
  | outside
  | inText
  | escaped
  deriving DecidableEq, Repr

/-- Where the character after `c` stands. -/
def Region.next (region : Region) (c : Char) : Region :=
  match region with
  | outside => if c = '"' then inText else outside
  | inText => if c = '\\' then escaped else if c = '"' then outside else inText
  | escaped => inText

/-- A line break and the indent of a depth. -/
def newline (indent : List Char) (depth : Nat) : List Char :=
  '\n' :: (List.replicate depth indent).flatten

/-- Lays out the rest of a text. `opened` says that the last character opened a container, whose
line break waits until something turns out to be in it. -/
def layout (indent : List Char) (depth : Nat) (opened : Bool) (region : Region) :
    List Char → List Char
  | [] => []
  | c :: rest =>
    if region ≠ .outside then c :: layout indent depth false (region.next c) rest
    else if c = ' ' ∨ c = '\t' ∨ c = '\n' ∨ c = '\r' then layout indent depth opened region rest
    else if c = '}' ∨ c = ']' then
      if opened then c :: layout indent depth false region rest
      else newline indent (depth - 1) ++ c :: layout indent (depth - 1) false region rest
    else
      let inner := if opened then depth + 1 else depth
      let before := if opened then newline indent inner else []
      if c = '{' ∨ c = '[' then before ++ c :: layout indent inner true region rest
      else if c = ',' then before ++ c :: newline indent inner ++ layout indent inner false region rest
      else if c = ':' then before ++ c :: ' ' :: layout indent inner false region rest
      else before ++ c :: layout indent inner false (region.next c) rest

/-- A JSON text spread over lines with an indent for each level. -/
def indented (indent : String) (text : String) : String :=
  String.ofList (layout indent.toList 0 false .outside text.toList)

end ExprTree.Json
