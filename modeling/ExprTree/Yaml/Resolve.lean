import ExprTree.Numeral
import ExprTree.Yaml.Node

/-! What scalars mean. The first character says what a plain scalar may be besides text; an explicit
tag has to fit the meaning of the text. -/
namespace ExprTree.Yaml

inductive Meaning where
  | null
  | bool (b : Bool)
  /-- An integer; `wide` when it only fits without a sign. -/
  | int (i : Int) (wide : Bool)
  | float (x : Double)
  | text
  deriving DecidableEq

/-- The words with a meaning of their own. -/
def word? (text : String) : Option Meaning :=
  if text ∈ ["true", "True", "TRUE"] then some (.bool true)
  else if text ∈ ["false", "False", "FALSE"] then some (.bool false)
  else if text ∈ ["", "~", "null", "Null", "NULL"] then some .null
  else if text ∈ [".nan", ".NaN", ".NAN"] then some (.float .nan)
  else if text ∈ [".inf", ".Inf", ".INF", "+.inf", "+.Inf", "+.INF"] then
    some (.float (.infinite false))
  else if text ∈ ["-.inf", "-.Inf", "-.INF"] then some (.float (.infinite true))
  else none

/-- An integer of 64 bits in a base, signed or else unsigned. -/
def integer? (base : Nat) (digits : List Char) : Option Meaning :=
  match Numeral.signed64 base digits with
  | .ok i => some (.int i false)
  | .error _ =>
    match Numeral.unsigned base (Nat.pow 2 64) digits with
    | .ok n => some (.int n true)
    | .error _ => none

/-- A decimal float within the finite range. -/
def float? (text : List Char) : Option Meaning :=
  match Numeral.decimal? text with
  | some (.infinite _) => none
  | some x => some (.float x)
  | none => none

/-- Digits behind a binary or octal mark, which may have a sign of their own. -/
def marked? : List Char → Option Meaning
  | '0' :: 'b' :: rest => integer? 2 rest
  | '0' :: 'o' :: rest => integer? 8 rest
  | '-' :: '0' :: 'b' :: rest => negated 2 rest
  | '-' :: '0' :: 'o' :: rest => negated 8 rest
  | _ => none
where
  negated (base : Nat) (rest : List Char) : Option Meaning :=
    match Numeral.signed64 base ('-' :: rest) with
    | .ok i => some (.int i false)
    | .error _ => none

/-- A number, underscores aside. -/
def number? (text : List Char) : Option Meaning :=
  let digits := text.filter (· ≠ '_')
  integer? 0 digits <|> float? digits <|> marked? digits

/-- The meaning of a text that nothing marks as text. -/
def meaning (text : String) : Meaning :=
  match text.toList with
  | [] => .null
  | c :: rest =>
    if c == '.' then
      (word? text <|> (Numeral.float? (c :: rest)).map Meaning.float).getD .text
    else if c == '+' || c == '-' || c.isDigit then
      (word? text <|> number? (c :: rest)).getD .text
    else if c ∈ ['y', 'Y', 'n', 'N', 't', 'T', 'f', 'F', 'o', 'O', '~'] then
      (word? text).getD .text
    else .text

/-- The short name of a tag. -/
def shortTag (tag : String) : String :=
  let standard := "tag:yaml.org,2002:".toList
  if standard.isPrefixOf tag.toList then
    "!!" ++ String.ofList (tag.toList.drop standard.length)
  else tag

/-- The meaning of a scalar; `none` if its tag does not fit its text. -/
def scalarMeaning? (tag : String) (plain : Bool) (text : String) : Option Meaning :=
  let found := meaning text
  match shortTag tag with
  | "" => some (if plain then found else .text)
  | "!" => some (if plain then found else .text)
  | "!!null" => some .null
  | "!!bool" =>
    match found with
    | .bool b => some (.bool b)
    | _ => none
  | "!!int" =>
    match found with
    | .int i wide => some (.int i wide)
    | _ => none
  | "!!float" =>
    match found with
    | .float x => some (.float x)
    | .int i false => some (.float (Double.ofInt i))
    | _ => none
  | _ => some .text

end ExprTree.Yaml
