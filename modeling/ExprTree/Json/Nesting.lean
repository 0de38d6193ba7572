import ExprTree.Json.Indent
import ExprTree.Json.Parse

/-! How deep the containers of a JSON text may be nested for the text to be taken over into another
or to be laid out. -/
namespace ExprTree.Json

/-- Why a JSON text is not taken over. -/
inductive WriteFault where
  /-- A bracket opens more containers inside of one another than may be open. -/
  | tooDeep (opening : Char)
  /-- What is wrong with the text of a part, which has a type of its own. -/
  | part (typeName : String) (cause : WriteFault)
  deriving DecidableEq, Repr

def WriteFault.message : WriteFault → String
  | tooDeep opening => "invalid character '" ++ opening.toString ++ "' exceeded max depth"
  | part typeName cause =>
    "json: error calling MarshalJSON for type " ++ typeName ++ ": " ++ cause.message

/-- The first bracket of a text that opens a container where there is room for no more of them
inside of one another. -/
def excess? (room : Nat) (region : Region) : List Char → Option Char
  | [] => none
  | c :: rest =>
    if region ≠ .outside then excess? room (region.next c) rest
    else if c = '}' ∨ c = ']' then excess? (room + 1) region rest
    else if c = '{' ∨ c = '[' then
      if room = 0 then some c else excess? (room - 1) region rest
    else excess? room (region.next c) rest

/-- Takes over a text that is not nested too deep. -/
def accept (text : List Char) : Except WriteFault (List Char) :=
  match excess? maxDepth .outside text with
  | some opening => .error (.tooDeep opening)
  | none => .ok text

/-- Takes over the text of a part. -/
def acceptPart (typeName : String) (text : List Char) : Except WriteFault (List Char) :=
  (accept text).mapError (.part typeName)

/-- A text spread over lines, if it is not nested too deep. -/
def layOut (indent : String) (text : List Char) : Except WriteFault String := do
  let text ← accept text
  .ok (indented indent (String.ofList text))

end ExprTree.Json
