import ExprTree.Json.Nesting
import ExprTree.Text.Quoted
import ExprTree.Value.Convert

/-! Written forms of values: JSON, which has no word for undefined and functions, and a form for
reading by people. -/
namespace ExprTree.Value

/-- Whether JSON leaves a member with this value out. -/
def isSkipped : Value → Bool
  | undefined => true
  | function _ => true
  | _ => false

mutual

/-- The JSON text. Undefined, functions and numbers that are not finite are null, and members that
are undefined or functions are left out. -/
def jsonChars : Value → List Char
  | undefined => "null".toList
  | null => "null".toList
  | bool b => if b then "true".toList else "false".toList
  | number x => if x.isFinite then x.toText.toList else "null".toList
  | text s => Text.quoted s
  | object _ entries => '{' :: jsonMembers true entries ++ ['}']
  | array _ items => '[' :: jsonItems true items ++ [']']
  | function _ => "null".toList

/-- Members with commas between those that are written. -/
def jsonMembers (first : Bool) : List (String × Value) → List Char
  | [] => []
  | (key, value) :: rest =>
    if value.isSkipped then jsonMembers first rest
    else
      (if first then [] else [',']) ++ Text.quoted key ++ ':' :: jsonChars value
        ++ jsonMembers false rest

def jsonItems (first : Bool) : List Value → List Char
  | [] => []
  | item :: rest => (if first then [] else [',']) ++ jsonChars item ++ jsonItems false rest

end

def json (v : Value) : String :=
  String.ofList v.jsonChars

/-- The type under which an array holds the texts of its items. -/
def itemType : String := "json.RawMessage"

/-- The type of values. -/
def valueType : String := "types.Value"

mutual

/-- Writes a value as JSON. An object takes the texts of its members as they are, and an array only
those of its items that are not nested too deep. -/
def write : Value → Except Json.WriteFault (List Char)
  | object _ entries => do .ok ('{' :: (← writeMembers true entries) ++ ['}'])
  | array _ items => do
    let texts ← (← writeItems items).mapM (Json.acceptPart itemType)
    .ok ('[' :: [','].intercalate texts ++ [']'])
  | other => .ok other.jsonChars

def writeMembers (first : Bool) : List (String × Value) → Except Json.WriteFault (List Char)
  | [] => .ok []
  | (key, value) :: rest =>
    if value.isSkipped then writeMembers first rest
    else do
      let text ← write value
      let later ← writeMembers false rest
      .ok ((if first then [] else [',']) ++ Text.quoted key ++ ':' :: text ++ later)

def writeItems : List Value → Except Json.WriteFault (List (List Char))
  | [] => .ok []
  | item :: rest => do .ok ((← write item) :: (← writeItems rest))

end

mutual

/-- A form that shows the content of containers, quotes text and leaves keys as they are. -/
def debug : Value → String
  | text s => String.ofList (Text.quoted s)
  | array _ items => "[" ++ ", ".intercalate (debugItems items) ++ "]"
  | object _ entries => "\x7b" ++ ", ".intercalate (debugMembers entries) ++ "\x7d"
  | function f => "[Function: " ++ f.name ++ "]"
  | other => other.toText

def debugItems : List Value → List String
  | [] => []
  | item :: rest => debug item :: debugItems rest

def debugMembers : List (String × Value) → List String
  | [] => []
  | (key, value) :: rest => (key ++ ": " ++ debug value) :: debugMembers rest

end

end ExprTree.Value
