import ExprTree.Node
import ExprTree.Value.Convert

/-!
Reading a tree from a value. Every entry of a node object is read on the side, as a node and as a
list of nodes, and the shape that the entry `type` names then picks the readings it needs. What it
does not pick, and the order of the entries, cannot matter.
-/
namespace ExprTree

/-- Where in a document a fault lies, innermost step first. -/
abbrev Place := List Step

def Place.text : Place → String
  | [] => "$"
  | .key name :: outer => Place.text outer ++ "." ++ name
  | .index i :: outer => Place.text outer ++ "[" ++ toString i ++ "]"

/-- Why a value is no tree. -/
inductive NodeFault where
  | notObject (place : Place) (found : Kind)
  | noType (place : Place)
  | literalKind (place : Place) (found : Kind)
  | notText (place : Place)
  | missing (place : Place)
  | notList (place : Place) (found : Kind)
  | notIdentifier (place : Place) (tag : String)
  | notBlock (place : Place) (tag : String)
  | notParameter (place : Place) (tag : String)
  deriving DecidableEq, Repr

def NodeFault.message : NodeFault → String
  | notObject place found => place.text ++ ": expected a node object, got " ++ found.name
  | noType place => place.text ++ ": node is missing a string \"type\" field"
  | literalKind place found =>
    place.text ++ ": unsupported literal value of type " ++ found.name
  | notText place => place.text ++ ": expected a string"
  | missing place => place.text ++ ": missing node"
  | notList place found => place.text ++ ": expected a list of nodes, got " ++ found.name
  | notIdentifier place tag => place.text ++ ": expected Identifier, got " ++ tag
  | notBlock place tag => place.text ++ ": expected BlockStatement, got " ++ tag
  | notParameter place tag =>
    place.text ++ ": only identifier parameters are supported, got " ++ tag

namespace Node

/-- An entry of a node object with what it reads as. -/
structure Reading where
  value : Value
  asNode : Except NodeFault Node
  asList : Except NodeFault (List Node)

/-- The entries of a node object by their names. -/
abbrev Fields := Entries Reading

namespace Fields

/-- The text of a mandatory entry. -/
def text (fields : Fields) (place : Place) (name : String) : Except NodeFault String :=
  match Entries.get? fields name with
  | some { value := .text s, .. } => .ok s
  | _ => .error (.notText (.key name :: place))

/-- The node of an entry, `none` where it is absent, null or undefined. -/
def node? (fields : Fields) (name : String) : Except NodeFault (Option Node) :=
  match Entries.get? fields name with
  | some reading => if reading.value.isNullish then .ok none else reading.asNode.map some
  | none => .ok none

/-- The node of a mandatory entry. -/
def node (fields : Fields) (place : Place) (name : String) : Except NodeFault Node := do
  match ← fields.node? name with
  | some n => .ok n
  | none => .error (.missing (.key name :: place))

/-- The nodes of a list entry; an absent list is empty. -/
def list (fields : Fields) (name : String) : Except NodeFault (List Node) :=
  match Entries.get? fields name with
  | some reading => reading.asList
  | none => .ok []

/-- Names of identifiers in parameter position. -/
def paramNames (place : Place) (i : Nat) : List Node → Except NodeFault (List (Option String))
  | [] => .ok []
  | identifier name :: rest => do
    let names ← paramNames place (i + 1) rest
    .ok (some name :: names)
  | other :: _ => .error (.notParameter (.index i :: .key "params" :: place) other.tag)

def params (fields : Fields) (place : Place) : Except NodeFault (List (Option String)) := do
  paramNames place 0 (← fields.list "params")

/-- The constant of a literal; nothing there is null. -/
def constant (fields : Fields) (place : Place) : Except NodeFault Value :=
  match ((Entries.get? fields "value").map Reading.value).getD .undefined with
  | .undefined => .ok .null
  | .null => .ok .null
  | .bool b => .ok (.bool b)
  | .number x => .ok (.number x)
  | .text s => .ok (.text s)
  | other => .error (.literalKind (.key "value" :: place) other.kind)

def flag (fields : Fields) (name : String) : Bool :=
  (((Entries.get? fields name).map Reading.value).getD .undefined).truthy

/-- The name of a declaration. -/
def declaredName (fields : Fields) (place : Place) : Except NodeFault (Option String) := do
  match ← fields.node? "id" with
  | none => .ok none
  | some (identifier name) => .ok (some name)
  | some other => .error (.notIdentifier (.key "id" :: place) other.tag)

/-- The statements of a declaration. -/
def declaredBody (fields : Fields) (place : Place) : Except NodeFault (List Node) := do
  match ← fields.node place "body" with
  | block body => .ok body
  | other => .error (.notBlock (.key "body" :: place) other.tag)

/-- The node of the shape that `tag` names; a tag outside the known shapes is kept as it is. -/
def shape (fields : Fields) (place : Place) (tag : String) : Except NodeFault Node :=
  match tag with
  | "Literal" => do .ok (literal (← fields.constant place))
  | "Identifier" => do .ok (identifier (← fields.text place "name"))
  | "MemberExpression" => do
    let object ← fields.node place "object"
    let property ← fields.node place "property"
    .ok (member object property (fields.flag "computed"))
  | "BinaryExpression" => do
    let operator ← fields.text place "operator"
    let left ← fields.node place "left"
    let right ← fields.node place "right"
    .ok (binary operator left right)
  | "UnaryExpression" => do
    let operator ← fields.text place "operator"
    let argument ← fields.node place "argument"
    .ok (unary operator argument true)
  | "CallExpression" => do
    let callee ← fields.node place "callee"
    let arguments ← fields.list "arguments"
    .ok (call callee arguments)
  | "FunctionDeclaration" => do
    let name ← fields.declaredName place
    let params ← fields.params place
    let body ← fields.declaredBody place
    .ok (function name params (some body))
  | "BlockStatement" => do .ok (block (← fields.list "body"))
  | "ReturnStatement" => do .ok (returns ((← fields.node? "argument").getD hole))
  | "ExpressionStatement" => do .ok (statement (← fields.node place "expression"))
  | "ArrowFunctionExpression" => do
    let params ← fields.params place
    let body ← fields.node place "body"
    .ok (arrow params body)
  | "SequenceExpression" => do .ok (sequence (← fields.list "expressions"))
  | other => .ok (unknown other)

end Fields

mutual

/-- The tree that a value at a place spells. -/
def decodeAt (place : Place) : Value → Except NodeFault Node
  | .object _ entries =>
    let fields := readFields place entries
    match Entries.get? entries "type" with
    | some (.text tag) => Fields.shape fields place tag
    | _ => .error (.noType place)
  | other => .error (.notObject place other.kind)

/-- The readings of the entries of a node object. -/
def readFields (place : Place) : List (String × Value) → Fields
  | [] => []
  | (name, value) :: rest =>
    (name, ⟨value, decodeAt (.key name :: place) value, decodeList (.key name :: place) value⟩)
      :: readFields place rest

/-- The trees of an array. -/
def decodeList (place : Place) : Value → Except NodeFault (List Node)
  | .array _ items => decodeItems place 0 items
  | other => .error (.notList place other.kind)

def decodeItems (place : Place) (i : Nat) : List Value → Except NodeFault (List Node)
  | [] => .ok []
  | item :: rest => do
    let first ← decodeAt (.index i :: place) item
    let others ← decodeItems place (i + 1) rest
    .ok (first :: others)

end

/-- The tree that a value spells. -/
def decode (v : Value) : Except NodeFault Node :=
  decodeAt [] v

end Node

end ExprTree
