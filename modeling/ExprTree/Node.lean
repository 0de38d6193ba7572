import ExprTree.Value

/-!
Expression trees. A tree made by hand may lack a node anywhere a node belongs: `hole` stands there.
Declarations carry parameter names, `none` for a parameter that is missing.
-/
namespace ExprTree

inductive Node where
  | hole
  | literal (value : Value)
  | identifier (name : String)
  | member (object property : Node) (computed : Bool)
  | binary (operator : String) (left right : Node)
  | unary (operator : String) (argument : Node) (leading : Bool)
  | call (callee : Node) (arguments : List Node)
  | function (name : Option String) (params : List (Option String)) (body : Option (List Node))
  | block (body : List Node)
  | returns (argument : Node)
  | statement (expression : Node)
  | arrow (params : List (Option String)) (body : Node)
  | sequence (expressions : List Node)
  | unknown (tag : String)

instance : Inhabited Node := ⟨.hole⟩

namespace Node

/-- The name of a node's shape in documents. -/
def tag : Node → String
  | hole => "<nil>"
  | literal _ => "Literal"
  | identifier _ => "Identifier"
  | member .. => "MemberExpression"
  | binary .. => "BinaryExpression"
  | unary .. => "UnaryExpression"
  | call .. => "CallExpression"
  | function .. => "FunctionDeclaration"
  | block _ => "BlockStatement"
  | returns _ => "ReturnStatement"
  | statement _ => "ExpressionStatement"
  | arrow .. => "ArrowFunctionExpression"
  | sequence _ => "SequenceExpression"
  | unknown tag => tag

end Node

end ExprTree
