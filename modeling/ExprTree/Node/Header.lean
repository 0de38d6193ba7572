import ExprTree.Node

/-! Function headers: the parameter names of a declaration or arrow and the expression it returns.
Nothing is evaluated to read one. -/
namespace ExprTree

structure Header where
  name : String
  params : List String
  body : Node

/-- Why a node is no header that can be applied. -/
inductive HeaderFault where
  | notHeader (tag : String)
  | withoutBody (tag : String)
  | withoutExpression
  | notArrow (tag : String)
  | noReturn
  | parameter (place : Nat)
  deriving DecidableEq, Repr

def HeaderFault.message : HeaderFault → String
  | notHeader tag => "not a function header: " ++ tag
  | withoutBody tag => "not a function header: " ++ tag ++ " without a body"
  | withoutExpression => "not a function header: ExpressionStatement without an expression"
  | notArrow tag => "expression statement does not hold an arrow function (got " ++ tag ++ ")"
  | noReturn => "function body has no return statement"
  | parameter place => "parameter " ++ toString place ++ " is not an identifier"

namespace Header

/-- What the first return statement of a block returns; a bare one returns undefined. -/
def returned : List Node → Except HeaderFault Node
  | [] => .error .noReturn
  | .returns .hole :: _ => .ok (.literal .undefined)
  | .returns argument :: _ => .ok argument
  | _ :: rest => returned rest

def paramNames (place : Nat) : List (Option String) → Except HeaderFault (List String)
  | [] => .ok []
  | none :: _ => .error (.parameter place)
  | some name :: rest => do
    let names ← paramNames (place + 1) rest
    .ok (name :: names)

def ofArrow (params : List (Option String)) (body : Node) : Except HeaderFault Header := do
  let result ←
    match body with
    | .hole => .error (.withoutBody (Node.arrow params body).tag)
    | .block statements => returned statements
    | expression => .ok expression
  .ok ⟨"", ← paramNames 0 params, result⟩

/-- Reads a declaration, an arrow, or a statement that holds an arrow. -/
def ofNode (node : Node) : Except HeaderFault Header :=
  match node with
  | .function _ _ none => .error (.withoutBody node.tag)
  | .function name params (some body) => do
    let result ← returned body
    .ok ⟨name.getD "", ← paramNames 0 params, result⟩
  | .statement .hole => .error .withoutExpression
  | .statement (.arrow params body) => ofArrow params body
  | .statement other => .error (.notArrow other.tag)
  | .arrow params body => ofArrow params body
  | other => .error (.notHeader other.tag)

end Header

end ExprTree
