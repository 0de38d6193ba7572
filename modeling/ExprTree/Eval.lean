import ExprTree.Node.Header
import ExprTree.Operator.Binary
import ExprTree.Operator.Unary
import ExprTree.Scope
import ExprTree.Value.Member

/-!
Evaluation of trees, left to right. Functions belong to the host: calling one may change the host's
state `σ`, which outlives a failure, and the first failure ends the evaluation as it is.
-/
namespace ExprTree

/-- A computation over the host's state that may fail and keeps the state when it does. -/
abbrev Eval (σ α : Type) := ExceptT Failure (StateM σ) α

/-- How the host runs a function on its arguments. -/
abbrev Invoke (σ : Type) := Callable → List Value → Eval σ Value

namespace Eval

def ofExcept : Except Failure α → Eval σ α
  | .ok a => pure a
  | .error failure => throw failure

end Eval

/-- The dotted name of a callee in messages. -/
def Node.calleeName : Node → String
  | .identifier name => name
  | .member object (.identifier name) false => object.calleeName ++ "." ++ name
  | .member object _ _ => object.calleeName ++ "[...]"
  | _ => "expression"

/-- The key behind a dot: the name itself, never what the scope binds to it. -/
def propertyKey : Node → Eval σ Value
  | .identifier name => pure (.text name)
  | other => throw (.propertyName other.tag)

mutual

/-- The value of a tree in a scope. Both operands of every operator are evaluated, and a callee is
looked at only after its arguments. -/
def evaluate (invoke : Invoke σ) (scope : Scope) : Node → Eval σ Value
  | .literal value => pure value
  | .identifier name => pure (scope.lookup name)
  | .member object property computed => do
    let base ← evaluate invoke scope object
    let key ← if computed then evaluate invoke scope property else propertyKey property
    Eval.ofExcept (base.member key)
  | .binary operator left right => do
    let l ← evaluate invoke scope left
    let r ← evaluate invoke scope right
    Eval.ofExcept (applyBinary operator l r)
  | .unary operator argument _ => do
    let value ← evaluate invoke scope argument
    Eval.ofExcept (applyUnary operator value)
  | .call callee arguments => do
    let target ← evaluate invoke scope callee
    let values ← evaluateAll invoke scope arguments
    match target with
    | .function callable => invoke callable values
    | _ => throw (.notCallable callee.calleeName)
  | other => throw (.unsupportedNode other.tag)

def evaluateAll (invoke : Invoke σ) (scope : Scope) : List Node → Eval σ (List Value)
  | [] => pure []
  | node :: rest => do
    let value ← evaluate invoke scope node
    let values ← evaluateAll invoke scope rest
    pure (value :: values)

end

/-- The bindings of parameters to arguments. A missing argument is undefined, a surplus one is
dropped, and of equal names the last counts. -/
def Header.bind (params : List String) (args : List Value) : Entries Value :=
  Entries.ofPairs (pairs params args)
where
  pairs : List String → List Value → List (String × Value)
    | [], _ => []
    | name :: names, [] => (name, .undefined) :: pairs names []
    | name :: names, arg :: args => (name, arg) :: pairs names args

/-- Evaluates the returned expression of a header with its parameters bound over a scope. -/
def Header.apply (invoke : Invoke σ) (header : Header) (args : List Value) (outer : Scope) :
    Eval σ Value :=
  evaluate invoke (.layer (Header.bind header.params args) outer) header.body

end ExprTree
