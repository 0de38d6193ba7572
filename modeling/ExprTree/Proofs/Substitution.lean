import ExprTree.Proofs.Agreement
import ExprTree.Proofs.Entries

/-!
Applying a header is evaluating its body with the arguments put in place of the parameters. A name
is replaced where it would be looked up, never behind a dot, and parameters that share a name take
the argument of the last of them.
-/
namespace ExprTree

namespace Node

mutual

/-- Puts literals in place of the bound names that an evaluation would look up. -/
def substitute (bound : String → Option Value) : Node → Node
  | .identifier name =>
    match bound name with
    | some value => .literal value
    | none => .identifier name
  | .member object property true =>
    .member (object.substitute bound) (property.substitute bound) true
  | .member object property false => .member (object.substitute bound) property false
  | .binary operator left right =>
    .binary operator (left.substitute bound) (right.substitute bound)
  | .unary operator argument leading => .unary operator (argument.substitute bound) leading
  | .call callee arguments => .call (callee.substitute bound) (substituteAll bound arguments)
  | other => other

def substituteAll (bound : String → Option Value) : List Node → List Node
  | [] => []
  | node :: rest => node.substitute bound :: substituteAll bound rest

end

end Node

namespace Header

/-- The last place at which a name stands. -/
def lastPlace? (name : String) : List String → Option Nat
  | [] => none
  | param :: rest =>
    match lastPlace? name rest with
    | some place => some (place + 1)
    | none => if param = name then some 0 else none

/-- What a parameter name stands for: the argument at the last place of the name, undefined where
the arguments end before it, and nothing for a name that is no parameter. -/
def argumentFor (params : List String) (args : List Value) (name : String) : Option Value :=
  (lastPlace? name params).map fun place => args[place]?.getD .undefined

private theorem pairs_cons (param : String) (rest : List String) (args : List Value) :
    bind.pairs (param :: rest) args =
      (param, args[0]?.getD .undefined) :: bind.pairs rest args.tail := by
  cases args <;> rfl

private theorem get?_bind (params : List String) (args : List Value) (name : String) :
    Entries.get? (bind params args) name = argumentFor params args name := by
  unfold bind
  induction params generalizing args with
  | nil => rfl
  | cons param rest ih =>
    rw [pairs_cons, Entries.get?_ofPairs_cons, ih]
    unfold argumentFor
    rw [lastPlace?]
    cases lastPlace? name rest with
    | none => by_cases same : param = name <;> simp [same]
    | some place => simp

/-- Parameters hide what the scope around them binds. -/
theorem lookup_bind (params : List String) (args : List Value) (outer : Scope) (name : String) :
    (Scope.layer (bind params args) outer).lookup name =
      (argumentFor params args name).getD (outer.lookup name) := by
  rw [Scope.lookup, get?_bind]
  cases argumentFor params args name <;> rfl

end Header

open Eval

variable (invoke : Invoke σ) {inner outer : Scope} {bound : String → Option Value}

mutual

/-- Looking names up in a scope with further bindings agrees with having put them into the tree. -/
theorem evaluate_substitute
    (layered : ∀ name, inner.lookup name = (bound name).getD (outer.lookup name)) (node : Node) :
    AgreesWith (evaluate invoke inner node) (evaluate invoke outer (node.substitute bound)) := by
  match node with
  | .identifier name =>
    rw [evaluate, layered, Node.substitute]
    cases bound name <;> exact .refl _
  | .member object property true =>
    rw [Node.substitute, evaluate_computed, evaluate_computed]
    refine .bind (evaluate_substitute layered object) fun base => ?_
    exact .bind (evaluate_substitute layered property) fun key => .refl _
  | .member object property false =>
    rw [Node.substitute, evaluate_dotted, evaluate_dotted]
    exact .bind (evaluate_substitute layered object) fun base => .refl _
  | .binary operator left right =>
    rw [Node.substitute, evaluate, evaluate]
    refine .bind (evaluate_substitute layered left) fun l => ?_
    exact .bind (evaluate_substitute layered right) fun r => .refl _
  | .unary operator argument leading =>
    rw [Node.substitute, evaluate, evaluate]
    exact .bind (evaluate_substitute layered argument) fun value => .refl _
  | .call callee arguments =>
    rw [Node.substitute, evaluate, evaluate]
    refine .bind (evaluate_substitute layered callee) fun target => ?_
    refine .bind (evaluateAll_substitute layered arguments) fun values => ?_
    cases target with
    | function callable => exact .refl _
    | _ => exact .notCallable _ _
  | .literal _ | .hole | .function .. | .block _ | .returns _ | .statement _ | .arrow ..
  | .sequence _ | .unknown _ => exact .refl _

private theorem evaluateAll_substitute
    (layered : ∀ name, inner.lookup name = (bound name).getD (outer.lookup name))
    (nodes : List Node) :
    AgreesWith (evaluateAll invoke inner nodes)
      (evaluateAll invoke outer (Node.substituteAll bound nodes)) := by
  match nodes with
  | [] => exact .refl _
  | node :: rest =>
    rw [Node.substituteAll, evaluateAll, evaluateAll]
    refine .bind (evaluate_substitute layered node) fun value => ?_
    exact .bind (evaluateAll_substitute layered rest) fun values => .refl _

end

/-- Applying a header to arguments ends like the evaluation of its body in the outer scope with the
arguments put in place of the parameters, and makes the same calls of the host in the same order.
At most the name that a message gives a callee differs. -/
theorem apply_eq_evaluate_substitute (header : Header) (args : List Value) (outer : Scope)
    (host : σ) :
    let body := header.body.substitute (Header.argumentFor header.params args)
    let applied := (header.apply invoke.recorded args outer).outcome (host, [])
    let evaluated := (evaluate invoke.recorded outer body).outcome (host, [])
    SameButCallee applied.1 evaluated.1 ∧ applied.2 = evaluated.2 := by
  intro body applied evaluated
  have layered := Header.lookup_bind header.params args outer
  exact evaluate_substitute invoke.recorded layered header.body (host, [])

end ExprTree
