import ExprTree.Proofs.Agreement

/-!
Dots and brackets. A member behind a dot may be written in brackets, with the text of its name as
the key. Main statement: writing any choice of the dots of a tree in this way changes neither how
its evaluation ends nor the calls it makes of the host.
-/
namespace ExprTree

namespace Node

/-- The choice of positions as it looks from an operand. A position is the path to it: the number of
an operand at every step, counted in the order of evaluation. -/
def under (chosen : List Nat → Bool) (place : Nat) : List Nat → Bool :=
  fun path => chosen (place :: path)

/-- A member of an object behind a dot, in brackets if that is asked for. Only an identifier can be
written in brackets: nothing else behind a dot is a name. -/
def memberBy (brackets : Bool) (object : Node) : Node → Node
  | .identifier name =>
    if brackets then .member object (.literal (.text name)) true
    else .member object (.identifier name) false
  | property => .member object property false

mutual

/-- Writes dots as brackets at the chosen positions, among those that an evaluation visits. -/
def bracket (chosen : List Nat → Bool) : Node → Node
  | .member object property true =>
    .member (object.bracket (under chosen 0)) (property.bracket (under chosen 1)) true
  | .member object property false =>
    memberBy (chosen []) (object.bracket (under chosen 0)) property
  | .binary operator left right =>
    .binary operator (left.bracket (under chosen 0)) (right.bracket (under chosen 1))
  | .unary operator argument leading =>
    .unary operator (argument.bracket (under chosen 0)) leading
  | .call callee arguments =>
    .call (callee.bracket (under chosen 0)) (bracketAll chosen 1 arguments)
  | other => other

/-- The same for operands from a place on. -/
def bracketAll (chosen : List Nat → Bool) (place : Nat) : List Node → List Node
  | [] => []
  | node :: rest => node.bracket (under chosen place) :: bracketAll chosen (place + 1) rest

end

/-- Of `x.y.z` the position of `x.y` alone is written in brackets. -/
example : bracket (fun path => path == [0])
      (.member (.member (.identifier "x") (.identifier "y") false) (.identifier "z") false) =
    .member (.member (.identifier "x") (.literal (.text "y")) true) (.identifier "z") false :=
  rfl

end Node

open Eval

variable (invoke : Invoke σ) (scope : Scope)

/-- In brackets or behind a dot, a name is the same key, and the scope is not asked for it. -/
theorem evaluate_memberBy (brackets : Bool) (object property : Node) :
    evaluate invoke scope (Node.memberBy brackets object property) =
      evaluate invoke scope (.member object property false) := by
  cases property with
  | identifier name =>
    cases brackets with
    | false => rfl
    | true =>
      have text : evaluate invoke scope (.literal (.text name)) =
          (propertyKey (.identifier name) : Eval σ Value) := by
        rw [evaluate, propertyKey]
      rw [Node.memberBy, if_pos rfl, evaluate_computed, evaluate_dotted, text]
  | _ => rfl

mutual

/-- Brackets in place of dots make no difference to an evaluation, at most to the name that a
message gives a callee. -/
theorem evaluate_bracket (chosen : List Nat → Bool) (node : Node) :
    AgreesWith (evaluate invoke scope node) (evaluate invoke scope (node.bracket chosen)) := by
  match node with
  | .member object property true =>
    rw [Node.bracket, evaluate_computed, evaluate_computed]
    refine .bind (evaluate_bracket _ object) fun base => ?_
    exact .bind (evaluate_bracket _ property) fun key => .refl _
  | .member object property false =>
    rw [Node.bracket, evaluate_memberBy, evaluate_dotted, evaluate_dotted]
    exact .bind (evaluate_bracket _ object) fun base => .refl _
  | .binary operator left right =>
    rw [Node.bracket, evaluate, evaluate]
    refine .bind (evaluate_bracket _ left) fun l => ?_
    exact .bind (evaluate_bracket _ right) fun r => .refl _
  | .unary operator argument leading =>
    rw [Node.bracket, evaluate, evaluate]
    exact .bind (evaluate_bracket _ argument) fun value => .refl _
  | .call callee arguments =>
    rw [Node.bracket, evaluate, evaluate]
    refine .bind (evaluate_bracket _ callee) fun target => ?_
    refine .bind (evaluateAll_bracketAll chosen 1 arguments) fun values => ?_
    cases target with
    | function callable => exact .refl _
    | _ => exact .notCallable _ _
  | .literal _ | .identifier _ | .hole | .function .. | .block _ | .returns _ | .statement _
  | .arrow .. | .sequence _ | .unknown _ => exact .refl _

private theorem evaluateAll_bracketAll (chosen : List Nat → Bool) (place : Nat)
    (nodes : List Node) :
    AgreesWith (evaluateAll invoke scope nodes)
      (evaluateAll invoke scope (Node.bracketAll chosen place nodes)) := by
  match nodes with
  | [] => exact .refl _
  | node :: rest =>
    rw [Node.bracketAll, evaluateAll, evaluateAll]
    refine .bind (evaluate_bracket _ node) fun value => ?_
    exact .bind (evaluateAll_bracketAll chosen (place + 1) rest) fun values => .refl _

end

/-- A tree and the tree in which any choice of its dots is written in brackets end alike in every
scope, with the same value or the same failure, and make the same calls of the host in the same
order. At most the name that a message gives a callee differs. -/
theorem dots_are_brackets (chosen : List Nat → Bool) (node : Node) (host : σ) :
    let dotted := (evaluate invoke.recorded scope node).outcome (host, [])
    let bracketed := (evaluate invoke.recorded scope (node.bracket chosen)).outcome (host, [])
    SameButCallee dotted.1 bracketed.1 ∧ dotted.2 = bracketed.2 :=
  evaluate_bracket invoke.recorded scope chosen node (host, [])

end ExprTree
