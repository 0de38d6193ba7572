import ExprTree.Eval

/-!
Where in a tree an evaluation looks. It visits the operands of a node and their operands, but
neither the name behind a dot nor anything below a node that cannot be evaluated.
-/
namespace ExprTree.Node

/-- The parts of a node that are evaluated before the node itself, in their order. -/
def operands : Node → List Node
  | member object property true => [object, property]
  | member object _ false => [object]
  | binary _ left right => [left, right]
  | unary _ argument _ => [argument]
  | call callee arguments => callee :: arguments
  | _ => []

/-- Whether the node has one of the six shapes that can be evaluated. -/
def isExpression : Node → Bool
  | literal _ | identifier _ | member .. | binary .. | unary .. | call .. => true
  | _ => false

/-- A node that stands in a tree where an evaluation would visit it. -/
inductive EvaluatedIn (part : Node) : Node → Prop where
  | self : part.EvaluatedIn part
  | operand {node operand : Node} (member : operand ∈ node.operands)
      (below : part.EvaluatedIn operand) : part.EvaluatedIn node

theorem EvaluatedIn.trans {part node root : Node} (inner : part.EvaluatedIn node)
    (outer : node.EvaluatedIn root) : part.EvaluatedIn root := by
  induction outer with
  | self => exact inner
  | operand member _ ih => exact .operand member ih

/-- The operands of a visited node are visited too. -/
theorem EvaluatedIn.operand_of {part operand root : Node} (visited : part.EvaluatedIn root)
    (member : operand ∈ part.operands) : operand.EvaluatedIn root :=
  trans (.operand member .self) visited

end ExprTree.Node
