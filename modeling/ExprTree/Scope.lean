import ExprTree.Value

/-! Scopes: layers of bindings, of which the innermost that has a name decides. -/
namespace ExprTree

inductive Scope where
  | empty
  | layer (vars : Entries Value) (outer : Scope)

namespace Scope

/-- The value of a name, undefined where no layer binds it. -/
def lookup : Scope → String → Value
  | empty, _ => .undefined
  | layer vars outer, name =>
    match Entries.get? vars name with
    | some value => value
    | none => outer.lookup name

/-- A scope of one layer. -/
def ofVars (vars : Entries Value) : Scope :=
  layer vars empty

end Scope

end ExprTree
