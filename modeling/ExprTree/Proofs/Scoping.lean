import ExprTree.Proofs.Entries
import ExprTree.Proofs.HostCalls
import ExprTree.Proofs.Positions
import ExprTree.Registry

/-!
What an evaluation sees of its scope: the values of the names that it looks up, and nothing else. So
it cannot tell a name that is bound to undefined from one that is not bound, and however scopes are
layered, they are as good as one map.
-/
namespace ExprTree

open Eval

namespace Entries

/-- The entries of two maps in one, where those of the upper hide those of the lower. -/
def override (upper lower : Entries α) : Entries α :=
  upper.foldr (fun entry map => set map entry.1 entry.2) lower

private theorem get?_override (upper lower : Entries α) (name : String) :
    get? (override upper lower) name = (get? upper name).or (get? lower name) := by
  induction upper with
  | nil => rfl
  | cons entry rest ih =>
    obtain ⟨key, value⟩ := entry
    have step : override ((key, value) :: rest) lower = set (override rest lower) key value := rfl
    rw [step, get?_set, get?_cons]
    by_cases here : key = name
    · rw [if_pos here, if_pos here, Option.some_or]
    · rw [if_neg here, if_neg here, ih]

end Entries

namespace Scope

private theorem lookup_layer (vars : Entries Value) (outer : Scope) (name : String) :
    (layer vars outer).lookup name = (Entries.get? vars name).getD (outer.lookup name) := by
  rw [lookup]
  cases Entries.get? vars name <;> rfl

private theorem lookup_ofVars (vars : Entries Value) (name : String) :
    (ofVars vars).lookup name = (Entries.get? vars name).getD .undefined :=
  lookup_layer vars empty name

/-- All bindings of a scope in one map. -/
def bindings : Scope → Entries Value
  | empty => []
  | layer vars outer => Entries.override vars outer.bindings

/-- A scope is as good as the one map of its bindings. -/
theorem lookup_ofVars_bindings (scope : Scope) (name : String) :
    (ofVars scope.bindings).lookup name = scope.lookup name := by
  induction scope with
  | empty => rfl
  | layer vars outer ih =>
    rw [lookup_ofVars] at ih
    rw [lookup_ofVars, lookup_layer, bindings, Entries.get?_override, ← ih]
    cases Entries.get? vars name <;> rfl

/-- Where a name is undefined anyway, binding it to undefined changes no name. -/
theorem lookup_layer_undefined {vars : Entries Value} {outer : Scope} {name : String}
    (absent : (layer vars outer).lookup name = .undefined) (other : String) :
    (layer (Entries.set vars name .undefined) outer).lookup other =
      (layer vars outer).lookup other := by
  rw [lookup_layer, Entries.get?_set]
  by_cases same : name = other
  · subst same
    rw [if_pos rfl, absent]
    rfl
  · rw [if_neg same, lookup_layer]

end Scope

/-- Bindings over a registry are as good as one map in which they hide the global ones. -/
theorem Registry.lookup_scope (registry : Registry) (vars : Entries Value) (name : String) :
    (registry.scope vars).lookup name =
      (Scope.ofVars (Entries.override vars registry.globals)).lookup name := by
  rw [scope, Scope.lookup_layer, Scope.lookup_ofVars, Scope.lookup_ofVars, Entries.get?_override]
  cases Entries.get? vars name <;> rfl

section Agreement

variable (invoke : Invoke σ) {first second : Scope}

mutual

/-- An evaluation depends on its scope only through the names that it looks up. -/
theorem evaluate_eq_of_agree (node : Node)
    (agree : ∀ name, (Node.identifier name).EvaluatedIn node →
      first.lookup name = second.lookup name) :
    evaluate invoke first node = evaluate invoke second node := by
  have operand : ∀ part ∈ node.operands, ∀ name, (Node.identifier name).EvaluatedIn part →
      first.lookup name = second.lookup name :=
    fun part member name below => agree name (.operand member below)
  match node with
  | .identifier name => rw [evaluate, evaluate, agree name .self]
  | .member object property true =>
    have base := evaluate_eq_of_agree object (operand object (by simp [Node.operands]))
    have key := evaluate_eq_of_agree property (operand property (by simp [Node.operands]))
    rw [evaluate_computed, evaluate_computed, base, key]
  | .member object property false =>
    have base := evaluate_eq_of_agree object (operand object (by simp [Node.operands]))
    rw [evaluate_dotted, evaluate_dotted, base]
  | .binary operator left right =>
    have one := evaluate_eq_of_agree left (operand left (by simp [Node.operands]))
    have two := evaluate_eq_of_agree right (operand right (by simp [Node.operands]))
    rw [evaluate, evaluate, one, two]
  | .unary operator argument leading =>
    have value := evaluate_eq_of_agree argument (operand argument (by simp [Node.operands]))
    rw [evaluate, evaluate, value]
  | .call callee arguments =>
    have target := evaluate_eq_of_agree callee (operand callee (by simp [Node.operands]))
    have values := evaluateAll_eq_of_agree arguments fun part member =>
      operand part (by simp [Node.operands, member])
    rw [evaluate, evaluate, target, values]
  | .literal _ | .hole | .function .. | .block _ | .returns _ | .statement _ | .arrow ..
  | .sequence _ | .unknown _ => rfl

private theorem evaluateAll_eq_of_agree (nodes : List Node)
    (agree : ∀ node ∈ nodes, ∀ name, (Node.identifier name).EvaluatedIn node →
      first.lookup name = second.lookup name) :
    evaluateAll invoke first nodes = evaluateAll invoke second nodes := by
  match nodes with
  | [] => rfl
  | node :: rest =>
    have value := evaluate_eq_of_agree node (agree node (by simp))
    have values := evaluateAll_eq_of_agree rest fun other member => agree other (by simp [member])
    rw [evaluateAll, evaluateAll, value, values]

end

end Agreement

namespace Scope

/-- Scopes in which every tree does the same over every host: it ends with the same value or the
same failure, and it makes the same calls. -/
def Indistinguishable (first second : Scope) : Prop :=
  ∀ (σ : Type) (invoke : Invoke σ) (node : Node) (host : σ),
    (evaluate invoke.recorded first node).outcome (host, []) =
      (evaluate invoke.recorded second node).outcome (host, [])

/-- To be told apart, scopes have to differ in the value of a name. -/
theorem indistinguishable_iff {first second : Scope} :
    Indistinguishable first second ↔ ∀ name, first.lookup name = second.lookup name := by
  constructor
  · intro same name
    have read := same Unit (fun _ _ => pure .undefined) (.identifier name) ()
    rw [evaluate, evaluate, outcome_pure, outcome_pure] at read
    exact Except.ok.inj (Prod.mk.inj read).1
  · intro agree σ invoke node host
    rw [evaluate_eq_of_agree invoke.recorded node fun name _ => agree name]

end Scope

open Scope in
/-- Two scopes in which the names that a tree looks up stand for the same values give the tree the
same result and the same calls. In particular nothing can tell a name bound to undefined from one
that is not bound, a scope where all names are undefined from the empty one, or bindings over a
scope or a registry from the one map in which they hide the others. -/
theorem evaluate_sees_names_only :
    (∀ (σ : Type) (invoke : Invoke σ) (node : Node) (first second : Scope) (host : σ),
      (∀ name, (Node.identifier name).EvaluatedIn node →
        first.lookup name = second.lookup name) →
      (evaluate invoke.recorded first node).outcome (host, []) =
        (evaluate invoke.recorded second node).outcome (host, [])) ∧
    (∀ vars outer name, (layer vars outer).lookup name = .undefined →
      Indistinguishable (layer (Entries.set vars name .undefined) outer) (layer vars outer)) ∧
    (∀ scope, (∀ name, scope.lookup name = .undefined) → Indistinguishable scope empty) ∧
    (∀ vars outer,
      Indistinguishable (layer vars outer) (ofVars (Entries.override vars outer.bindings))) ∧
    ∀ (registry : Registry) vars,
      Indistinguishable (registry.scope vars)
        (ofVars (Entries.override vars registry.globals)) := by
  refine ⟨?_, ?_, ?_, ?_, ?_⟩
  · intro σ invoke node first second host agree
    rw [evaluate_eq_of_agree invoke.recorded node agree]
  · intro vars outer name absent
    exact indistinguishable_iff.mpr (lookup_layer_undefined absent)
  · intro scope undefined
    exact indistinguishable_iff.mpr undefined
  · intro vars outer
    exact indistinguishable_iff.mpr fun name =>
      (lookup_ofVars_bindings (layer vars outer) name).symm
  · intro registry vars
    exact indistinguishable_iff.mpr (registry.lookup_scope vars)

/-- The tree `x.y[z]`, which looks up `x` and `z` but not `y`. -/
def dottedAndComputed : Node :=
  .member (.member (.identifier "x") (.identifier "y") false) (.identifier "z") true

open Scope in
theorem evaluate_sees_names_only_dotted :
    let record := Value.object (Ref.ofOrigin 1) [("y", .text "ab")]
    let registry : Registry := ⟨[("y", .bool true), ("x", .null)]⟩
    let flat := ofVars [("x", record), ("y", .null), ("z", .number 1)]
    let layered := registry.scope [("z", .number 1), ("x", record)]
    (∀ name, (Node.identifier name).EvaluatedIn dottedAndComputed →
        flat.lookup name = layered.lookup name) ∧
      flat.lookup "y" = .null ∧ layered.lookup "y" = .bool true ∧
      (evaluate Host.plain.invoke.recorded flat dottedAndComputed).outcome (4, []) =
        (evaluate Host.plain.invoke.recorded layered dottedAndComputed).outcome (4, []) ∧
      (ofVars [("x", .null)]).lookup "y" = .undefined ∧
      Indistinguishable (ofVars [("x", .null), ("y", .undefined)]) (ofVars [("x", .null)]) ∧
      Indistinguishable (ofVars []) empty ∧
      Indistinguishable layered
        (ofVars [("y", .bool true), ("x", record), ("z", .number 1)]) := by
  intro record registry flat layered
  obtain ⟨names, absent, undefined, _, merged⟩ := evaluate_sees_names_only
  have agree : ∀ name, (Node.identifier name).EvaluatedIn dottedAndComputed →
      flat.lookup name = layered.lookup name := by
    intro name visited
    have looked : name = "x" ∨ name = "z" := by
      rcases visited with _ | ⟨member, visited⟩
      simp only [dottedAndComputed, Node.operands, List.mem_cons, List.not_mem_nil, or_false]
        at member
      rcases member with rfl | rfl
      · rcases visited with _ | ⟨member, visited⟩
        rw [Node.operands, List.mem_singleton] at member
        subst member
        rcases visited with _ | ⟨member, visited⟩
        · exact .inl rfl
        · cases member
      · rcases visited with _ | ⟨member, visited⟩
        · exact .inr rfl
        · cases member
    rcases looked with rfl | rfl <;> rfl
  exact ⟨agree, rfl, rfl, names Nat _ _ flat layered 4 agree, rfl,
    absent [("x", .null)] empty "y" rfl, undefined (ofVars []) fun _ => rfl,
    merged registry [("z", .number 1), ("x", record)]⟩

end ExprTree
