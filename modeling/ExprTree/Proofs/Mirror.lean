import ExprTree.Proofs.Decode
import ExprTree.Proofs.HostCalls
import ExprTree.Proofs.Substitution

/-!
Evaluation over data. A scope of data holds nothing that could be called, and where it is replaced
by a sorted copy of it, every tree that a document spells evaluates to the sorted copy of what it
evaluated to before, or fails as it did.
-/
namespace ExprTree

namespace Eval

/-- Two computations that leave the host alone: the first ends like the second with the value
transformed, and the values of the second are good. -/
def Mirrors (transform : α → α) (good : α → Prop) (mirrored action : Eval σ α) : Prop :=
  ∀ host, ∃ result, action.outcome host = (result, host) ∧
    mirrored.outcome host = (result.map transform, host) ∧ ∀ a, result = .ok a → good a

theorem Mirrors.throw (transform : α → α) (good : α → Prop) (failure : Failure) :
    Mirrors transform good (throw failure : Eval σ α) (throw failure) :=
  fun _ => ⟨.error failure, rfl, rfl, fun _ same => by cases same⟩

theorem Mirrors.ofExcept {transform : α → α} {good : α → Prop} {mirrored result : Except Failure α}
    (same : mirrored = result.map transform) (valid : ∀ a, result = .ok a → good a) :
    Mirrors transform good (ofExcept mirrored : Eval σ α) (ofExcept result) := by
  intro host
  exact ⟨result, outcome_ofExcept .., by rw [outcome_ofExcept, same], valid⟩

theorem Mirrors.pure {transform : α → α} {good : α → Prop} {mirrored value : α}
    (same : mirrored = transform value) (valid : good value) :
    Mirrors transform good (pure mirrored : Eval σ α) (pure value) := by
  intro host
  refine ⟨.ok value, rfl, by rw [same]; rfl, ?_⟩
  rintro a ⟨⟩
  exact valid

theorem Mirrors.bind {transform : α → α} {good : α → Prop} {mirrored action : Eval σ α}
    {change : β → β} {fine : β → Prop} {other next : α → Eval σ β}
    (start : Mirrors transform good mirrored action)
    (rest : ∀ a, good a → Mirrors change fine (other (transform a)) (next a)) :
    Mirrors change fine (mirrored >>= other) (action >>= next) := by
  intro host
  obtain ⟨result, ended, mirrorEnded, valid⟩ := start host
  cases result with
  | error failure =>
    refine ⟨.error failure, outcome_bind_error ended, outcome_bind_error mirrorEnded, ?_⟩
    intro a same
    cases same
  | ok a =>
    obtain ⟨last, ended', mirrorEnded', valid'⟩ := rest a (valid a rfl) host
    refine ⟨last, ?_, ?_, valid'⟩
    · rw [outcome_bind_ok ended, ended']
    · rw [outcome_bind_ok mirrorEnded, mirrorEnded']

end Eval

open Eval

variable {known : Ref → Prop} {move : Ref → Ref}

private theorem Value.IsConstant.sorted_eq {v : Value} (constant : v.IsConstant) :
    v.sorted move = v := by
  cases v <;> first | rfl | cases constant

private theorem Value.IsConstant.isData {v : Value} (constant : v.IsConstant) : v.IsData known := by
  cases v <;> trivial

/-- A scope in which names stand for the sorted forms of data. -/
structure Scope.Mirrors (known : Ref → Prop) (move : Ref → Ref) (mirrored scope : Scope) :
    Prop where
  lookup : ∀ name, mirrored.lookup name = (scope.lookup name).sorted move
  data : ∀ name, (scope.lookup name).IsData known

variable (invoke : Invoke σ) {mirrored scope : Scope}

mutual

/-- In a scope of data nothing can be called, and every node that a document spells evaluates to
the sorted form of what it would evaluate to. -/
theorem evaluate_mirrors (apart : Value.KeepsApart known move)
    (bindings : Scope.Mirrors known move mirrored scope) (node : Node) (formed : node.WellFormed) :
    Mirrors (Value.sorted move) (Value.IsData known) (evaluate invoke mirrored node)
      (evaluate invoke scope node) := by
  match node with
  | .literal value =>
    have constant : value.IsConstant := formed
    exact .pure constant.sorted_eq.symm constant.isData
  | .identifier name => exact .pure (bindings.lookup name) (bindings.data name)
  | .member object property true =>
    rw [evaluate_computed, evaluate_computed]
    refine .bind (evaluate_mirrors apart bindings object formed.1) fun base data => ?_
    refine .bind (evaluate_mirrors apart bindings property formed.2) fun key _ => ?_
    exact .ofExcept (Value.member_sorted data key) fun value => Value.member_isData data
  | .member object property false =>
    rw [evaluate_dotted, evaluate_dotted]
    refine .bind (evaluate_mirrors apart bindings object formed.1) fun base data => ?_
    have named : Mirrors (σ := σ) (Value.sorted move) (Value.IsData known) (propertyKey property)
        (propertyKey property) := by
      cases property with
      | identifier name => exact .pure rfl trivial
      | _ => exact .throw _ _ _
    refine .bind named fun key _ => ?_
    exact .ofExcept (Value.member_sorted data key) fun value => Value.member_isData data
  | .binary operator left right =>
    rw [evaluate, evaluate]
    refine .bind (evaluate_mirrors apart bindings left formed.1) fun l leftData => ?_
    refine .bind (evaluate_mirrors apart bindings right formed.2) fun r rightData => ?_
    exact .ofExcept (applyBinary_sorted apart operator leftData rightData)
      fun value => applyBinary_isData leftData rightData
  | .unary operator argument leading =>
    rw [evaluate, evaluate]
    refine .bind (evaluate_mirrors apart bindings argument formed.1) fun v _ => ?_
    exact .ofExcept (applyUnary_sorted operator v) fun value => applyUnary_isData
  | .call callee arguments =>
    rw [evaluate, evaluate]
    refine .bind (evaluate_mirrors apart bindings callee formed.1) fun target data => ?_
    refine .bind (evaluateAll_mirrors apart bindings arguments formed.2) fun values _ => ?_
    -- Data hold no functions, so the call fails on both sides, and with the same name of the callee.
    cases target with
    | function callable => cases data
    | _ => exact .throw _ _ _
  | .hole | .function .. | .block _ | .returns _ | .statement _ | .arrow .. | .sequence _
  | .unknown _ => exact .throw _ _ _

private theorem evaluateAll_mirrors (apart : Value.KeepsApart known move)
    (bindings : Scope.Mirrors known move mirrored scope) (nodes : List Node)
    (formed : Node.AllWellFormed nodes) :
    Mirrors (List.map (Value.sorted move)) (fun values => ∀ value ∈ values, value.IsData known)
      (evaluateAll invoke mirrored nodes) (evaluateAll invoke scope nodes) := by
  match nodes with
  | [] => exact .pure rfl (by simp)
  | node :: rest =>
    rw [evaluateAll, evaluateAll]
    refine .bind (evaluate_mirrors apart bindings node formed.1) fun value data => ?_
    refine .bind (evaluateAll_mirrors apart bindings rest formed.2) fun values others => ?_
    exact .pure rfl (by simpa using ⟨data, others⟩)

end

namespace Header

private theorem returned_wellFormed {body : List Node} {node : Node}
    (formed : Node.AllWellFormed body)
    (read : returned body = .ok node) : node.WellFormed ∨ node = .literal .undefined := by
  induction body with
  | nil => cases read
  | cons statement rest ih =>
    unfold returned at read
    split at read
    · rename_i same
      cases same
    · cases read
      exact .inr rfl
    · rename_i argument others bare same
      cases same
      cases read
      left
      cases node <;> first | exact formed.1 | exact absurd rfl bare
    · rename_i first others _ _ same
      cases same
      exact ih formed.2 read

private theorem ofArrow_wellFormed {params : List (Option String)} {body : Node} {header : Header}
    (formed : body.WellFormed) (read : ofArrow params body = .ok header) :
    header.body.WellFormed ∨ header.body = .literal .undefined := by
  cases body with
  | hole => cases formed
  | block statements =>
    obtain ⟨result, found, rest⟩ := exists_of_bind_eq_ok read
    obtain ⟨names, _, last⟩ := exists_of_bind_eq_ok rest
    cases last
    exact returned_wellFormed formed found
  | _ =>
    obtain ⟨result, found, rest⟩ := exists_of_bind_eq_ok read
    obtain ⟨names, _, last⟩ := exists_of_bind_eq_ok rest
    cases last
    cases found
    exact .inl formed

/-- What a header of a document returns is an expression of the document or undefined. -/
theorem ofNode_wellFormed {node : Node} {header : Header} (formed : node.WellFormed)
    (read : ofNode node = .ok header) :
    header.body.WellFormed ∨ header.body = .literal .undefined := by
  unfold ofNode at read
  split at read
  · cases read
  · obtain ⟨result, found, rest⟩ := exists_of_bind_eq_ok read
    obtain ⟨names, _, last⟩ := exists_of_bind_eq_ok rest
    cases last
    exact returned_wellFormed formed.2 found
  · cases read
  · exact ofArrow_wellFormed formed.2 read
  · cases read
  · exact ofArrow_wellFormed formed.2 read
  · cases read

private theorem argumentFor_map (f : Value → Value) (kept : f .undefined = .undefined)
    (params : List String) (args : List Value) (name : String) :
    argumentFor params (args.map f) name = (argumentFor params args name).map f := by
  unfold argumentFor
  cases lastPlace? name params with
  | none => rfl
  | some place =>
    rw [Option.map_some, Option.map_some, Option.map_some, List.getElem?_map]
    cases args[place]? with
    | none => exact congrArg some kept.symm
    | some value => rfl

private theorem argumentFor_isData {params : List String} {args : List Value} {name : String}
    {value : Value} (data : ∀ arg ∈ args, arg.IsData known)
    (found : argumentFor params args name = some value) : value.IsData known := by
  obtain ⟨place, _, rfl⟩ := Option.map_eq_some_iff.mp found
  cases here : args[place]? with
  | none => exact trivial
  | some arg => exact data arg (List.mem_of_getElem? here)

private theorem bind_mirrors (bindings : Scope.Mirrors known move mirrored scope)
    (params : List String)
    {args : List Value} (data : ∀ arg ∈ args, arg.IsData known) :
    Scope.Mirrors known move (.layer (bind params (args.map (Value.sorted move))) mirrored)
      (.layer (bind params args) scope) := by
  constructor
  · intro name
    rw [lookup_bind, lookup_bind, argumentFor_map _ rfl, bindings.lookup]
    cases argumentFor params args name <;> rfl
  · intro name
    rw [lookup_bind]
    cases found : argumentFor params args name with
    | none => exact bindings.data name
    | some value => exact argumentFor_isData data found

theorem apply_mirrors (apart : Value.KeepsApart known move)
    (bindings : Scope.Mirrors known move mirrored scope) {header : Header}
    (formed : header.body.WellFormed ∨ header.body = .literal .undefined) {args : List Value}
    (data : ∀ arg ∈ args, arg.IsData known) :
    Mirrors (Value.sorted move) (Value.IsData known)
      (header.apply invoke (args.map (Value.sorted move)) mirrored)
      (header.apply invoke args scope) := by
  unfold Header.apply
  rcases formed with formed | bare
  · exact evaluate_mirrors invoke apart (bind_mirrors bindings header.params data) _ formed
  · rw [bare]
    exact .pure rfl trivial

end Header

end ExprTree
