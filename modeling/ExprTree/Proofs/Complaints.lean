import ExprTree.Proofs.Faults
import ExprTree.Registry

/-! Which failures are held against a request. Neither a tree nor a standard function raises one:
they all come from the host's own functions. -/
namespace ExprTree

private theorem Builtin.complaint?_of_call {b : Builtin} {origin : Nat} {args : List Value}
    {failure : Failure} (failed : b.call origin args = .error failure) :
    failure.complaint? = none := by
  have keys : ∀ value, keysOf origin value = .error failure → failure.complaint? = none := by
    rintro (_ | _ | _ | _ | _ | _ | _ | _) ended <;> cases ended <;> rfl
  have values : ∀ value, valuesOf origin value = .error failure → failure.complaint? = none := by
    rintro (_ | _ | _ | _ | _ | _ | _ | _) ended <;> cases ended <;> rfl
  cases b with
  | jsonStringify =>
    simp only [call, stringify] at failed
    split at failed
    · cases failed
    · generalize Except.map Value.text _ = shown at failed
      cases shown with
      | ok text => cases failed
      | error fault =>
        cases failed
        rfl
  | objectKeys => exact keys _ failed
  | objectValues => exact values _ failed
  | jsonParse | decodeComponent | toBase64 | ofBase64 =>
    simp only [call] at failed
    split at failed <;> cases failed
    rfl
  | _ => cases failed

/-- A complaint marks a request that is malformed rather than one whose evaluation failed. The
functions of such a host keep to this: what they raise while a tree is evaluated is never one. -/
def Host.Uncomplaining (host : Host σ) : Prop :=
  ∀ handle args failure before later,
    (host.call handle args).outcome before = (.error failure, later) → failure.complaint? = none

section Uncomplaining

variable {host : Host σ} (quiet : host.Uncomplaining)
include quiet

theorem Host.Uncomplaining.invoke {callable : Callable} {args : List Value} {failure : Failure}
    {before later : σ}
    (failed : (host.invoke callable args).outcome before = (.error failure, later)) :
    failure.complaint? = none := by
  unfold Host.invoke at failed
  split at failed
  · rw [Eval.outcome_bind] at failed
    split at failed
    · rw [Eval.outcome_ofExcept] at failed
      exact Builtin.complaint?_of_call (congrArg Prod.fst failed)
    · rename_i numbered
      cases numbered
  · exact quiet _ _ _ _ _ failed

/-- Evaluating a tree raises no complaint that no function raises. -/
theorem Host.Uncomplaining.evaluate {scope : Scope} {node : Node} {failure : Failure}
    {start later : σ × List HostCall}
    (failed : (ExprTree.evaluate host.invoke.recorded scope node).outcome start =
      (.error failure, later)) :
    failure.complaint? = none := by
  rcases evaluate_accountable host.invoke scope node .self failure later failed with
    ⟨callable, args, before, raised, _⟩ | ⟨kind, explained⟩
  · exact quiet.invoke raised
  · exact explained.complaint?_eq

end Uncomplaining

end ExprTree
