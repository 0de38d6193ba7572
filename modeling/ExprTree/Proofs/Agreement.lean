import ExprTree.Proofs.HostCalls

/-! Computations that a host cannot tell apart: from every state they end alike and leave the same
state, so they make the same calls. Only the name that a message gives a callee may differ. -/
namespace ExprTree

/-- The same result, or two failures to call something that name it differently. -/
inductive SameButCallee : Except Failure α → Except Failure α → Prop where
  | same (result : Except Failure α) : SameButCallee result result
  | callee (first second : String) :
      SameButCallee (.error (.notCallable first)) (.error (.notCallable second))

namespace Eval

/-- Two computations agree when they end alike in every state of the host. -/
def AgreesWith (first second : Eval σ α) : Prop :=
  ∀ host, SameButCallee (first.outcome host).1 (second.outcome host).1 ∧
    (first.outcome host).2 = (second.outcome host).2

theorem AgreesWith.refl (action : Eval σ α) : AgreesWith action action :=
  fun _ => ⟨.same _, rfl⟩

/-- Two failures to call something agree whatever they call it. -/
theorem AgreesWith.notCallable (first second : String) :
    AgreesWith (throw (.notCallable first) : Eval σ α) (throw (.notCallable second)) :=
  fun _ => ⟨.callee first second, rfl⟩

/-- Sequences agree part by part. -/
theorem AgreesWith.bind {first second : Eval σ α} {next other : α → Eval σ β}
    (start : AgreesWith first second) (rest : ∀ a, AgreesWith (next a) (other a)) :
    AgreesWith (first >>= next) (second >>= other) := by
  intro host
  have begun := start host
  rw [outcome_bind, outcome_bind]
  generalize first.outcome host = one at begun ⊢
  generalize second.outcome host = two at begun ⊢
  obtain ⟨one, later⟩ := one
  obtain ⟨two, last⟩ := two
  obtain ⟨result, left⟩ := begun
  obtain rfl : later = last := left
  cases result with
  | callee a b => exact ⟨.callee a b, rfl⟩
  | same ended =>
    cases one with
    | error failure => exact ⟨.same _, rfl⟩
    | ok a => exact rest a later

end Eval

end ExprTree
