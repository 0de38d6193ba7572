import ExprTree.Eval

/-! What an evaluation shows of its host: how it ends, the state it leaves, and the functions it
called on the way. -/
namespace ExprTree

namespace Eval

/-- How a computation ends and the state in which it leaves the host. -/
def outcome (action : Eval σ α) (host : σ) : Except Failure α × σ :=
  Id.run (action.run.run host)

@[simp] theorem outcome_pure (a : α) (host : σ) :
    (pure a : Eval σ α).outcome host = (.ok a, host) := rfl

@[simp] theorem outcome_throw (failure : Failure) (host : σ) :
    (throw failure : Eval σ α).outcome host = (.error failure, host) := rfl

@[simp] theorem outcome_ofExcept (result : Except Failure α) (host : σ) :
    (ofExcept result : Eval σ α).outcome host = (result, host) := by
  cases result <;> rfl

/-- The second part of a sequence starts where the first one left the host, and not at all after a
failure. -/
theorem outcome_bind (action : Eval σ α) (next : α → Eval σ β) (host : σ) :
    (action >>= next).outcome host =
      match action.outcome host with
      | (.ok a, later) => (next a).outcome later
      | (.error failure, later) => (.error failure, later) := by
  change Id.run ((action >>= next).run.run host) = _
  simp only [ExceptT.run_bind, StateT.run_bind, outcome]
  rcases action.run.run host with ⟨result, later⟩
  cases result <;> rfl

/-- A sequence that ends with a value went through a value of its first part. -/
theorem exists_of_outcome_bind {action : Eval σ α} {next : α → Eval σ β} {host later : σ} {b : β}
    (ended : (action >>= next).outcome host = (.ok b, later)) :
    ∃ a middle, action.outcome host = (.ok a, middle) ∧
      (next a).outcome middle = (.ok b, later) := by
  rw [outcome_bind] at ended
  split at ended
  · rename_i a middle first
    exact ⟨a, middle, first, ended⟩
  · cases ended

theorem outcome_bind_ok {action : Eval σ α} {next : α → Eval σ β} {host later : σ} {a : α}
    (ended : action.outcome host = (.ok a, later)) :
    (action >>= next).outcome host = (next a).outcome later := by
  rw [outcome_bind, ended]

theorem outcome_bind_error {action : Eval σ α} {next : α → Eval σ β} {host later : σ}
    {failure : Failure} (ended : action.outcome host = (.error failure, later)) :
    (action >>= next).outcome host = (.error failure, later) := by
  rw [outcome_bind, ended]

/-- Started where `before` holds, a computation leaves a value and a host for which `after` holds,
or a failure and a host for which `failed` does. -/
def Ensures (action : Eval σ α) (before : σ → Prop) (after : α → σ → Prop)
    (failed : Failure → σ → Prop) : Prop :=
  ∀ host, before host →
    match action.outcome host with
    | (.ok a, later) => after a later
    | (.error failure, later) => failed failure later

variable {before : σ → Prop} {failed : Failure → σ → Prop}

theorem Ensures.pure {after : α → σ → Prop} {a : α} (holds : ∀ host, before host → after a host) :
    (pure a : Eval σ α).Ensures before after failed :=
  fun host start => holds host start

theorem Ensures.throw {after : α → σ → Prop} {failure : Failure}
    (holds : ∀ host, before host → failed failure host) :
    (throw failure : Eval σ α).Ensures before after failed :=
  fun host start => holds host start

theorem Ensures.ofExcept {after : α → σ → Prop} {result : Except Failure α}
    (value : ∀ a, result = .ok a → ∀ host, before host → after a host)
    (failure : ∀ f, result = .error f → ∀ host, before host → failed f host) :
    (ofExcept result : Eval σ α).Ensures before after failed := by
  intro host start
  rw [outcome_ofExcept]
  cases result with
  | ok a => exact value a rfl host start
  | error f => exact failure f rfl host start

/-- What the first part of a sequence ensures of its value is what the second part starts from. -/
theorem Ensures.bind {action : Eval σ α} {next : α → Eval σ β} {middle : α → σ → Prop}
    {after : β → σ → Prop} (first : action.Ensures before middle failed)
    (second : ∀ a, (next a).Ensures (middle a) after failed) :
    (action >>= next).Ensures before after failed := by
  intro host start
  have begun := first host start
  rw [outcome_bind]
  rcases ended : action.outcome host with ⟨result, later⟩
  rw [ended] at begun
  cases result with
  | error failure => exact begun
  | ok a => exact second a later begun

end Eval

theorem evaluate_computed (invoke : Invoke σ) (scope : Scope) (object property : Node) :
    evaluate invoke scope (.member object property true) =
      (do
        let base ← evaluate invoke scope object
        let key ← evaluate invoke scope property
        Eval.ofExcept (base.member key)) := by
  simp only [evaluate, if_true]

theorem evaluate_dotted (invoke : Invoke σ) (scope : Scope) (object property : Node) :
    evaluate invoke scope (.member object property false) =
      (do
        let base ← evaluate invoke scope object
        let key ← propertyKey property
        Eval.ofExcept (base.member key)) := by
  simp only [evaluate, Bool.false_eq_true, if_false]

/-- One call of a function of the host: which one, on which arguments, and how it ended. -/
structure HostCall where
  callable : Callable
  args : List Value
  outcome : Except Failure Value

/-- Runs functions as `invoke` does and keeps the calls in the order in which they were made. -/
def Invoke.recorded (invoke : Invoke σ) : Invoke (σ × List HostCall) := fun callable args =>
  ExceptT.mk fun (host, calls) =>
    let (result, later) := (invoke callable args).outcome host
    (result, later, calls ++ [⟨callable, args, result⟩])

theorem outcome_recorded {invoke : Invoke σ} {callable : Callable} {args : List Value}
    {host later : σ} {result : Except Failure Value}
    (ended : (invoke callable args).outcome host = (result, later)) (calls : List HostCall) :
    (invoke.recorded callable args).outcome (host, calls) =
      (result, later, calls ++ [⟨callable, args, result⟩]) := by
  have unfolded : (invoke.recorded callable args).outcome (host, calls) =
      match (invoke callable args).outcome host with
      | (result, later) => (result, later, calls ++ [⟨callable, args, result⟩]) := rfl
  rw [unfolded, ended]

/-- A call that failed is the last one, and everything ends with its failure. -/
def FailedCallIsLast (calls : List HostCall) (ends : Failure → Prop) : Prop :=
  ∀ before call after failure, calls = before ++ call :: after → call.outcome = .error failure →
    after = [] ∧ ends failure

theorem FailedCallIsLast.nil (ends : Failure → Prop) : FailedCallIsLast [] ends := by
  intro before call after failure split
  simp at split

theorem FailedCallIsLast.singleton {call : HostCall} {ends : Failure → Prop}
    (decides : ∀ failure, call.outcome = .error failure → ends failure) :
    FailedCallIsLast [call] ends := by
  intro before other after failure split failed
  obtain ⟨rfl, same, rfl⟩ : before = [] ∧ call = other ∧ after = [] := by
    cases before with
    | nil => simpa [eq_comm] using split
    | cons first rest => simp at split
  subst other
  exact ⟨rfl, decides failure failed⟩

/-- Calls that all returned may stand before others. -/
theorem FailedCallIsLast.append {first second : List HostCall} {ends : Failure → Prop}
    (returned : FailedCallIsLast first fun _ => False) (last : FailedCallIsLast second ends) :
    FailedCallIsLast (first ++ second) ends := by
  intro before call after failure split failed
  rcases List.append_eq_append_iff.mp split with ⟨middle, _, same⟩ | ⟨middle, same, rest⟩
  · exact last middle call after failure same failed
  · cases middle with
    | nil => exact last [] call after failure rest.symm failed
    | cons other others =>
      obtain ⟨rfl, _⟩ := List.cons.inj rest
      exact False.elim (returned before call others failure same failed).2

end ExprTree
