import ExprTree.Proofs.Surfaces

/-! Handling a request, case by case: it is no request, its tree is evaluated, or it is applied to
arguments if it is a header. -/
namespace ExprTree.Request

/-- How the fault of a value without a result reads. -/
def HandleFault.message : HandleFault → String
  | request fault => fault.message
  | run fault => fault.message

/-- How handling a request ends whose evaluation ended in a given way. -/
def evaluated (ended : Except Failure Value × σ) : Except HandleFault Value × σ :=
  (ended.1.mapError fun failure => .run (.failed failure), ended.2)

theorem evaluated_eq_failed_iff {ended : Except Failure Value × σ} {failure : Failure} :
    (evaluated ended).1 = .error (.run (.failed failure)) ↔ ended.1 = .error failure := by
  obtain ⟨result, later⟩ := ended
  cases result <;> simp [evaluated, Except.mapError]

section Handling

variable (invoke : Invoke σ) (registry : Registry) {value : Value} (host : σ)

theorem handle_of_error {fault : RequestFault} (refused : ofValue value = .error fault) :
    handle invoke registry value host = (.error (.request fault), host) := by
  rw [handle, refused]

section Read

variable {request : Request} (read : ofValue value = .ok request)
include read

/-- Without arguments the tree is evaluated. -/
theorem handle_of_bare (bare : request.args = none) :
    handle invoke registry value host =
      evaluated ((evaluate invoke (request.scope registry) request.node).outcome host) := by
  simp only [handle, read, run, bare, Run.outcome_ofEval, evaluated]
  cases ((evaluate invoke (request.scope registry) request.node).outcome host).1 <;> rfl

variable {args : List Value} (given : request.args = some args)
include given

theorem handle_of_headless {fault : HeaderFault}
    (refused : Header.ofNode request.node = .error fault) :
    handle invoke registry value host = (.error (.run (.header fault)), host) := by
  simp only [handle, read, run, given, refused]
  rfl

/-- With arguments the tree is applied, if it is a header. -/
theorem handle_of_header {header : Header} (spelled : Header.ofNode request.node = .ok header) :
    handle invoke registry value host =
      evaluated ((header.apply invoke args (request.scope registry)).outcome host) := by
  simp only [handle, read, run, given, spelled, Run.outcome_ofEval, evaluated]
  cases ((header.apply invoke args (request.scope registry)).outcome host).1 <;> rfl

end Read

/-- What handling a value can come to, and when. -/
inductive Handled (value : Value) : Except HandleFault Value × σ → Prop where
  | unread {fault : RequestFault} (refused : ofValue value = .error fault) :
      Handled value (.error (.request fault), host)
  | headless {request : Request} {args : List Value} {fault : HeaderFault}
      (read : ofValue value = .ok request) (given : request.args = some args)
      (refused : Header.ofNode request.node = .error fault) :
      Handled value (.error (.run (.header fault)), host)
  | bare {request : Request} (read : ofValue value = .ok request) (bare : request.args = none) :
      Handled value
        (evaluated ((evaluate invoke (request.scope registry) request.node).outcome host))
  | header {request : Request} {args : List Value} {header : Header}
      (read : ofValue value = .ok request) (given : request.args = some args)
      (spelled : Header.ofNode request.node = .ok header) :
      Handled value
        (evaluated ((header.apply invoke args (request.scope registry)).outcome host))

theorem handled (value : Value) :
    Handled invoke registry host value (handle invoke registry value host) := by
  cases read : ofValue value with
  | error fault =>
    rw [handle_of_error invoke registry host read]
    exact .unread read
  | ok request =>
    cases given : request.args with
    | none =>
      rw [handle_of_bare invoke registry host read given]
      exact .bare read given
    | some args =>
      cases spelled : Header.ofNode request.node with
      | error fault =>
        rw [handle_of_headless invoke registry host read given spelled]
        exact .headless read given spelled
      | ok header =>
        rw [handle_of_header invoke registry host read given spelled]
        exact .header read given spelled

end Handling

end ExprTree.Request
