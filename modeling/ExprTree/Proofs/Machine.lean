import ExprTree.Proofs.HostCalls

/-!
Evaluation as a run of linear code on a stack of values. The code of a tree lists what is done with
it, operands first and from left to right, so the order of all effects can be read off the code.
Main statement: evaluating a tree and running its code end alike, with the same calls of the host.
-/
namespace ExprTree

/-- One step of linear code over a stack of values. -/
inductive Instruction where
  | push (value : Value)
  | load (name : String)
  | fail (failure : Failure)
  | member
  | binary (operator : String)
  | unary (operator : String)
  /-- Takes so many arguments and, below them, the callee, which messages call `shown`. -/
  | call (count : Nat) (shown : String)

/-- Why a run of linear code stops before its end. -/
inductive Halt where
  | failed (failure : Failure)
  /-- An instruction found fewer values than it takes. -/
  | underflow

namespace Machine

/-- Puts a result on the stack. -/
def pushed (stack : List Value) : Except Failure Value → Except Halt (List Value)
  | .ok value => .ok (value :: stack)
  | .error failure => .error (.failed failure)

/-- Calls what stands below the arguments; whether that is a function is looked at only now. -/
def call (invoke : Invoke σ) (shown : String) (args : List Value) (target : Value)
    (stack : List Value) (host : σ) : Except Halt (List Value) × σ :=
  match target with
  | .function callable =>
    let (result, later) := (invoke callable args).outcome host
    (pushed stack result, later)
  | _ => (.error (.failed (.notCallable shown)), host)

/-- Executes one instruction. -/
def step (invoke : Invoke σ) (scope : Scope) (instruction : Instruction) (stack : List Value)
    (host : σ) : Except Halt (List Value) × σ :=
  match instruction, stack with
  | .push value, stack => (.ok (value :: stack), host)
  | .load name, stack => (.ok (scope.lookup name :: stack), host)
  | .fail failure, _ => (.error (.failed failure), host)
  | .member, key :: base :: stack => (pushed stack (base.member key), host)
  | .binary operator, right :: left :: stack =>
    (pushed stack (applyBinary operator left right), host)
  | .unary operator, argument :: stack => (pushed stack (applyUnary operator argument), host)
  | .call count shown, stack =>
    match stack.drop count with
    | target :: rest => call invoke shown (stack.take count).reverse target rest host
    | [] => (.error .underflow, host)
  | _, _ => (.error .underflow, host)

/-- Executes instructions in order and stops at the first one that fails. -/
def execute (invoke : Invoke σ) (scope : Scope) :
    List Instruction → List Value → σ → Except Halt (List Value) × σ
  | [], stack, host => (.ok stack, host)
  | instruction :: rest, stack, host =>
    match step invoke scope instruction stack host with
    | (.ok next, later) => execute invoke scope rest next later
    | (.error halt, later) => (.error halt, later)

end Machine

namespace Node

/-- The code behind a dot: the name itself is the key, and only an identifier has one. -/
def lineariseName : Node → List Instruction
  | .identifier name => [.push (.text name), .member]
  | other => [.fail (.propertyName other.tag)]

mutual

/-- The linear code of a tree: operands from left to right, then what is done with them. A shape
that cannot be evaluated is one failing instruction. -/
def linearise : Node → List Instruction
  | .literal value => [.push value]
  | .identifier name => [.load name]
  | .member object property true => object.linearise ++ property.linearise ++ [.member]
  | .member object property false => object.linearise ++ property.lineariseName
  | .binary operator left right => left.linearise ++ right.linearise ++ [.binary operator]
  | .unary operator argument _ => argument.linearise ++ [.unary operator]
  | .call callee arguments =>
    callee.linearise ++ lineariseAll arguments ++ [.call arguments.length callee.calleeName]
  | other => [.fail (.unsupportedNode other.tag)]

def lineariseAll : List Node → List Instruction
  | [] => []
  | node :: rest => node.linearise ++ lineariseAll rest

end

end Node

namespace Machine

/-- Goes on with the value of a computation, or halts with its failure. -/
def resume (next : α → σ → Except Halt (List Value) × σ) :
    Except Failure α × σ → Except Halt (List Value) × σ
  | (.ok a, later) => next a later
  | (.error failure, later) => (.error (.failed failure), later)

private theorem resume_bind (next : β → σ → Except Halt (List Value) × σ) (action : Eval σ α)
    (body : α → Eval σ β) (host : σ) :
    resume next ((action >>= body).outcome host) =
      resume (fun a later => resume next ((body a).outcome later)) (action.outcome host) := by
  rw [Eval.outcome_bind]
  rcases action.outcome host with ⟨result, later⟩
  cases result <;> rfl

/-- An instruction that pushes a result goes on like that result. -/
theorem execute_pushed {invoke : Invoke σ} {scope : Scope} {instruction : Instruction}
    {stack rest : List Value} {host later : σ} {result : Except Failure Value}
    (stepped : step invoke scope instruction stack host = (pushed rest result, later))
    (code : List Instruction) :
    execute invoke scope (instruction :: code) stack host =
      resume (fun value later => execute invoke scope code (value :: rest) later)
        (result, later) := by
  cases result <;> simp [execute, stepped, pushed, resume]

/-- The arguments of a call lie on the stack last first. -/
theorem step_call (invoke : Invoke σ) (scope : Scope) (shown : String) (values : List Value)
    (target : Value) (stack : List Value) (host : σ) :
    step invoke scope (.call values.length shown) (values.reverse ++ target :: stack) host =
      call invoke shown values target stack host := by
  have lower : (values.reverse ++ target :: stack).drop values.length = target :: stack := by
    rw [List.drop_append_of_le_length (by simp), List.drop_of_length_le (by simp)]
    rfl
  have upper : (values.reverse ++ target :: stack).take values.length = values.reverse := by
    rw [List.take_append_of_le_length (by simp), List.take_of_length_le (by simp)]
  simp only [step, lower, upper, List.reverse_reverse]

end Machine

open Machine

variable (invoke : Invoke σ) (scope : Scope)

/-- There is one value for each of the evaluated nodes. -/
theorem length_of_evaluateAll {nodes : List Node} {host later : σ} {values : List Value}
    (ended : (evaluateAll invoke scope nodes).outcome host = (.ok values, later)) :
    values.length = nodes.length := by
  induction nodes generalizing host values later with
  | nil =>
    simp only [evaluateAll, Eval.outcome_pure, Prod.mk.injEq, Except.ok.injEq] at ended
    simp [← ended.1]
  | cons node rest ih =>
    rw [evaluateAll] at ended
    obtain ⟨value, middle, _, others⟩ := Eval.exists_of_outcome_bind ended
    obtain ⟨tail, last, found, same⟩ := Eval.exists_of_outcome_bind others
    simp only [Eval.outcome_pure, Prod.mk.injEq, Except.ok.injEq] at same
    rw [← same.1, List.length_cons, List.length_cons, ih found]

/-- A call goes on like its callee applied to its arguments, both of which are at hand. -/
theorem execute_call {arguments : List Node} {values : List Value}
    (counted : values.length = arguments.length) (callee : Node) (target : Value)
    (code : List Instruction) (stack : List Value) (host : σ) :
    execute invoke scope (.call arguments.length callee.calleeName :: code)
        (values.reverse ++ target :: stack) host =
      resume (fun value later => execute invoke scope code (value :: stack) later)
        (Eval.outcome
          (match target with
            | .function callable => invoke callable values
            | _ => throw (.notCallable callee.calleeName)) host) := by
  rw [← counted]
  cases target with
  | function callable => exact execute_pushed (step_call ..) code
  | _ => simp [execute, step_call, call, resume]

private theorem execute_lineariseName (property : Node) (base : Value) (code : List Instruction)
    (stack : List Value) (host : σ) :
    execute invoke scope (property.lineariseName ++ code) (base :: stack) host =
      resume (fun value later => execute invoke scope code (value :: stack) later)
        (Eval.outcome (do
          let key ← propertyKey property
          Eval.ofExcept (base.member key)) host) := by
  cases property with
  | identifier name =>
    rw [propertyKey, pure_bind, Eval.outcome_ofExcept]
    exact execute_pushed rfl code
  | _ => rfl

mutual

/-- The code of a tree, followed by any other code, runs like that code with the value of the tree
on the stack. -/
theorem execute_linearise (node : Node) (code : List Instruction) (stack : List Value)
    (host : σ) :
    execute invoke scope (node.linearise ++ code) stack host =
      resume (fun value later => execute invoke scope code (value :: stack) later)
        ((evaluate invoke scope node).outcome host) := by
  match node with
  | .literal value => rfl
  | .identifier name => rfl
  | .member object property true =>
    simp only [Node.linearise, List.append_assoc, evaluate_computed, resume_bind]
    rw [execute_linearise object]
    congr 1
    funext base later
    rw [execute_linearise property]
    congr 1
    funext key last
    rw [Eval.outcome_ofExcept]
    exact execute_pushed rfl code
  | .member object property false =>
    simp only [Node.linearise, List.append_assoc, evaluate_dotted, resume_bind]
    rw [execute_linearise object]
    congr 1
    funext base later
    rw [← resume_bind]
    exact execute_lineariseName invoke scope property base code stack later
  | .binary operator left right =>
    simp only [Node.linearise, List.append_assoc, evaluate, resume_bind]
    rw [execute_linearise left]
    congr 1
    funext l later
    rw [execute_linearise right]
    congr 1
    funext r last
    rw [Eval.outcome_ofExcept]
    exact execute_pushed rfl code
  | .unary operator argument leading =>
    simp only [Node.linearise, List.append_assoc, evaluate, resume_bind]
    rw [execute_linearise argument]
    congr 1
    funext value later
    rw [Eval.outcome_ofExcept]
    exact execute_pushed rfl code
  | .call callee arguments =>
    simp only [Node.linearise, List.append_assoc, evaluate, resume_bind]
    rw [execute_linearise callee]
    congr 1
    funext target later
    rw [execute_lineariseAll arguments]
    cases ended : (evaluateAll invoke scope arguments).outcome later with
    | mk result last =>
      cases result with
      | error failure => rfl
      | ok values =>
        have counted := length_of_evaluateAll invoke scope ended
        exact execute_call invoke scope counted callee target code stack last
  | .hole | .function .. | .block _ | .returns _ | .statement _ | .arrow .. | .sequence _
  | .unknown _ => rfl

private theorem execute_lineariseAll (nodes : List Node) (code : List Instruction)
    (stack : List Value)
    (host : σ) :
    execute invoke scope (Node.lineariseAll nodes ++ code) stack host =
      resume (fun values later => execute invoke scope code (values.reverse ++ stack) later)
        ((evaluateAll invoke scope nodes).outcome host) := by
  match nodes with
  | [] => rfl
  | node :: rest =>
    simp only [Node.lineariseAll, List.append_assoc, evaluateAll, resume_bind]
    rw [execute_linearise node]
    congr 1
    funext value later
    rw [execute_lineariseAll rest]
    congr 1
    funext values last
    simp [resume]

end

/-- Recording changes neither result nor host and adds at most the call of the instruction. -/
theorem step_recorded (instruction : Instruction) (stack : List Value) (host : σ)
    (calls : List HostCall) :
    ∃ made, step invoke.recorded scope instruction stack (host, calls) =
        ((step invoke scope instruction stack host).1,
          (step invoke scope instruction stack host).2, calls ++ made) ∧
      FailedCallIsLast made fun failure =>
        (step invoke scope instruction stack host).1 = .error (.failed failure) := by
  have silent : ∀ result : Except Halt (List Value),
      ∃ made, (result, host, calls) = (result, host, calls ++ made) ∧
        FailedCallIsLast made fun failure => result = .error (.failed failure) :=
    fun result => ⟨[], by simp, .nil _⟩
  unfold step
  split
  case h_7 count shown =>
    split
    · rename_i target rest below
      cases target with
      | function callable =>
        let args := (stack.take count).reverse
        refine ⟨[⟨callable, args, ((invoke callable args).outcome host).1⟩], rfl, .singleton ?_⟩
        intro failure failed
        simp only at failed
        simp only [call, args] at failed ⊢
        rw [failed, pushed]
      | _ => exact silent _
    · exact silent _
  all_goals exact silent _

private theorem execute_recorded (code : List Instruction) (stack : List Value) (host : σ)
    (calls : List HostCall) :
    ∃ made, execute invoke.recorded scope code stack (host, calls) =
        ((execute invoke scope code stack host).1, (execute invoke scope code stack host).2,
          calls ++ made) ∧
      FailedCallIsLast made fun failure =>
        (execute invoke scope code stack host).1 = .error (.failed failure) := by
  induction code generalizing stack host calls with
  | nil => exact ⟨[], by simp [execute], .nil _⟩
  | cons instruction rest ih =>
    obtain ⟨made, stepped, decided⟩ := step_recorded invoke scope instruction stack host calls
    rcases plain : step invoke scope instruction stack host with ⟨result, later⟩
    rw [plain] at stepped decided
    cases result with
    | error halt =>
      refine ⟨made, ?_, ?_⟩
      · simp only [execute, stepped, plain]
      · simpa only [execute, plain] using decided
    | ok next =>
      obtain ⟨others, executed, last⟩ := ih next later (calls ++ made)
      refine ⟨made ++ others, ?_, ?_⟩
      · simp only [execute, stepped, plain, executed, List.append_assoc]
      · simp only [execute, plain]
        exact .append (by simpa using decided) last

/-- Running the code of a tree on an empty stack leaves the value of the tree alone on it. -/
theorem execute_linearise_alone (node : Node) (host : σ) :
    execute invoke scope node.linearise [] host =
      (pushed [] ((evaluate invoke scope node).outcome host).1,
        ((evaluate invoke scope node).outcome host).2) := by
  have followed := execute_linearise invoke scope node [] [] host
  rw [List.append_nil] at followed
  rw [followed]
  rcases (evaluate invoke scope node).outcome host with ⟨result, later⟩
  cases result <;> rfl

private theorem pushed_injective (stack : List Value) : Function.Injective (pushed stack) := by
  intro first second same
  cases first <;> cases second <;> simp_all [pushed]

/-- Evaluating a tree is running its linear code on an empty stack: both end with the same value or
the same failure, leave the host in the same state and make the same calls of it in the same order.
The run stops at the first instruction that fails, so a call that fails is the last one, and its
failure is the one that is reported. Recording the calls changes nothing else. -/
theorem evaluate_eq_execute (node : Node) (host : σ) :
    let seen := (evaluate invoke.recorded scope node).outcome (host, [])
    execute invoke.recorded scope node.linearise [] (host, []) = (pushed [] seen.1, seen.2) ∧
      FailedCallIsLast seen.2.2 (fun failure => seen.1 = .error failure) ∧
      (evaluate invoke scope node).outcome host = (seen.1, seen.2.1) := by
  intro seen
  have ran := execute_linearise_alone invoke.recorded scope node (host, [])
  obtain ⟨made, recorded, decided⟩ := execute_recorded invoke scope node.linearise [] host []
  rw [execute_linearise_alone invoke scope] at recorded decided
  obtain ⟨sameResult, sameHost⟩ := Prod.mk.inj (ran.symm.trans recorded)
  have result := pushed_injective [] sameResult
  refine ⟨ran, ?_, ?_⟩
  · intro before call after failure split failed
    rw [sameHost] at split
    obtain ⟨rfl, ended⟩ := decided before call after failure split failed
    exact ⟨rfl, result.trans (pushed_injective [] ended)⟩
  · rw [result, sameHost]

end ExprTree
