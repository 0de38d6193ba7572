import ExprTree.Proofs.HostCalls
import ExprTree.Proofs.Positions

/-!
What can go wrong in an evaluation. Main statement: a failure is what the last call of the host
raised, passed on as it is, or a place of the tree that was reached explains it. In a tree of evaluable
shapes, known operators and proper names only two explanations are left: a member of null or
undefined, and a call of something that is no function.
-/
namespace ExprTree

def BinaryOperator.symbols : List String :=
  ["+", "-", "*", "/", "%", "**", "==", "!=", "===", "!==", "<", "<=", ">", ">=", "&&", "||", "|",
    "&", "^", "<<", ">>", ">>>"]

def UnaryOperator.symbols : List String :=
  ["-", "+", "!", "~", "typeof", "void"]

private theorem BinaryOperator.ofSymbol?_eq_none_iff {symbol : String} :
    ofSymbol? symbol = none ↔ symbol ∉ symbols := by
  unfold ofSymbol?
  split <;> simp_all [symbols]

private theorem UnaryOperator.ofSymbol?_eq_none_iff {symbol : String} :
    ofSymbol? symbol = none ↔ symbol ∉ symbols := by
  unfold ofSymbol?
  split <;> simp_all [symbols]

example : BinaryOperator.symbols.length = 22 ∧ UnaryOperator.symbols.length = 6 := by decide

private theorem applyBinary_eq_error {symbol : String} {left right : Value} {failure : Failure}
    (failed : applyBinary symbol left right = .error failure) :
    failure = .unsupportedBinary symbol ∧ symbol ∉ BinaryOperator.symbols := by
  unfold applyBinary at failed
  split at failed
  · cases failed
  · rename_i unlisted
    cases failed
    exact ⟨rfl, BinaryOperator.ofSymbol?_eq_none_iff.mp unlisted⟩

private theorem applyUnary_eq_error {symbol : String} {argument : Value} {failure : Failure}
    (failed : applyUnary symbol argument = .error failure) :
    failure = .unsupportedUnary symbol ∧ symbol ∉ UnaryOperator.symbols := by
  unfold applyUnary at failed
  split at failed
  · cases failed
  · rename_i unlisted
    cases failed
    exact ⟨rfl, UnaryOperator.ofSymbol?_eq_none_iff.mp unlisted⟩

/-- Only null and undefined refuse to have a member read. -/
theorem Value.member_eq_error {base key : Value} {failure : Failure}
    (failed : base.member key = .error failure) :
    base.isNullish = true ∧ failure = .nullishBase base.kind key.toText := by
  unfold member memberNamed at failed
  split at failed
  · cases failed
    exact ⟨rfl, rfl⟩
  · cases failed
    exact ⟨rfl, rfl⟩
  · cases failed
  · split at failed <;> cases failed
  · split at failed <;> cases failed
  · cases failed

/-- The last call that was made raised the failure, and nothing ran behind it. -/
def RaisedLast (invoke : Invoke σ) (failure : Failure) (later : σ × List HostCall) : Prop :=
  ∃ callable args before, (invoke callable args).outcome before = (.error failure, later.1) ∧
    later.2.getLast? = some ⟨callable, args, .error failure⟩

section Lists

variable {invoke : Invoke σ} {scope : Scope} {host middle later : σ}

private theorem outcome_evaluateAll_nil (invoke : Invoke σ) (scope : Scope) (host : σ) :
    (evaluateAll invoke scope []).outcome host = (.ok [], host) := rfl

private theorem outcome_evaluateAll_singleton {node : Node} {value : Value}
    (ended : (evaluate invoke scope node).outcome host = (.ok value, later)) :
    (evaluateAll invoke scope [node]).outcome host = (.ok [value], later) := by
  rw [evaluateAll, Eval.outcome_bind_ok ended]
  rfl

private theorem outcome_evaluateAll_append {front rest : List Node} {values others : List Value}
    (first : (evaluateAll invoke scope front).outcome host = (.ok values, middle))
    (second : (evaluateAll invoke scope rest).outcome middle = (.ok others, later)) :
    (evaluateAll invoke scope (front ++ rest)).outcome host = (.ok (values ++ others), later) := by
  induction front generalizing values host with
  | nil =>
    cases first
    exact second
  | cons node nodes ih =>
    rw [evaluateAll] at first
    obtain ⟨value, here, ended, rest⟩ := Eval.exists_of_outcome_bind first
    obtain ⟨found, there, all, last⟩ := Eval.exists_of_outcome_bind rest
    cases last
    rw [List.cons_append, evaluateAll, Eval.outcome_bind_ok ended, Eval.outcome_bind_ok (ih all)]
    rfl

end Lists

namespace Node

/-- In the evaluation of a tree that starts in one state of the host, that of a part begins in
another: the operands in front of it all had values. -/
inductive Begins (invoke : Invoke σ) (scope : Scope) (root : Node) (start : σ) :
    Node → σ → Prop where
  | self : root.Begins invoke scope start root start
  | operand {node operand : Node} {front rest : List Node} {values : List Value} {host later : σ}
      (outer : root.Begins invoke scope start node host)
      (before : (evaluateAll invoke scope front).outcome host = (.ok values, later))
      (place : node.operands = front ++ operand :: rest) :
      root.Begins invoke scope start operand later

private theorem Begins.evaluatedIn {invoke : Invoke σ} {scope : Scope} {root part : Node}
    {start host : σ}
    (begins : root.Begins invoke scope start part host) : part.EvaluatedIn root := by
  induction begins with
  | self => exact .self
  | operand _ _ place ih => exact ih.operand_of (by simp [place])

section Begins

variable {invoke : Invoke σ} {scope : Scope} {root node : Node} {start host later : σ}
  (outer : root.Begins invoke scope start node host)
include outer

theorem Begins.first {operand : Node} {rest : List Node} (place : node.operands = operand :: rest) :
    root.Begins invoke scope start operand host :=
  .operand outer (outcome_evaluateAll_nil ..) place

theorem Begins.second {first operand : Node} {rest : List Node} {value : Value}
    (place : node.operands = first :: operand :: rest)
    (before : (evaluate invoke scope first).outcome host = (.ok value, later)) :
    root.Begins invoke scope start operand later :=
  .operand outer (outcome_evaluateAll_singleton before) place

end Begins

/-- A place of a tree that was reached in its evaluation, and where a value has the wrong type: a
member is read of null or undefined, or something is called that is no function. -/
inductive Mistyped (invoke : Invoke σ) (scope : Scope) (root : Node) (start : σ) : Failure → Prop
    where
  | nullishBase {object property : Node} {computed : Bool} {base key : Value} {host middle later : σ}
      (visited : root.Begins invoke scope start (member object property computed) host)
      (read : (evaluate invoke scope object).outcome host = (.ok base, middle))
      (nullish : base.isNullish = true)
      (named : (if computed then evaluate invoke scope property
        else propertyKey property).outcome middle = (.ok key, later)) :
      root.Mistyped invoke scope start (.nullishBase base.kind key.toText)
  | notCallable {callee : Node} {arguments : List Node} {target : Value} {values : List Value}
      {host middle later : σ}
      (visited : root.Begins invoke scope start (call callee arguments) host)
      (read : (evaluate invoke scope callee).outcome host = (.ok target, middle))
      (given : (evaluateAll invoke scope arguments).outcome middle = (.ok values, later))
      (other : target.kind ≠ .function) :
      root.Mistyped invoke scope start (.notCallable callee.calleeName)

/-- A place of a tree that was reached in its evaluation and accounts for a failure of a kind. -/
inductive Explains (invoke : Invoke σ) (scope : Scope) (root : Node) (start : σ) :
    String → Failure → Prop where
  | shape {part : Node} {host : σ} (visited : root.Begins invoke scope start part host)
      (outside : part.isExpression = false) :
      root.Explains invoke scope start "UnsupportedNodeType" (.unsupportedNode part.tag)
  | binary {operator : String} {left right : Node} {host : σ}
      (visited : root.Begins invoke scope start (binary operator left right) host)
      (unlisted : operator ∉ BinaryOperator.symbols) :
      root.Explains invoke scope start "UnsupportedBinaryOperator" (.unsupportedBinary operator)
  | unary {operator : String} {argument : Node} {leading : Bool} {host : σ}
      (visited : root.Begins invoke scope start (unary operator argument leading) host)
      (unlisted : operator ∉ UnaryOperator.symbols) :
      root.Explains invoke scope start "UnsupportedUnaryOperator" (.unsupportedUnary operator)
  | propertyName {object property : Node} {host : σ}
      (visited : root.Begins invoke scope start (member object property false) host)
      (nameless : ∀ name, property ≠ identifier name) :
      root.Explains invoke scope start Failure.typeErrorKind (.propertyName property.tag)
  | mistyped {failure : Failure} (fault : root.Mistyped invoke scope start failure) :
      root.Explains invoke scope start Failure.typeErrorKind failure

/-- A node with an evaluable shape, an operator of the tables and, behind a dot, a name. -/
def Regular : Node → Prop
  | literal _ | identifier _ | member _ _ true | call .. => True
  | member _ property false => ∃ name, property = identifier name
  | binary operator _ _ => operator ∈ BinaryOperator.symbols
  | unary operator _ _ => operator ∈ UnaryOperator.symbols
  | _ => False

/-- A tree of regular nodes, as far as an evaluation visits it. -/
inductive Supported : Node → Prop where
  | intro {node : Node} (regular : node.Regular)
      (operands : ∀ operand ∈ node.operands, operand.Supported) : node.Supported

private theorem Supported.regular_of_visited {root part : Node} (supported : root.Supported)
    (visited : part.EvaluatedIn root) : part.Regular := by
  induction visited with
  | self =>
    obtain ⟨regular, _⟩ := supported
    exact regular
  | operand member _ ih =>
    obtain ⟨_, operands⟩ := supported
    exact ih (operands _ member)

theorem Regular.isExpression {node : Node} (regular : node.Regular) : node.isExpression = true := by
  cases node <;> first | rfl | cases regular

section Explains

variable {invoke : Invoke σ} {scope : Scope} {root : Node} {start : σ} {kind : String}
  {failure : Failure}

private theorem Explains.mistyped_of_supported
    (explained : root.Explains invoke scope start kind failure) (supported : root.Supported) :
    root.Mistyped invoke scope start failure := by
  cases explained with
  | shape visited outside =>
    have inside := (supported.regular_of_visited visited.evaluatedIn).isExpression
    rw [outside] at inside
    cases inside
  | binary visited unlisted =>
    exact absurd (supported.regular_of_visited visited.evaluatedIn) unlisted
  | unary visited unlisted =>
    exact absurd (supported.regular_of_visited visited.evaluatedIn) unlisted
  | propertyName visited nameless =>
    obtain ⟨name, same⟩ := supported.regular_of_visited visited.evaluatedIn
    exact absurd same (nameless name)
  | mistyped fault => exact fault

private theorem Mistyped.kind?_eq (fault : root.Mistyped invoke scope start failure) :
    failure.kind? = some Failure.typeErrorKind := by
  cases fault <;> rfl

/-- A failure is reported under the kind of its explanation. -/
theorem Explains.kind?_eq (explained : root.Explains invoke scope start kind failure) :
    failure.kind? = some kind := by
  cases explained with
  | mistyped fault => exact fault.kind?_eq
  | _ => rfl

/-- No place of a tree holds anything against the request. -/
theorem Explains.complaint?_eq (explained : root.Explains invoke scope start kind failure) :
    failure.complaint? = none := by
  cases explained with
  | mistyped fault => cases fault <;> rfl
  | _ => rfl

end Explains

end Node

open Node Eval

variable (invoke : Invoke σ) (scope : Scope)

/-- Started in a state, a computation fails only with what the last call raised or what a place of
the tree explains. -/
def Accountable (root : Node) (start : σ × List HostCall) (action : Eval (σ × List HostCall) α)
    (host : σ × List HostCall) : Prop :=
  ∀ failure later, action.outcome host = (.error failure, later) →
    RaisedLast invoke failure later ∨ ∃ kind, root.Explains invoke.recorded scope start kind failure

section Steps

variable {invoke scope} {root : Node} {start host : σ × List HostCall}

theorem Accountable.pure (a : α) : Accountable invoke scope root start (pure a) host := by
  intro failure later failed
  cases failed

theorem Accountable.throw {kind : String} {failure : Failure}
    (explained : root.Explains invoke.recorded scope start kind failure) :
    Accountable invoke scope root start (throw failure : Eval (σ × List HostCall) α) host := by
  intro failure later failed
  cases failed
  exact .inr ⟨kind, explained⟩

theorem Accountable.ofExcept {result : Except Failure α}
    (explained : ∀ failure, result = .error failure →
      ∃ kind, root.Explains invoke.recorded scope start kind failure) :
    Accountable invoke scope root start (Eval.ofExcept result) host := by
  intro failure later failed
  rw [outcome_ofExcept] at failed
  exact .inr (explained failure (congrArg Prod.fst failed))

theorem Accountable.bind {action : Eval (σ × List HostCall) α}
    {next : α → Eval (σ × List HostCall) β} (first : Accountable invoke scope root start action host)
    (second : ∀ a later, action.outcome host = (.ok a, later) →
      Accountable invoke scope root start (next a) later) :
    Accountable invoke scope root start (action >>= next) host := by
  intro failure last failed
  rcases ended : action.outcome host with ⟨_ | a, later⟩
  · rw [outcome_bind_error ended] at failed
    cases failed
    exact first failure last ended
  · rw [outcome_bind_ok ended] at failed
    exact second a later ended failure last failed

/-- A call of the host passes on what it raises. -/
theorem Accountable.recorded (callable : Callable) (args : List Value) :
    Accountable invoke scope root start (invoke.recorded callable args) host := by
  intro failure later failed
  obtain ⟨state, calls⟩ := host
  rcases ended : (invoke callable args).outcome state with ⟨result, left⟩
  rw [outcome_recorded ended] at failed
  cases failed
  exact .inl ⟨callable, args, state, ended, by simp⟩

end Steps

mutual

theorem evaluate_accountable {root : Node} {start : σ × List HostCall} (node : Node)
    {host : σ × List HostCall} (visited : root.Begins invoke.recorded scope start node host) :
    Accountable invoke scope root start (evaluate invoke.recorded scope node) host := by
  match node with
  | .literal _ | .identifier _ => exact .pure _
  | .member object property true =>
    rw [evaluate_computed]
    refine .bind (evaluate_accountable object (visited.first rfl)) fun base middle read => ?_
    refine .bind (evaluate_accountable property (visited.second rfl read)) fun key later named => ?_
    refine .ofExcept fun failure failed => ?_
    obtain ⟨nullish, rfl⟩ := Value.member_eq_error failed
    exact ⟨_, .mistyped (.nullishBase visited read nullish named)⟩
  | .member object property false =>
    rw [evaluate_dotted]
    refine .bind (evaluate_accountable object (visited.first rfl)) fun base middle read => ?_
    refine .bind ?_ fun key later named => ?_
    · cases property with
      | identifier name => exact .pure _
      | _ => exact .throw (.propertyName visited fun name same => by cases same)
    · refine .ofExcept fun failure failed => ?_
      obtain ⟨nullish, rfl⟩ := Value.member_eq_error failed
      exact ⟨_, .mistyped (.nullishBase visited read nullish named)⟩
  | .binary operator left right =>
    rw [evaluate]
    refine .bind (evaluate_accountable left (visited.first rfl)) fun l middle read => ?_
    refine .bind (evaluate_accountable right (visited.second rfl read)) fun r _ _ => ?_
    refine .ofExcept fun failure failed => ?_
    obtain ⟨rfl, unlisted⟩ := applyBinary_eq_error failed
    exact ⟨_, .binary visited unlisted⟩
  | .unary operator argument leading =>
    rw [evaluate]
    refine .bind (evaluate_accountable argument (visited.first rfl)) fun value _ _ => ?_
    refine .ofExcept fun failure failed => ?_
    obtain ⟨rfl, unlisted⟩ := applyUnary_eq_error failed
    exact ⟨_, .unary visited unlisted⟩
  | .call callee arguments =>
    rw [evaluate]
    refine .bind (evaluate_accountable callee (visited.first rfl)) fun target middle read => ?_
    refine .bind (evaluateAll_accountable arguments visited (outcome_evaluateAll_singleton read) rfl)
      fun values later given => ?_
    cases target with
    | function callable => exact .recorded callable values
    | _ => exact .throw (.mistyped (.notCallable visited read given (by simp [Value.kind])))
  | .hole | .function .. | .block _ | .returns _ | .statement _ | .arrow .. | .sequence _
  | .unknown _ => exact .throw (.shape visited rfl)

private theorem evaluateAll_accountable {root : Node} {start : σ × List HostCall}
    (nodes : List Node)
    {node : Node} {outside host : σ × List HostCall} {front : List Node} {values : List Value}
    (visited : root.Begins invoke.recorded scope start node outside)
    (before : (evaluateAll invoke.recorded scope front).outcome outside = (.ok values, host))
    (place : node.operands = front ++ nodes) :
    Accountable invoke scope root start (evaluateAll invoke.recorded scope nodes) host := by
  match nodes with
  | [] => exact .pure _
  | first :: rest =>
    rw [evaluateAll]
    refine .bind (evaluate_accountable first (visited.operand before place))
      fun value middle read => ?_
    have both := outcome_evaluateAll_append before (outcome_evaluateAll_singleton read)
    refine .bind (evaluateAll_accountable rest visited both (by simp [place])) fun _ _ _ => ?_
    exact .pure _

end

/-- A failed evaluation ends with what the last call of the host raised, or a place of the tree that
was reached explains the failure and its kind. In a supported tree the explanation is a value of the
wrong type. -/
theorem evaluate_failure_explained (node : Node) (host : σ) {failure : Failure}
    {later : σ × List HostCall}
    (failed : (evaluate invoke.recorded scope node).outcome (host, []) = (.error failure, later)) :
    (RaisedLast invoke failure later ∨
      ∃ kind, failure.kind? = some kind ∧
        node.Explains invoke.recorded scope (host, []) kind failure) ∧
      (node.Supported → RaisedLast invoke failure later ∨
        node.Mistyped invoke.recorded scope (host, []) failure ∧
          failure.kind? = some Failure.typeErrorKind) := by
  have accounted := evaluate_accountable invoke scope node .self failure later failed
  constructor
  · refine accounted.imp_right ?_
    rintro ⟨kind, explained⟩
    exact ⟨kind, explained.kind?_eq, explained⟩
  · intro supported
    refine accounted.imp_right ?_
    rintro ⟨kind, explained⟩
    have fault := explained.mistyped_of_supported supported
    exact ⟨fault, fault.kind?_eq⟩

/-- A host whose functions refuse to run. -/
def refusing : Invoke Unit := fun _ _ => throw (.raised none "refused")

theorem evaluate_failure_explained_refused :
    let scope := Scope.ofVars [("f", .function ⟨"f", .host 0⟩)]
    let node : Node := .unary "-" (.call (.identifier "f") [.literal .null]) true
    let failure : Failure := .raised none "refused"
    let later := ((), [⟨⟨"f", .host 0⟩, [.null], .error failure⟩])
    (evaluate refusing.recorded scope node).outcome ((), []) = (.error failure, later) ∧
      node.Supported ∧
      (RaisedLast refusing failure later ∨
        ∃ kind, failure.kind? = some kind ∧
          node.Explains refusing.recorded scope ((), []) kind failure) ∧
      (RaisedLast refusing failure later ∨
        node.Mistyped refusing.recorded scope ((), []) failure ∧
          failure.kind? = some Failure.typeErrorKind) := by
  intro scope node failure later
  have failed : (evaluate refusing.recorded scope node).outcome ((), []) =
      (.error failure, later) := rfl
  have supported : node.Supported := by
    refine .intro (by simp [node, Regular, UnaryOperator.symbols]) fun operand member => ?_
    obtain rfl := List.mem_singleton.mp member
    refine .intro trivial fun part inner => ?_
    rcases List.mem_cons.mp inner with rfl | last
    · exact .intro trivial (by simp [operands])
    · obtain rfl := List.mem_singleton.mp last
      exact .intro trivial (by simp [operands])
  obtain ⟨explained, mistyped⟩ := evaluate_failure_explained refusing scope node () failed
  exact ⟨failed, supported, explained, mistyped supported⟩

end ExprTree
