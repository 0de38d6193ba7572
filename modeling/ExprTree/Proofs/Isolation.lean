import ExprTree.Proofs.Capabilities

/-!
What a request can do. Documents and messages carry no functions, so a request that came in from
outside and does without the standard bindings calls nothing, and its calls all fail. Main
statement: this, and that every run of a decoded tree stays within what it was given.
-/
namespace ExprTree

open Eval

variable (invoke : Invoke σ) {scope : Scope} {root : Node}

/-- Over received values nothing can be called. -/
theorem evaluate_calls_nothing (draws : root.DrawsOn Value.IsReceived scope) (host : σ) :
    ((evaluate invoke.recorded scope root).outcome (host, [])).2.2 = [] :=
  (evaluate_staysWithin invoke draws host).1.eq_nil fun _ received =>
    received.not_reaches_function

/-- A call that returned is among the calls that were made. -/
theorem calls_ne_nil_of_call {callee : Node} {arguments : List Node} {value : Value}
    {state later : σ × List HostCall}
    (returned : (evaluate invoke.recorded scope (.call callee arguments)).outcome state =
      (.ok value, later)) : later.2 ≠ [] := by
  rw [evaluate] at returned
  obtain ⟨target, _, _, returned⟩ := exists_of_outcome_bind returned
  obtain ⟨values, ⟨host, calls⟩, _, returned⟩ := exists_of_outcome_bind returned
  cases target with
  | function callable =>
    rcases ended : (invoke callable values).outcome host with ⟨result, last⟩
    have recorded := outcome_recorded ended calls
    simp only [recorded, Prod.mk.injEq] at returned
    rw [← returned.2]
    simp
  | _ => cases returned

/-- Over received values every call fails. -/
theorem evaluate_call_fails {callee : Node} {arguments : List Node}
    (draws : (Node.call callee arguments).DrawsOn Value.IsReceived scope) (host : σ) :
    ∃ failure, ((evaluate invoke.recorded scope (.call callee arguments)).outcome (host, [])).1 =
      .error failure := by
  have silent := evaluate_calls_nothing invoke draws host
  rcases ended : (evaluate invoke.recorded scope (.call callee arguments)).outcome (host, [])
    with ⟨result, later⟩
  rw [ended] at silent
  cases result with
  | error failure => exact ⟨failure, rfl⟩
  | ok value => exact absurd silent (calls_ne_nil_of_call invoke ended)

namespace Request

/-- The tree that a run of a request evaluates, and the scope in which it does. -/
def target (registry : Registry) (request : Request) : Except HeaderFault (Scope × Node) :=
  match request.args with
  | none => .ok (request.scope registry, request.node)
  | some args => do
    let header ← Header.ofNode request.node
    .ok (.layer (Header.bind header.params args) (request.scope registry), header.body)

private theorem run_eq (registry : Registry) (request : Request) :
    request.run invoke registry =
      match request.target registry with
      | .error fault => throw (.header fault)
      | .ok (scope, body) => Run.ofEval (evaluate invoke scope body) := by
  unfold run target
  cases request.args with
  | none => rfl
  | some args =>
    simp only
    cases Header.ofNode request.node <;> rfl

/-- The bindings and arguments of a request are parts of the value it was read from. -/
theorem reaches_of_ofValue {document : Value} {request : Request}
    (read : ofValue document = .ok request) :
    (∀ name value, Entries.get? request.vars name = some value → document.Reaches value) ∧
      ∀ args, request.args = some args → ∀ arg ∈ args, document.Reaches arg := by
  cases document with
  | object ref fields =>
    obtain ⟨_, _, context, arguments, _⟩ := exists_of_ofFields read
    constructor
    · intro name value found
      unfold readContext at context
      split at context
      · rw [← Except.ok.inj context] at found
        cases found
      · rename_i present
        cases context
        exact .entry (Option.filter_eq_some_iff.mp present).1 (.entry found (.self value))
      · cases context
    · intro args given arg member
      unfold readArgs at arguments
      rw [given] at arguments
      split at arguments
      · cases arguments
      · rename_i present
        cases arguments
        exact .entry (Option.filter_eq_some_iff.mp present).1 (.item member (.self arg))
      · cases arguments
  | _ => cases read

private theorem target_wellFormed {request : Request} {registry : Registry} {scope : Scope}
    {body : Node}
    (formed : request.node.WellFormed) (aimed : request.target registry = .ok (scope, body)) :
    body.WellFormed ∨ body = .literal .undefined := by
  unfold target at aimed
  split at aimed
  · cases aimed
    exact .inl formed
  · obtain ⟨header, spelled, last⟩ := exists_of_bind_eq_ok aimed
    cases last
    exact Header.ofNode_wellFormed formed spelled

private theorem builtins_of_ofValue {document : Value} {request : Request}
    (read : ofValue document = .ok request)
    (off : ∀ ref fields flag, document = .object ref fields →
      Entries.get? fields "builtins" = some flag → flag.truthy = false) :
    request.builtins = false := by
  cases document with
  | object ref fields =>
    obtain ⟨_, _, _, _, flagged⟩ := exists_of_ofFields read
    rw [flagged]
    cases found : Entries.get? fields "builtins" with
    | none => rfl
    | some flag => exact off ref fields flag rfl found
  | _ => cases read

section Received

variable {document : Value} {request : Request} (received : document.IsReceived)
  (read : ofValue document = .ok request) (off : request.builtins = false)
include received read off

private theorem scope_lookup_isReceived (registry : Registry) (name : String) :
    ((request.scope registry).lookup name).IsReceived := by
  rw [Request.scope, if_neg (by simp [off]), Scope.ofVars, Scope.lookup]
  cases found : Entries.get? request.vars name with
  | none => exact .undefined
  | some value => exact received.of_reaches ((reaches_of_ofValue read).1 name value found)

/-- Without the standard bindings, the tree of a request that came in from outside sees only what
came in with it. -/
theorem lookup_isReceived {registry : Registry} {scope : Scope} {body : Node}
    (aimed : request.target registry = .ok (scope, body)) (name : String) :
    (scope.lookup name).IsReceived := by
  have outer := scope_lookup_isReceived received read off registry name
  unfold target at aimed
  cases given : request.args with
  | none =>
    rw [given] at aimed
    cases aimed
    exact outer
  | some args =>
    rw [given] at aimed
    obtain ⟨header, _, last⟩ := exists_of_bind_eq_ok aimed
    cases last
    -- A parameter hides what the request binds to its name; without an argument it is undefined.
    rw [Header.lookup_bind]
    cases found : Header.argumentFor header.params args name with
    | none => exact outer
    | some value =>
      rcases Header.argumentFor_eq_some found with member | rfl
      · exact received.of_reaches ((reaches_of_ofValue read).2 args given value member)
      · exact .undefined

private theorem target_drawsOn {registry : Registry} {scope : Scope} {body : Node}
    (aimed : request.target registry = .ok (scope, body)) :
    body.DrawsOn Value.IsReceived scope := by
  have formed : request.node.WellFormed := by
    cases document with
    | object ref fields =>
      obtain ⟨_, decoded, _⟩ := exists_of_ofFields read
      exact Node.decode_wellFormed decoded
    | _ => cases read
  constructor
  · intro name _
    exact Held.of_source (.inl (lookup_isReceived received read off aimed name))
  · intro value visited
    exact Node.literal_held (target_wellFormed formed aimed) visited

private theorem run_calls_nothing (registry : Registry) (host : σ) :
    ((request.run invoke.recorded registry).outcome (host, [])).2.2 = [] := by
  rw [run_eq]
  cases aimed : request.target registry with
  | error fault => rfl
  | ok place =>
    obtain ⟨scope, body⟩ := place
    simp only [Run.outcome_ofEval]
    exact evaluate_calls_nothing invoke (target_drawsOn received read off aimed) host

end Received

end Request

/-- A decoded tree, evaluated or applied, calls and returns only what its names, its arguments and
the calls before give it. A request that came in from outside and does without the standard bindings
calls nothing at all, and each call that its tree could get to fails. -/
theorem runs_stay_within :
    (∀ spelled node scope host, Node.decode spelled = .ok node →
      StaysWithin (node.Bound scope) ((evaluate invoke.recorded scope node).outcome (host, [])) ∧
      ∀ header args, header.body = node ∨ Header.ofNode node = .ok header →
        StaysWithin (fun v => header.body.Bound scope v ∨ v ∈ args)
          ((header.apply invoke.recorded args scope).outcome (host, []))) ∧
    ∀ document request registry host, document.IsReceived →
      Request.ofValue document = .ok request →
      (∀ ref fields flag, document = .object ref fields →
        Entries.get? fields "builtins" = some flag → flag.truthy = false) →
      ((request.run invoke.recorded registry).outcome (host, [])).2.2 = [] ∧
      ∀ scope body callee arguments state, request.target registry = .ok (scope, body) →
        (Node.call callee arguments).EvaluatedIn body →
        ∃ failure,
          ((evaluate invoke.recorded scope (.call callee arguments)).outcome (state, [])).1 =
            .error failure := by
  constructor
  · intro spelled node scope host decoded
    have formed := Node.decode_wellFormed decoded
    refine ⟨evaluate_staysWithin invoke (formed.drawsOn scope) host, ?_⟩
    rintro header args (rfl | read)
    · exact Header.apply_staysWithin invoke (.inl formed) args scope host
    · exact Header.apply_staysWithin invoke (Header.ofNode_wellFormed formed read) args scope host
  · intro document request registry host received read flag
    have off := Request.builtins_of_ofValue read flag
    refine ⟨Request.run_calls_nothing invoke received read off registry host, ?_⟩
    intro scope body callee arguments state aimed visited
    have draws := Request.target_drawsOn received read off aimed
    exact evaluate_call_fails invoke (draws.visited visited) state

/-- A host whose functions return their first argument. -/
def echoing : Invoke Unit := fun _ args => pure (argument args 0)

/-- A document that spells a call of `f` on `x`. -/
def callDocument : Datum :=
  .record [("type", .text "CallExpression"),
    ("callee", .record [("type", .text "Identifier"), ("name", .text "f")]),
    ("arguments", .list [.record [("type", .text "Identifier"), ("name", .text "x")]])]

theorem runs_stay_within_call :
    let node : Node := .call (.identifier "f") [.identifier "x"]
    let spelled := Value.ofDatum (Ref.ofOrigin 1) callDocument
    let scope := Scope.ofVars
      [("f", .function ⟨"f", .host 0⟩), ("x", .object (Ref.ofOrigin 3) [("y", .null)])]
    let document := Value.ofDatum (Ref.ofOrigin 2) (.record [("node", callDocument)])
    let request : Request := ⟨node, [], false, none⟩
    Node.decode spelled = .ok node ∧
      StaysWithin (node.Bound scope) ((evaluate echoing.recorded scope node).outcome ((), [])) ∧
      document.IsReceived ∧ Request.ofValue document = .ok request ∧
      ((request.run echoing.recorded Registry.standard).outcome ((), [])).2.2 = [] ∧
      ∃ failure, ((evaluate echoing.recorded (request.scope Registry.standard) node).outcome
        ((), [])).1 = .error failure := by
  intro node spelled scope document request
  have decoded : Node.decode spelled = .ok node := rfl
  have read : Request.ofValue document = .ok request := rfl
  have received : document.IsReceived := .document _ _
  obtain ⟨general, requests⟩ := runs_stay_within echoing
  have absent : ∀ ref fields flag, document = .object ref fields →
      Entries.get? fields "builtins" = some flag → flag.truthy = false := by
    intro ref fields flag same found
    rw [← (Value.object.inj same).2] at found
    cases found
  have silent := requests document request Registry.standard () received read absent
  refine ⟨decoded, (general spelled node scope () decoded).1, received, read, silent.1, ?_⟩
  exact silent.2 _ _ (.identifier "f") [.identifier "x"] () rfl .self

end ExprTree
