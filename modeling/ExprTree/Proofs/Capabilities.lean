import ExprTree.Proofs.Positions
import ExprTree.Proofs.Reachability
import ExprTree.Proofs.Surfaces

/-!
What a run can get hold of. Every function that an evaluation calls, and every container or function
in its result, can be reached from what the scope binds to the names of the tree, from an argument,
or from what an earlier call of the run returned.
-/
namespace ExprTree

open Eval

/-- A value that was granted or that one of the calls returned. -/
def Source (granted : Value → Prop) (calls : List HostCall) (v : Value) : Prop :=
  granted v ∨ ∃ call ∈ calls, call.outcome = .ok v

/-- A value that can be reached from a source, unless it has no identity at all. -/
def Held (granted : Value → Prop) (calls : List HostCall) (v : Value) : Prop :=
  v.isReference = true → ∃ source, Source granted calls source ∧ source.Reaches v

/-- Each called function was held when it was called, so by what was granted or by what the calls
before returned. -/
def CallsHeld (granted : Value → Prop) (calls : List HostCall) : Prop :=
  ∀ before call after, calls = before ++ call :: after →
    Held granted before (.function call.callable)

section Holding

variable {granted : Value → Prop} {calls : List HostCall} {v : Value}

theorem Source.append (source : Source granted calls v) (more : List HostCall) :
    Source granted (calls ++ more) v := by
  rcases source with given | ⟨call, member, returned⟩
  · exact .inl given
  · exact .inr ⟨call, List.mem_append_left more member, returned⟩

private theorem Held.of_not_reference (plain : v.isReference = false) : Held granted calls v := by
  intro reference
  rw [plain] at reference
  cases reference

theorem Held.of_source (source : Source granted calls v) : Held granted calls v :=
  fun _ => ⟨v, source, .self v⟩

theorem Held.append (held : Held granted calls v) (more : List HostCall) :
    Held granted (calls ++ more) v := by
  intro reference
  obtain ⟨source, known, reached⟩ := held reference
  exact ⟨source, known.append more, reached⟩

/-- Whatever can be reached from a held value is held. -/
theorem Held.of_reaches {target : Value} (held : Held granted calls v)
    (reached : v.Reaches target) : Held granted calls target := by
  intro reference
  rcases reached.eq_or_isReference with rfl | inside
  · exact held reference
  · obtain ⟨source, known, path⟩ := held inside
    exact ⟨source, known, path.trans reached⟩

theorem CallsHeld.nil : CallsHeld granted [] := by
  intro before call after split
  simp at split

private theorem CallsHeld.append_call (earlier : CallsHeld granted calls) {call : HostCall}
    (held : Held granted calls (.function call.callable)) :
    CallsHeld granted (calls ++ [call]) := by
  intro before other after split
  -- The call looked at is the new one, at the end, or one of the earlier ones.
  rcases List.append_eq_append_iff.mp split with ⟨middle, same, rest⟩ | ⟨middle, same, rest⟩
  · cases middle with
    | nil =>
      obtain ⟨rfl, _⟩ := List.cons.inj rest
      rw [same, List.append_nil]
      exact held
    | cons first others =>
      have impossible := congrArg List.length rest
      simp at impossible
  · cases middle with
    | nil =>
      obtain ⟨rfl, _⟩ := List.cons.inj rest
      rw [List.append_nil] at same
      rw [← same]
      exact held
    | cons first others =>
      obtain ⟨rfl, _⟩ := List.cons.inj rest
      exact earlier before other others same

/-- Where nothing granted leads to a function, the first call is already impossible. -/
theorem CallsHeld.eq_nil (held : CallsHeld granted calls)
    (inert : ∀ source, granted source → ∀ callable, ¬ source.Reaches (.function callable)) :
    calls = [] := by
  cases calls with
  | nil => rfl
  | cons call rest =>
    obtain ⟨source, known, reached⟩ := held [] call rest rfl rfl
    rcases known with given | ⟨earlier, member, _⟩
    · exact absurd reached (inert source given call.callable)
    · cases member

end Holding

/-- Something that holds of the calls made so far and that no further call can undo. -/
structure Fact where
  holds : List HostCall → Prop
  kept : ∀ calls call, holds calls → holds (calls ++ [call])

namespace Fact

def always : Fact := ⟨fun _ => True, fun _ _ _ => trivial⟩

def and (first second : Fact) : Fact where
  holds calls := first.holds calls ∧ second.holds calls
  kept calls call both := ⟨first.kept calls call both.1, second.kept calls call both.2⟩

def held (granted : Value → Prop) (v : Value) : Fact where
  holds calls := Held granted calls v
  kept _ call held := held.append [call]

def allHeld (granted : Value → Prop) (values : List Value) : Fact where
  holds calls := ∀ value ∈ values, Held granted calls value
  kept _ call held value member := (held value member).append [call]

end Fact

/-- A computation that calls only what is held, keeps what is known, and adds a fact about its
value to that. -/
def Confined (granted : Value → Prop) (known : Fact) (action : Eval (σ × List HostCall) α)
    (gained : α → Fact) : Prop :=
  action.Ensures (fun state => CallsHeld granted state.2 ∧ known.holds state.2)
    (fun a state => CallsHeld granted state.2 ∧ (known.and (gained a)).holds state.2)
    fun _ state => CallsHeld granted state.2

namespace Confined

variable {granted : Value → Prop} {known : Fact}

theorem pure {gained : α → Fact} {a : α}
    (holds : ∀ calls, known.holds calls → (gained a).holds calls) :
    Confined granted known (pure a : Eval (σ × List HostCall) α) gained :=
  Ensures.pure fun _ start => ⟨start.1, start.2, holds _ start.2⟩

theorem throw {gained : α → Fact} (failure : Failure) :
    Confined granted known (throw failure : Eval (σ × List HostCall) α) gained :=
  Ensures.throw fun _ start => start.1

theorem ofExcept {gained : α → Fact} {result : Except Failure α}
    (holds : ∀ a, result = .ok a → ∀ calls, known.holds calls → (gained a).holds calls) :
    Confined granted known (Eval.ofExcept result : Eval (σ × List HostCall) α) gained :=
  Ensures.ofExcept (fun a ended _ start => ⟨start.1, start.2, holds a ended _ start.2⟩)
    fun _ _ _ start => start.1

theorem bind {action : Eval (σ × List HostCall) α} {next : α → Eval (σ × List HostCall) β}
    {gained : α → Fact} {last : β → Fact} (first : Confined granted known action gained)
    (second : ∀ a, Confined granted (known.and (gained a)) (next a) last) :
    Confined granted known (action >>= next) last := by
  refine Ensures.bind first fun a host start => ?_
  have ended := second a host start
  split at ended
  · exact ⟨ended.1, ended.2.1.1, ended.2.2⟩
  · exact ended

/-- What a call returns is a source for all that comes after it. -/
theorem recorded (invoke : Invoke σ) {callable : Callable} (args : List Value)
    (callee : ∀ calls, known.holds calls → Held granted calls (.function callable)) :
    Confined granted known (invoke.recorded callable args) (Fact.held granted) := by
  rintro ⟨host, calls⟩ ⟨earlier, facts⟩
  rcases ended : (invoke callable args).outcome host with ⟨result, later⟩
  rw [outcome_recorded ended]
  have called : CallsHeld granted (calls ++ [⟨callable, args, result⟩]) :=
    earlier.append_call (callee calls facts)
  cases result with
  | error failure => exact called
  | ok value =>
    refine ⟨called, known.kept _ _ facts, Held.of_source (.inr ?_)⟩
    exact ⟨_, List.mem_append_right calls (List.mem_singleton_self _), rfl⟩

end Confined

/-- All that an evaluation of the tree starts from is held: what its names stand for in the scope,
and its literals. -/
structure Node.DrawsOn (root : Node) (granted : Value → Prop) (scope : Scope) : Prop where
  names : ∀ name, (Node.identifier name).EvaluatedIn root → Held granted [] (scope.lookup name)
  literals : ∀ value, (Node.literal value).EvaluatedIn root → Held granted [] value

variable (invoke : Invoke σ) {scope : Scope} {granted : Value → Prop} {root : Node}

mutual

/-- An evaluation calls and returns only what its names and literals give it. -/
theorem evaluate_confined (draws : root.DrawsOn granted scope) {known : Fact} (node : Node)
    (visited : node.EvaluatedIn root) :
    Confined granted known (evaluate invoke.recorded scope node) (Fact.held granted) := by
  match node with
  | .literal value => exact .pure fun calls _ => (draws.literals value visited).append calls
  | .identifier name => exact .pure fun calls _ => (draws.names name visited).append calls
  | .member object property true =>
    rw [evaluate_computed]
    refine .bind (evaluate_confined draws object (visited.operand_of (by simp [Node.operands])))
      fun base => ?_
    refine .bind (evaluate_confined draws property (visited.operand_of (by simp [Node.operands])))
      fun key => ?_
    refine .ofExcept fun value found calls facts reference => ?_
    exact facts.1.2.of_reaches (Value.member_reaches found reference) reference
  | .member object property false =>
    rw [evaluate_dotted]
    refine .bind (evaluate_confined draws object (visited.operand_of (by simp [Node.operands])))
      fun base => ?_
    have named : Confined granted (known.and (Fact.held granted base))
        (propertyKey property : Eval (σ × List HostCall) Value) fun _ => Fact.always := by
      cases property with
      | identifier name => exact .pure fun _ _ => trivial
      | _ => exact .throw _
    refine .bind named fun key => ?_
    refine .ofExcept fun value found calls facts reference => ?_
    exact facts.1.2.of_reaches (Value.member_reaches found reference) reference
  | .binary operator left right =>
    rw [evaluate]
    refine .bind (evaluate_confined draws left (visited.operand_of (by simp [Node.operands])))
      fun l => ?_
    refine .bind (evaluate_confined draws right (visited.operand_of (by simp [Node.operands])))
      fun r => ?_
    refine .ofExcept fun value applied calls facts reference => ?_
    rcases applyBinary_eq_operand applied reference with rfl | rfl
    · exact facts.1.2 reference
    · exact facts.2 reference
  | .unary operator argument leading =>
    rw [evaluate]
    refine .bind (evaluate_confined draws argument (visited.operand_of (by simp [Node.operands])))
      fun v => ?_
    exact .ofExcept fun value applied calls _ =>
      Held.of_not_reference (applyUnary_not_reference applied)
  | .call callee arguments =>
    rw [evaluate]
    refine .bind (evaluate_confined draws callee (visited.operand_of (by simp [Node.operands])))
      fun target => ?_
    refine .bind (evaluateAll_confined draws arguments fun argument member =>
      visited.operand_of (by simp [Node.operands, member])) fun values => ?_
    -- The callee was held before its arguments were evaluated, and their calls cannot undo that.
    cases target with
    | function callable => exact .recorded invoke values fun calls facts => facts.1.2
    | _ => exact .throw _
  | .hole | .function .. | .block _ | .returns _ | .statement _ | .arrow .. | .sequence _
  | .unknown _ => exact .throw _

private theorem evaluateAll_confined (draws : root.DrawsOn granted scope) {known : Fact}
    (nodes : List Node) (visited : ∀ node ∈ nodes, node.EvaluatedIn root) :
    Confined granted known (evaluateAll invoke.recorded scope nodes) (Fact.allHeld granted) := by
  match nodes with
  | [] => exact .pure fun calls _ value member => by cases member
  | node :: rest =>
    rw [evaluateAll]
    refine .bind (evaluate_confined draws node (visited node (by simp))) fun value => ?_
    refine .bind (evaluateAll_confined draws rest fun other member =>
      visited other (by simp [member])) fun values => ?_
    refine .pure fun calls facts other member => ?_
    rcases List.mem_cons.mp member with rfl | later
    · exact facts.1.2
    · exact facts.2 other later

end

/-- A run that calls only what is held at the time and in whose result everything is held. -/
def StaysWithin (granted : Value → Prop) (ended : Except Failure Value × σ × List HostCall) :
    Prop :=
  CallsHeld granted ended.2.2 ∧
    ∀ value part, ended.1 = .ok value → value.Reaches part → Held granted ended.2.2 part

theorem Node.DrawsOn.visited {part : Node} (draws : root.DrawsOn granted scope)
    (visited : part.EvaluatedIn root) : part.DrawsOn granted scope where
  names name inner := draws.names name (inner.trans visited)
  literals value inner := draws.literals value (inner.trans visited)

theorem evaluate_staysWithin (draws : root.DrawsOn granted scope) (host : σ) :
    StaysWithin granted ((evaluate invoke.recorded scope root).outcome (host, [])) := by
  have confined : Confined granted Fact.always _ _ := evaluate_confined invoke draws root .self
  have ended := confined (host, []) ⟨.nil, trivial⟩
  split at ended
  · rename_i value later same
    rw [same]
    refine ⟨ended.1, fun result part returned reached => ?_⟩
    cases returned
    exact ended.2.2.of_reaches reached
  · rename_i failure later same
    rw [same]
    refine ⟨ended, fun result part returned => ?_⟩
    cases returned

namespace Node

/-- What the scope binds to the names that an evaluation of the tree would look up. -/
def Bound (scope : Scope) (root : Node) (v : Value) : Prop :=
  ∃ name, (identifier name).EvaluatedIn root ∧ scope.lookup name = v

private theorem AllWellFormed.mem {nodes : List Node} (formed : AllWellFormed nodes) {node : Node}
    (member : node ∈ nodes) : node.WellFormed := by
  induction nodes with
  | nil => cases member
  | cons first rest ih =>
    rcases List.mem_cons.mp member with rfl | later
    · exact formed.1
    · exact ih formed.2 later

theorem WellFormed.operand {node operand : Node} (formed : node.WellFormed)
    (member : operand ∈ node.operands) : operand.WellFormed := by
  unfold operands at member
  split at member
  · rcases List.mem_cons.mp member with rfl | last
    · exact formed.1
    · obtain rfl := List.mem_singleton.mp last
      exact formed.2
  · obtain rfl := List.mem_singleton.mp member
    exact formed.1
  · rcases List.mem_cons.mp member with rfl | last
    · exact formed.1
    · obtain rfl := List.mem_singleton.mp last
      exact formed.2
  · obtain rfl := List.mem_singleton.mp member
    exact formed.1
  · rcases List.mem_cons.mp member with rfl | later
    · exact formed.1
    · exact formed.2.mem later
  · cases member

theorem WellFormed.visited {root part : Node} (formed : root.WellFormed)
    (visited : part.EvaluatedIn root) : part.WellFormed := by
  induction visited with
  | self => exact formed
  | operand member _ ih => exact ih (formed.operand member)

/-- The literals of a decoded tree, or of the bare return of a header, have no identity. -/
theorem literal_held {value : Value} {calls : List HostCall}
    (formed : root.WellFormed ∨ root = literal .undefined)
    (visited : (literal value).EvaluatedIn root) : Held granted calls value := by
  apply Held.of_not_reference
  rcases formed with formed | rfl
  · have constant : value.IsConstant := formed.visited visited
    cases value <;> first | rfl | cases constant
  · cases visited with
    | self => rfl
    | operand member _ => cases member

theorem WellFormed.drawsOn (formed : root.WellFormed) (scope : Scope) :
    root.DrawsOn (root.Bound scope) scope where
  names name visited := Held.of_source (.inl ⟨name, visited, rfl⟩)
  literals _ visited := literal_held (.inl formed) visited

end Node

namespace Header

theorem argumentFor_eq_some {params : List String} {args : List Value} {name : String}
    {value : Value} (found : argumentFor params args name = some value) :
    value ∈ args ∨ value = .undefined := by
  obtain ⟨place, _, rfl⟩ := Option.map_eq_some_iff.mp found
  cases here : args[place]? with
  | none => exact .inr rfl
  | some arg => exact .inl (List.mem_of_getElem? here)

/-- The body of a decoded header draws on the arguments besides what the outer scope binds. -/
theorem drawsOn {body : Node} (formed : body.WellFormed ∨ body = .literal .undefined)
    (params : List String) (args : List Value) (outer : Scope) :
    body.DrawsOn (fun v => body.Bound outer v ∨ v ∈ args)
      (.layer (bind params args) outer) := by
  constructor
  · intro name visited
    rw [lookup_bind]
    cases found : argumentFor params args name with
    | none => exact Held.of_source (.inl (.inl ⟨name, visited, rfl⟩))
    | some value =>
      rcases argumentFor_eq_some found with member | rfl
      · exact Held.of_source (.inl (.inr member))
      · exact Held.of_not_reference rfl
  · intro value visited
    exact Node.literal_held formed visited

theorem apply_staysWithin {header : Header}
    (formed : header.body.WellFormed ∨ header.body = .literal .undefined) (args : List Value)
    (scope : Scope) (host : σ) :
    StaysWithin (fun v => header.body.Bound scope v ∨ v ∈ args)
      ((header.apply invoke.recorded args scope).outcome (host, [])) :=
  evaluate_staysWithin invoke (drawsOn formed header.params args scope) host

end Header

end ExprTree
