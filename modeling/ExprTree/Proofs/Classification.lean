import ExprTree.Proofs.Complaints
import ExprTree.Proofs.Verdicts

/-!
How the two servers sort what becomes of a message. Both read it as the same request and run it.
Main statement: they always come to the same verdict, and say the same of it. A function of the host
can still declare the request invalid after it was called; no other evaluation crosses over.
-/
namespace ExprTree

/-- The remote procedure replies with the verdict on how the request is handled. -/
theorem Rpc.evaluate_run (invoke : Invoke σ) (registry : Registry) (ref : Ref)
    (fields : List (String × Wire)) (host : σ) :
    Id.run ((evaluate invoke registry ref fields).run host) =
      ((Request.handle invoke registry (Value.ofWire ref (.struct fields)) host).map
        (fun ended => (Verdict.ofHandled ended).reply) id) := by
  unfold evaluate Request.handle
  cases Request.ofValue (Value.ofWire ref (.struct fields)) with
  | error fault => rfl
  | ok request =>
    rcases ended : (request.run invoke registry).outcome host with ⟨result, later⟩
    have direct : Id.run ((request.run invoke registry).run.run host) = (result, later) := ended
    simp only [StateT.run_bind, Id.run_bind, direct, ended, encodeResult_eq]
    cases result with
    | ok value => rfl
    | error fault =>
      simp only [Except.mapError, Prod.map, Verdict.ofHandled, Verdict.ofRunFault]
      cases fault.complaint? <;> rfl

namespace Http

/-- A call of the evaluation that carries a message with the given fields, in any order. -/
structure Call.Carries (call : Call) (fields : List (String × Wire)) : Prop where
  posted : call.method = "POST"
  routed : Route.ofPath? call.path = some .evaluate
  binary : call.isBinary = true
  message : ∃ sent, Wire.Same (.struct fields) (.struct sent) ∧
    Wire.decodeStruct call.content = .ok sent

/-- A message reaches its reader as it was sent. -/
theorem Call.Carries.of_encoded {call : Call} {fields sent : List (String × Wire)}
    (posted : call.method = "POST") (routed : Route.ofPath? call.path = some .evaluate)
    (binary : call.isBinary = true) (same : Wire.Same (.struct fields) (.struct sent))
    (sendable : Wire.Sendable sent) (encoded : call.content = Wire.encodeStruct sent) :
    call.Carries fields := by
  refine ⟨posted, routed, binary, sent, same, ?_⟩
  rw [encoded, Wire.decodeStruct_encodeStruct sendable]

/-- The reply to a call whose answer is known. -/
def Reply.ofAnswer (drawn : String) (call : Call) (answer : Answer) : Reply :=
  ⟨answer.status, answer.contentType, replyId drawn call answer, answer.body⟩

private theorem Answer.ofMessage_eq (value : Value) :
    Answer.ofMessage value = .binary (Wire.encodeStruct (resultFields value)) := by
  rw [ofMessage, encodeResult_eq]
  simp only [Wire.marshal_eq]

section Handling

variable (invoke : Invoke σ) (registry : Registry) (ref : Ref) {call : Call}
  {fields : List (String × Wire)} (distinct : (Wire.struct fields).KeysDiffer)
  (carries : call.Carries fields) (host : σ)
include distinct carries

/-- The HTTP surface answers a message with the verdict on how the same request is handled. -/
theorem evaluateCall_run :
    Id.run ((evaluateCall invoke registry ref call).run host) =
      (Request.handle invoke registry (Value.ofWire ref (.struct fields)) host).map
        (fun ended => (Verdict.ofHandled ended).answer) id := by
  obtain ⟨sent, same, decoded⟩ := carries.message
  have body : call.bodyValue ref = .ok (Value.ofWire ref (.struct fields)) := by
    rw [Call.bodyValue, if_pos carries.binary, decoded]
    exact congrArg Except.ok (Value.ofWire_eq_of_same distinct same ref)
  have asked : call.request ref =
      (Request.ofValue (Value.ofWire ref (.struct fields))).mapError RequestFault.message := by
    rw [Call.request, body]
    rfl
  unfold evaluateCall Request.handle
  rw [asked]
  cases Request.ofValue (Value.ofWire ref (.struct fields)) with
  | error fault => rfl
  | ok request =>
    rcases ended : (request.run invoke registry).outcome host with ⟨result, later⟩
    have direct : Id.run ((request.run invoke registry).run.run host) = (result, later) := ended
    simp only [Except.mapError, StateT.run_bind, Id.run_bind, direct, ended, carries.binary,
      if_true, Answer.ofMessage_eq]
    cases result with
    | ok value => rfl
    | error fault =>
      simp only [Prod.map, Verdict.ofHandled, Verdict.ofRunFault]
      cases fault.complaint? <;> rfl

private theorem handle_run (drawn : String) :
    Id.run ((handle invoke registry ref drawn call).run host) =
      (Request.handle invoke registry (Value.ofWire ref (.struct fields)) host).map
        (fun ended => Reply.ofAnswer drawn call (Verdict.ofHandled ended).answer) id := by
  have known : "POST" ∈ knownMethods := by decide
  have taken : "POST" ∈ Route.evaluate.methods := by decide
  have routed : answer invoke registry ref call = evaluateCall invoke registry ref call := by
    simp only [answer, carries.posted, carries.routed, known, taken, not_true, if_false]
  have evaluated := evaluateCall_run invoke registry ref distinct carries host
  have bodied : call.method ≠ "HEAD" := by simp [carries.posted]
  simp only [handle, routed, StateT.run_bind, Id.run_bind, evaluated, if_neg bodied]
  rfl

end Handling

end Http

/-- Replies of the two servers to one request whose class shows its cause: an invalid request is one
that was refused before anything was called, and every failed evaluation counts as such. -/
structure ClassifiedByCause (invoke : Invoke σ) (registry : Registry) (value : Value) (start : σ)
    (rpc : Rpc.Reply × σ) (http : Http.Reply × σ) : Prop where
  refused_iff : http.1.status = 400 ↔ ∃ complaint shown, Request.Refused value complaint shown
  /-- Nothing ran, and the texts differ at most in how they begin. -/
  refused : ∀ complaint, rpc.1 = .invalidArgument complaint → rpc.2 = start ∧
    ∃ shown, Request.Refused value complaint shown ∧ Http.errorMessage? http.1.body = some shown
  fails_iff : ∀ complaint, rpc.1 = .failedPrecondition complaint ↔
    ∃ failure, Request.Fails invoke registry value start failure ∧ failure.message = complaint

/-- Replies of the two servers to one request that mean the same. -/
structure ClassifiedAlike (host : Host σ) (registry : Registry) (value : Value)
    (start : σ × List HostCall) (rpc : Rpc.Reply × σ × List HostCall)
    (http : Http.Reply × σ × List HostCall) : Prop where
  /-- The host is left in the same state, after the same calls. -/
  later : http.2 = rpc.2
  /-- There is no fourth way to end: no result fails to be sent. -/
  statuses : http.1.status = 200 ∨ http.1.status = 400 ∨ http.1.status = 422
  sent : ∀ message, rpc.1 ≠ .internal message
  answered_iff : (∃ result, rpc.1 = .ok result) ↔ http.1.status = 200
  /-- As far as results can be sent, the body of an answer is the result that the other gives. -/
  result_iff : (∀ result, rpc.1 = .ok result → Wire.Sendable result) → ∀ result,
    (rpc.1 = .ok result ↔ http.1.status = 200 ∧ Wire.decodeStruct http.1.body = .ok result)
  invalid_iff : (∃ complaint, rpc.1 = .invalidArgument complaint) ↔ http.1.status = 400
  /-- One cause accounts for what both say of an invalid request. -/
  invalid : ∀ complaint, rpc.1 = .invalidArgument complaint → ∃ shown,
    Request.Invalid host.invoke.recorded registry value start complaint shown ∧
      Http.errorMessage? http.1.body = some shown
  failed_iff : ∀ complaint, rpc.1 = .failedPrecondition complaint ↔
    http.1.status = 422 ∧ Http.errorMessage? http.1.body = some complaint
  uncomplaining_iff : ∀ complaint, rpc.1 = .failedPrecondition complaint ↔
    ∃ failure, Request.Fails host.invoke.recorded registry value start failure ∧
      failure.complaint? = none ∧ failure.message = complaint
  /-- Nothing crosses over from one class to another, unless a function of the host uses a complaint
  for the failure of a request that is well formed. -/
  byCause : host.Uncomplaining →
    ClassifiedByCause host.invoke.recorded registry value start rpc http

theorem Request.Fails.complaint?_eq {host : Host σ} (quiet : host.Uncomplaining)
    {registry : Registry} {value : Value} {start : σ × List HostCall} {failure : Failure}
    (fails : Fails host.invoke.recorded registry value start failure) :
    failure.complaint? = none := by
  cases fails with
  | evaluate _ _ failed => exact quiet.evaluate (Prod.ext failed rfl)
  | apply _ _ _ failed => exact quiet.evaluate (Prod.ext failed rfl)

section Handled

variable (host : Host σ) (registry : Registry) (value : Value) (start : σ × List HostCall)
  (drawn : String) (call : Http.Call)

private theorem failedPrecondition_iff_fails (complaint : String) :
    (Verdict.ofHandled (Request.handle host.invoke.recorded registry value start).1).reply =
        .failedPrecondition complaint ↔
      ∃ failure, Request.Fails host.invoke.recorded registry value start failure ∧
        failure.complaint? = none ∧ failure.message = complaint := by
  refine (Verdict.reply_eq_failedPrecondition_iff _).trans ?_
  constructor
  · rintro ⟨kindName, judged⟩
    obtain ⟨failure, fails, blamed, _, said⟩ :=
      (Verdict.ofHandled_eq_failed_iff host.invoke.recorded registry start).mp judged
    exact ⟨failure, fails, blamed, said⟩
  · rintro ⟨failure, fails, blamed, said⟩
    exact ⟨failure.kindName, (Verdict.ofHandled_eq_failed_iff _ registry start).mpr
      ⟨failure, fails, blamed, rfl, said⟩⟩

private theorem classifiedByCause_of_handle (quiet : host.Uncomplaining) :
    let handled := Request.handle host.invoke.recorded registry value start
    ClassifiedByCause host.invoke.recorded registry value start
      (handled.map (fun ended => (Verdict.ofHandled ended).reply) id)
      (handled.map (fun ended => .ofAnswer drawn call (Verdict.ofHandled ended).answer) id) := by
  intro handled
  have refused : ∀ {complaint shown : String},
      Verdict.ofHandled handled.1 = .invalid complaint shown ↔
        Request.Refused value complaint shown := by
    intro complaint shown
    rw [Verdict.ofHandled_eq_invalid_iff]
    refine ⟨fun invalid => ?_, .refused⟩
    cases invalid with
    | refused refused => exact refused
    | complained fails blamed => cases (fails.complaint?_eq quiet).symm.trans blamed
  constructor
  · refine (Verdict.invalid_iff (Verdict.ofHandled handled.1)).symm.trans ⟨?_, ?_⟩
    · rintro ⟨complaint, replied⟩
      obtain ⟨shown, judged, _⟩ := Verdict.eq_invalid_of_reply _ replied
      exact ⟨complaint, shown, refused.mp judged⟩
    · rintro ⟨complaint, shown, turned⟩
      exact ⟨complaint, congrArg Verdict.reply (refused.mpr turned)⟩
  · intro complaint replied
    obtain ⟨shown, judged, said⟩ := Verdict.eq_invalid_of_reply _ replied
    have turned := refused.mp judged
    exact ⟨(Verdict.refused_handle _ registry start turned).2, shown, turned, said⟩
  · intro complaint
    refine (failedPrecondition_iff_fails host registry value start complaint).trans ?_
    constructor
    · rintro ⟨failure, fails, _, said⟩
      exact ⟨failure, fails, said⟩
    · rintro ⟨failure, fails, said⟩
      exact ⟨failure, fails, fails.complaint?_eq quiet, said⟩

private theorem classifiedAlike_of_handle :
    let handled := Request.handle host.invoke.recorded registry value start
    ClassifiedAlike host registry value start
      (handled.map (fun ended => (Verdict.ofHandled ended).reply) id)
      (handled.map (fun ended => .ofAnswer drawn call (Verdict.ofHandled ended).answer) id) := by
  intro handled
  constructor
  · rfl
  · exact Verdict.statuses _
  · intro message
    cases judged : Verdict.ofHandled handled.1 <;> simp [judged, Verdict.reply]
  · exact Verdict.answered_iff _
  · exact fun sendable _ => Verdict.result_iff _ sendable
  · exact Verdict.invalid_iff _
  · intro complaint replied
    obtain ⟨shown, judged, said⟩ := Verdict.eq_invalid_of_reply _ replied
    exact ⟨shown, (Verdict.ofHandled_eq_invalid_iff _ registry start).mp judged, said⟩
  · exact fun _ => Verdict.failed_iff _
  · exact failedPrecondition_iff_fails host registry value start
  · exact classifiedByCause_of_handle host registry value start drawn call

end Handled

/-- A message that asks for what a name is bound to. -/
def askedFields : List (String × Wire) :=
  [("node", .struct [("type", .text "Identifier"), ("name", .text "x")]),
    ("context", .struct [("x", .bool true)])]

/-- The same message with its fields in another order. -/
def sentFields : List (String × Wire) :=
  [("context", .struct [("x", .bool true)]),
    ("node", .struct [("name", .text "x"), ("type", .text "Identifier")])]

def sentCall : Http.Call where
  method := "POST"
  target := "/v1/evaluate"
  headers := [("content-type", Http.binaryType)]
  body := Wire.encodeStruct sentFields

private theorem sendable_sentFields : Wire.Sendable sentFields := by
  refine ⟨?_, by decide, by decide +kernel⟩
  simp [sentFields, Wire.KeysDiffer, Wire.FieldKeysDiffer, Entries.keys]

private theorem same_askedFields_sentFields :
    Wire.Same (.struct askedFields) (.struct sentFields) := by
  have node : Wire.Same (.struct [("type", .text "Identifier"), ("name", .text "x")])
      (.struct [("name", .text "x"), ("type", .text "Identifier")]) :=
    .struct (.cons (.text _) (.cons (.text _) .nil)) (.swap ..)
  have context : Wire.Same (.struct [("x", .bool true)]) (.struct [("x", .bool true)]) :=
    .struct (.cons (.bool true) .nil) (.refl _)
  exact .struct (.cons node (.cons context .nil)) (.swap ..)

private theorem Host.plain_uncomplaining : Host.plain.Uncomplaining := by
  intro handle args failure before later ended
  cases ended

/-- A host whose functions declare every request malformed. -/
def Host.complaining : Host Nat where
  fresh := Host.plain.fresh
  call := fun _ _ => throw (.request (.raised none "nope"))

/-- A message that asks for a call of a function. -/
def callFields : List (String × Wire) :=
  [("node", .struct [("type", .text "CallExpression"), ("arguments", .list []),
    ("callee", .struct [("type", .text "Identifier"), ("name", .text "f")])]),
    ("builtins", .bool true)]

-- A complaint of the host counts against the request although a call was made for it.
example :
    let registry : Registry := ⟨[("f", .function ⟨"f", .host 0⟩)]⟩
    Id.run ((Rpc.evaluate Host.complaining.invoke.recorded registry (Ref.ofOrigin 1)
      callFields).run (3, [])) =
      (.invalidArgument "nope", 3,
        [⟨⟨"f", .host 0⟩, [], .error (.request (.raised none "nope"))⟩]) := by
  rfl

end ExprTree
