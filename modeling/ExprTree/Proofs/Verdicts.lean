import ExprTree.Proofs.ErrorBodies
import ExprTree.Proofs.Handling
import ExprTree.Proofs.Messages
import ExprTree.Rpc

/-!
What becomes of a value that is meant to be a request: a result, an invalid request, or a failed
evaluation, each with its cause, and how the two servers say it.
-/
namespace ExprTree

namespace Request

/-- A value that cannot be run as a request, with what the remote procedure and the HTTP surface say
of it. -/
inductive Refused (value : Value) : String → String → Prop where
  | unread {fault : RequestFault} (refused : ofValue value = .error fault) :
      Refused value ("invalid request: " ++ fault.message)
        ("invalid request body: " ++ fault.message)
  | header {request : Request} {args : List Value} {fault : HeaderFault}
      (read : ofValue value = .ok request) (given : request.args = some args)
      (refused : Header.ofNode request.node = .error fault) :
      Refused value fault.message fault.message

/-- A value that is a request whose evaluation, or whose application to its arguments, fails. -/
inductive Fails (invoke : Invoke σ) (registry : Registry) (value : Value) (host : σ) :
    Failure → Prop where
  | evaluate {request : Request} {failure : Failure} (read : ofValue value = .ok request)
      (bare : request.args = none)
      (failed : ((ExprTree.evaluate invoke (request.scope registry) request.node).outcome host).1 =
        .error failure) :
      Fails invoke registry value host failure
  | apply {request : Request} {args : List Value} {header : Header} {failure : Failure}
      (read : ofValue value = .ok request) (given : request.args = some args)
      (spelled : Header.ofNode request.node = .ok header)
      (failed : ((header.apply invoke args (request.scope registry)).outcome host).1 =
        .error failure) :
      Fails invoke registry value host failure

/-- A value that is refused as a request, or whose evaluation fails with a complaint about it. -/
inductive Invalid (invoke : Invoke σ) (registry : Registry) (value : Value) (host : σ) :
    String → String → Prop where
  | refused {complaint shown : String} (refused : Refused value complaint shown) :
      Invalid invoke registry value host complaint shown
  | complained {failure : Failure} {complaint : String}
      (fails : Fails invoke registry value host failure)
      (complained : failure.complaint? = some complaint) :
      Invalid invoke registry value host complaint complaint

end Request

/-- What the servers make of a message. -/
inductive Verdict where
  | result (value : Value)
  /-- What the remote procedure and the HTTP surface say of an invalid request. -/
  | invalid (complaint shown : String)
  | failed (kindName message : String)

namespace Verdict

def ofRunFault (fault : RunFault) : Verdict :=
  match fault.complaint? with
  | some complaint => .invalid complaint complaint
  | none => .failed fault.kindName fault.message

/-- The verdict on how handling a request ended. -/
def ofHandled : Except Request.HandleFault Value → Verdict
  | .ok value => .result value
  | .error (.request fault) =>
    .invalid ("invalid request: " ++ fault.message) ("invalid request body: " ++ fault.message)
  | .error (.run fault) => .ofRunFault fault

/-- How the remote procedure says it. -/
def reply : Verdict → Rpc.Reply
  | result value => .ok (resultFields value)
  | invalid complaint _ => .invalidArgument complaint
  | failed _ message => .failedPrecondition message

/-- How the HTTP surface says it to those who sent a message. -/
def answer : Verdict → Http.Answer
  | result value => .binary (Wire.encodeStruct (resultFields value))
  | invalid _ shown => .badRequest shown
  | failed kindName message => .failed kindName message

section Handling

variable (invoke : Invoke σ) (registry : Registry) {value : Value} (host : σ)

open Request

theorem fails_iff {failure : Failure} :
    Fails invoke registry value host failure ↔
      (handle invoke registry value host).1 = .error (.run (.failed failure)) := by
  constructor
  · intro fails
    cases fails with
    | evaluate read bare failed =>
      rw [handle_of_bare invoke registry host read bare]
      exact evaluated_eq_failed_iff.mpr failed
    | apply read given spelled failed =>
      rw [handle_of_header invoke registry host read given spelled]
      exact evaluated_eq_failed_iff.mpr failed
  · intro ended
    have cases := handled invoke registry host value
    generalize handle invoke registry value host = last at cases ended
    cases cases with
    | unread refused => cases ended
    | headless read given refused => cases ended
    | bare read bare => exact .evaluate read bare (evaluated_eq_failed_iff.mp ended)
    | header read given spelled =>
      exact .apply read given spelled (evaluated_eq_failed_iff.mp ended)

/-- A refused value is invalid, and nothing runs for it. -/
theorem refused_handle {complaint shown : String} (refused : Refused value complaint shown) :
    ofHandled (handle invoke registry value host).1 = .invalid complaint shown ∧
      (handle invoke registry value host).2 = host := by
  cases refused with
  | unread refused =>
    rw [handle_of_error invoke registry host refused]
    exact ⟨rfl, rfl⟩
  | header read given refused =>
    rw [handle_of_headless invoke registry host read given refused]
    exact ⟨rfl, rfl⟩

/-- A value that is not refused ends with a result or a failure. -/
theorem refused_or_evaluated :
    (∃ complaint shown, Refused value complaint shown) ∨
      (∃ result, (handle invoke registry value host).1 = .ok result) ∨
        ∃ failure, Fails invoke registry value host failure := by
  have cases := handled invoke registry host value
  cases ended : (handle invoke registry value host).1 with
  | ok result => exact .inr (.inl ⟨result, rfl⟩)
  | error fault =>
    have fails := fun failure => @fails_iff _ invoke registry value host failure
    generalize handle invoke registry value host = last at cases ended fails
    cases cases with
    | unread refused => exact .inl ⟨_, _, .unread refused⟩
    | headless read given refused => exact .inl ⟨_, _, .header read given refused⟩
    | bare | header =>
      generalize ExprTree.Eval.outcome _ host = ending at ended fails
      obtain ⟨_ | _, later⟩ := ending
      · exact .inr (.inr ⟨_, (fails _).mpr rfl⟩)
      · cases ended

private theorem ofHandled_failed (failure : Failure) :
    ofHandled (.error (.run (.failed failure))) =
      match failure.complaint? with
      | some complaint => .invalid complaint complaint
      | none => .failed failure.kindName failure.message := by
  rw [ofHandled, ofRunFault, RunFault.complaint?]
  cases blamed : failure.complaint? with
  | none => simp [RunFault.kindName, blamed, RunFault.message]
  | some complaint => rfl

theorem ofHandled_eq_invalid_iff {complaint shown : String} :
    ofHandled (handle invoke registry value host).1 = .invalid complaint shown ↔
      Invalid invoke registry value host complaint shown := by
  constructor
  · intro judged
    rcases refused_or_evaluated invoke registry host with
      ⟨other, otherShown, refused⟩ | ⟨result, ended⟩ | ⟨failure, fails⟩
    · cases (refused_handle invoke registry host refused).1.symm.trans judged
      exact .refused refused
    · rw [ended] at judged
      cases judged
    · rw [(fails_iff invoke registry host).mp fails, ofHandled_failed] at judged
      cases blamed : failure.complaint? with
      | none =>
        rw [blamed] at judged
        cases judged
      | some complaint =>
        rw [blamed] at judged
        cases judged
        exact .complained fails blamed
  · intro invalid
    cases invalid with
    | refused refused => exact (refused_handle invoke registry host refused).1
    | complained fails blamed =>
      rw [(fails_iff invoke registry host).mp fails, ofHandled_failed, blamed]

theorem ofHandled_eq_failed_iff {kindName message : String} :
    ofHandled (handle invoke registry value host).1 = .failed kindName message ↔
      ∃ failure, Fails invoke registry value host failure ∧ failure.complaint? = none ∧
        failure.kindName = kindName ∧ failure.message = message := by
  constructor
  · intro judged
    rcases refused_or_evaluated invoke registry host with
      ⟨complaint, shown, refused⟩ | ⟨result, ended⟩ | ⟨failure, fails⟩
    · cases (refused_handle invoke registry host refused).1.symm.trans judged
    · rw [ended] at judged
      cases judged
    · rw [(fails_iff invoke registry host).mp fails, ofHandled_failed] at judged
      cases blamed : failure.complaint? with
      | none =>
        rw [blamed] at judged
        cases judged
        exact ⟨failure, fails, blamed, rfl, rfl⟩
      | some complaint =>
        rw [blamed] at judged
        cases judged
  · rintro ⟨failure, fails, blamed, rfl, rfl⟩
    rw [(fails_iff invoke registry host).mp fails, ofHandled_failed, blamed]

end Handling

section Words

variable (verdict : Verdict)

theorem statuses : verdict.answer.status = 200 ∨ verdict.answer.status = 400 ∨
    verdict.answer.status = 422 := by
  cases verdict <;> simp [answer, Http.Answer.status]

theorem answered_iff :
    (∃ result, verdict.reply = .ok result) ↔ verdict.answer.status = 200 := by
  cases verdict <;> simp [reply, answer, Http.Answer.status]

theorem invalid_iff :
    (∃ complaint, verdict.reply = .invalidArgument complaint) ↔ verdict.answer.status = 400 := by
  cases verdict <;> simp [reply, answer, Http.Answer.status]

theorem eq_invalid_of_reply {complaint : String}
    (replied : verdict.reply = .invalidArgument complaint) :
    ∃ shown, verdict = .invalid complaint shown ∧
      Http.errorMessage? verdict.answer.body = some shown := by
  cases verdict with
  | result value => cases replied
  | failed kindName message => cases replied
  | invalid other shown =>
    cases replied
    exact ⟨shown, rfl, Http.errorMessage?_badRequest shown⟩

theorem reply_eq_failedPrecondition_iff {complaint : String} :
    verdict.reply = .failedPrecondition complaint ↔
      ∃ kindName, verdict = .failed kindName complaint := by
  cases verdict <;> simp [reply]

theorem failed_iff {complaint : String} : verdict.reply = .failedPrecondition complaint ↔
    verdict.answer.status = 422 ∧
      Http.errorMessage? verdict.answer.body = some complaint := by
  cases verdict <;> simp [reply, answer, Http.Answer.status, Http.errorMessage?_failed]

theorem result_iff (sendable : ∀ result, verdict.reply = .ok result → Wire.Sendable result)
    {result : List (String × Wire)} : verdict.reply = .ok result ↔
      verdict.answer.status = 200 ∧ Wire.decodeStruct verdict.answer.body = .ok result := by
  cases verdict with
  | result value =>
    have back : Wire.decodeStruct (Http.Answer.binary (Wire.encodeStruct (resultFields value))).body
        = .ok (resultFields value) := Wire.decodeStruct_encodeStruct (sendable _ rfl)
    simp [reply, answer, Http.Answer.status, back]
  | invalid complaint shown => simp [reply, answer, Http.Answer.status]
  | failed kindName message => simp [reply, answer, Http.Answer.status]

end Words

end Verdict

end ExprTree
