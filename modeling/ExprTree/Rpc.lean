import ExprTree.Request

/-! The remote procedure that evaluates requests given as protocol structs. -/
namespace ExprTree.Rpc

/-- The full name of the procedure. -/
def method : String := "/asteval.v1.Evaluator/Evaluate"

inductive Reply where
  | ok (fields : List (String × Wire))
  | invalidArgument (message : String)
  | failedPrecondition (message : String)
  | internal (message : String)

/-- The name of the status code of a reply. -/
def Reply.code : Reply → String
  | ok _ => "OK"
  | invalidArgument _ => "InvalidArgument"
  | failedPrecondition _ => "FailedPrecondition"
  | internal _ => "Internal"

/-- Answers a call. The containers of the request get their identity from `ref`. A struct that is no
request or whose header cannot be applied is the caller's fault. A failed evaluation is not, unless
its failure says so. -/
def evaluate (invoke : Invoke σ) (registry : Registry) (ref : Ref)
    (fields : List (String × Wire)) : StateM σ Reply := do
  match Request.ofValue (Value.ofWire ref (.struct fields)) with
  | .error fault => return .invalidArgument ("invalid request: " ++ fault.message)
  | .ok request =>
    match ← (request.run invoke registry).run with
    | .ok value =>
      match encodeResult value with
      | .ok fields => return .ok fields
      | .error fault => return .internal ("encode result: " ++ fault.message)
    | .error fault =>
      match fault.complaint? with
      | some complaint => return .invalidArgument complaint
      | none => return .failedPrecondition fault.message

end ExprTree.Rpc
