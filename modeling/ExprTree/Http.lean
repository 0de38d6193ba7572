import ExprTree.Document
import ExprTree.Http.Coding
import ExprTree.Request
import ExprTree.Text.Markup
import ExprTree.Value.Render
import ExprTree.Wire.Codec

/-!
The HTTP surface: a health check and the evaluation of requests, which come as documents or in the
binary form. Faults are answered as JSON whatever form the request had.
-/
namespace ExprTree.Http

structure Call where
  method : String
  /-- What the request line names: a path, and behind it perhaps a query. -/
  target : String
  headers : List (String × String)
  body : List UInt8

structure Reply where
  status : Nat
  contentType : String
  requestId : String
  body : List UInt8

/-- The content type of the binary form. -/
def binaryType : String := "application/x-protobuf"

def jsonType : String := "application/json"

def plainType : String := "text/plain; charset=utf-8"

/-- Takes blanks off both ends of a header's value. -/
def trimBlanks (text : List Char) : List Char :=
  let isBlank (c : Char) : Bool := c == ' ' || c == '\t' || c == '\n' || c == '\r'
  ((text.dropWhile isBlank).reverse.dropWhile isBlank).reverse

/-- The value of a header, whose name is written in any case; empty when there is none. -/
def Call.header (call : Call) (name : String) : String :=
  let lower (s : String) : List Char := s.toList.map Char.toLower
  match call.headers.find? fun header => lower header.1 == lower name with
  | some (_, value) => String.ofList (trimBlanks value.toList)
  | none => ""

/-- The body of a call with its codings undone. -/
def Call.content (call : Call) : List UInt8 :=
  contentOf (call.header "Content-Encoding") call.body

/-- The path of a call without query and fragment. -/
def Call.path (call : Call) : List Char :=
  call.target.toList.takeWhile fun c => c != '?' && c != '#'

/-- What paths lead to. -/
inductive Route where
  | health
  | evaluate
  deriving DecidableEq, Repr

/-- The route of a path; the case of letters and slashes at the end do not matter. -/
def Route.ofPath? (path : List Char) : Option Route :=
  let bare := ((path.map Char.toLower).reverse.dropWhile (· == '/')).reverse
  if bare = "/healthz".toList then some .health
  else if bare = "/v1/evaluate".toList then some .evaluate
  else none

/-- The methods that a route takes. -/
def Route.methods : Route → List String
  | health => ["GET", "HEAD"]
  | evaluate => ["POST"]

/-- The methods that a server knows at all. -/
def knownMethods : List String :=
  ["GET", "HEAD", "POST", "PUT", "DELETE", "CONNECT", "OPTIONS", "TRACE", "PATCH"]

/-- A JSON object whose members are written already. -/
def jsonObject (members : List (String × List Char)) : List Char :=
  '{' :: [','].intercalate (members.map fun member => Text.quoted member.1 ++ ':' :: member.2)
    ++ ['}']

/-- What a call comes to before the reply is put together. -/
inductive Answer where
  | health
  /-- A result by its type and its JSON text. -/
  | document (typeName : String) (text : List Char)
  | binary (octets : List UInt8)
  | badRequest (message : String)
  | failed (kindName message : String)
  /-- A result that cannot be sent. -/
  | unsent (message : String)
  | notFound (method : String) (path : List Char)
  | wrongMethod
  | unknownMethod

def Answer.status : Answer → Nat
  | health => 200
  | document .. => 200
  | binary _ => 200
  | badRequest _ => 400
  | failed .. => 422
  | unsent _ => 500
  | notFound .. => 404
  | wrongMethod => 405
  | unknownMethod => 400

def Answer.contentType : Answer → String
  | health => jsonType
  | document .. => jsonType
  | binary _ => binaryType
  | badRequest _ => jsonType
  | failed .. => jsonType
  | unsent _ => plainType
  | notFound .. => plainType
  | wrongMethod => plainType
  | unknownMethod => plainType

/-- The body of an answer; the members of its objects come in the order of their names. -/
def Answer.body (answer : Answer) : List UInt8 :=
  let number (n : Nat) : List Char := (toString n).toList
  match answer with
  | health => Utf8.encode (jsonObject [("status", Text.quoted "ok")])
  | document typeName text =>
    Utf8.encode (jsonObject [("type", Text.quoted typeName), ("value", text)])
  | binary octets => octets
  | badRequest message =>
    Utf8.encode (jsonObject [("error", jsonObject [("code", number answer.status),
      ("message", Text.quoted message), ("status", Text.quoted "INVALID_ARGUMENT")])])
  | failed kindName message =>
    Utf8.encode (jsonObject [("error", jsonObject [("code", number answer.status),
      ("kind", Text.quoted kindName), ("message", Text.quoted message),
      ("status", Text.quoted "FAILED_PRECONDITION")])])
  | unsent message => Utf8.encode message.toList
  | notFound method path =>
    Utf8.encode ("Cannot ".toList ++ method.toList ++ ' ' :: Text.markup path)
  | wrongMethod => Utf8.encode "Method Not Allowed".toList
  | unknownMethod => Utf8.encode "Invalid http method".toList

/-- Whether the request comes in the binary form. -/
def Call.isBinary (call : Call) : Bool :=
  binaryType.toList.isPrefixOf (call.header "Content-Type").toList

/-- The value in the body of a call, or what is wrong with the body. -/
def Call.bodyValue (call : Call) (ref : Ref) : Except String Value :=
  if call.isBinary then
    match Wire.decodeStruct call.content with
    | .ok fields => .ok (Value.ofWire ref (.struct fields))
    | .error fault => .error fault.message
  else
    match decodeDocument call.content with
    | .ok datum => .ok (Value.ofDatum ref datum)
    | .error fault => .error fault.message

/-- The request in the body of a call, or what is wrong with the body. -/
def Call.request (call : Call) (ref : Ref) : Except String Request := do
  (Request.ofValue (← call.bodyValue ref)).mapError RequestFault.message

/-- A result as a JSON document. -/
def Answer.ofValue (value : Value) : Answer :=
  let text : Except Json.WriteFault (List Char) := do
    Json.acceptPart Value.valueType (← value.write.mapError (.part Value.valueType))
  match text with
  | .ok text => .document value.typeName text
  | .error fault => .unsent fault.message

/-- A result in the binary form. -/
def Answer.ofMessage (value : Value) : Answer :=
  match encodeResult value with
  | .error fault => .unsent fault.message
  | .ok fields =>
    match Wire.marshal fields with
    | .error fault => .unsent fault.message
    | .ok octets => .binary octets

/-- Evaluates the request of a call. A failed evaluation is not the fault of the request, unless its
failure says so. -/
def evaluateCall (invoke : Invoke σ) (registry : Registry) (ref : Ref) (call : Call) :
    StateM σ Answer := do
  match call.request ref with
  | .error message => return .badRequest ("invalid request body: " ++ message)
  | .ok request =>
    match ← (request.run invoke registry).run with
    | .ok value => return if call.isBinary then .ofMessage value else .ofValue value
    | .error fault =>
      match fault.complaint? with
      | some complaint => return .badRequest complaint
      | none => return .failed fault.kindName fault.message

/-- Finds out what a call comes to. -/
def answer (invoke : Invoke σ) (registry : Registry) (ref : Ref) (call : Call) :
    StateM σ Answer := do
  if call.method ∉ knownMethods then return .unknownMethod
  else
    match Route.ofPath? call.path with
    | none => return .notFound call.method call.path
    | some route =>
      if call.method ∉ route.methods then return .wrongMethod
      else
        match route with
        | .health => return .health
        | .evaluate => evaluateCall invoke registry ref call

/-- The id of an exchange: that of the call, or the drawn one if the call has none. A call with an
unknown method is turned away before it gets one. -/
def replyId (drawn : String) (call : Call) : Answer → String
  | .unknownMethod => ""
  | _ => if call.header "X-Request-Id" = "" then drawn else call.header "X-Request-Id"

/-- Answers a call. The containers of the request get their identity from `ref`, and `drawn` is the
id of the exchange if the call brings none. The answer to `HEAD` has no body. -/
def handle (invoke : Invoke σ) (registry : Registry) (ref : Ref) (drawn : String) (call : Call) :
    StateM σ Reply := do
  let found ← answer invoke registry ref call
  return ⟨found.status, found.contentType, replyId drawn call found,
    if call.method = "HEAD" then [] else found.body⟩

end ExprTree.Http
