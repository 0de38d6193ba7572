import ExprTree.Node.Decode
import ExprTree.Registry
import ExprTree.Text.Quoted
import ExprTree.Wire

/-!
Requests: a tree with bindings for its names and, when the tree is a function header, arguments for
its parameters. Each surface of the program reads its own format and then works on these.
-/
namespace ExprTree

structure Request where
  node : Node
  vars : Entries Value
  builtins : Bool
  /-- Present when the tree is a header to apply. -/
  args : Option (List Value)

/-- Why a value is no request. -/
inductive RequestFault where
  | notObject
  | noNode
  | node (fault : NodeFault)
  | context
  | args
  deriving DecidableEq, Repr

def RequestFault.message : RequestFault → String
  | notObject => "body must be an object"
  | noNode => "node is required"
  | node fault => fault.message
  | context => "context must be an object"
  | args => "args must be a list"

/-- Why a request has no result: the header cannot be applied, or the evaluation failed. -/
inductive RunFault where
  | header (fault : HeaderFault)
  | failed (failure : Failure)
  deriving DecidableEq, Repr

def RunFault.message : RunFault → String
  | header fault => fault.message
  | failed failure => failure.message

/-- What a fault says against the request. A header that cannot be applied is the fault of the
request, and so is a failure that says so of itself. -/
def RunFault.complaint? : RunFault → Option String
  | header fault => some fault.message
  | failed failure => failure.complaint?

def RunFault.kindName : RunFault → String
  | header _ => "RequestError"
  | failed failure =>
    if failure.complaint?.isSome then "RequestError" else failure.kindName

namespace Request

/-- A field that is there and neither null nor undefined. -/
def present? (fields : Entries Value) (name : String) : Option Value :=
  (Entries.get? fields name).filter fun value => !value.isNullish

/-- The bindings of a request, none where there is no context. -/
def readContext (fields : Entries Value) : Except RequestFault (Entries Value) :=
  match present? fields "context" with
  | none => .ok []
  | some (.object _ entries) => .ok entries
  | some _ => .error .context

def readArgs (fields : Entries Value) : Except RequestFault (Option (List Value)) :=
  match present? fields "args" with
  | none => .ok none
  | some (.array _ items) => .ok (some items)
  | some _ => .error .args

/-- Reads the tree, then the context, then the arguments; the first fault counts. -/
def ofFields (fields : Entries Value) : Except RequestFault Request := do
  let node ←
    match Entries.get? fields "node" with
    | none => .error .noNode
    | some spelled => (Node.decode spelled).mapError .node
  let vars ← readContext fields
  let args ← readArgs fields
  .ok ⟨node, vars, ((Entries.get? fields "builtins").getD .undefined).truthy, args⟩

def ofValue : Value → Except RequestFault Request
  | .object _ fields => ofFields fields
  | _ => .error .notObject

/-- The bindings that the tree of a request sees. -/
def scope (registry : Registry) (request : Request) : Scope :=
  if request.builtins then registry.scope request.vars else Scope.ofVars request.vars

/-- A computation that ends in a fault of a run. -/
abbrev Run (σ α : Type) := ExceptT RunFault (StateM σ) α

def Run.ofEval (action : Eval σ α) : Run σ α :=
  ExceptT.mk do return (← action.run).mapError .failed

/-- Evaluates the tree, or applies it as a header when arguments are given. -/
def run (invoke : Invoke σ) (registry : Registry) (request : Request) : Run σ Value :=
  match request.args with
  | none => Run.ofEval (evaluate invoke (request.scope registry) request.node)
  | some args =>
    match Header.ofNode request.node with
    | .error fault => throw (.header fault)
    | .ok header => Run.ofEval (header.apply invoke args (request.scope registry))

end Request

/-- The protocol form of a result: its type and itself. -/
def resultFields (value : Value) : List (String × Wire) :=
  [("type", .text value.typeName), ("value", value.toWire)]

/-- A result that has no protocol form for a text that is not UTF-8. -/
structure ResultFault where
  text : String
  deriving DecidableEq, Repr

def ResultFault.message (fault : ResultFault) : String :=
  "proto: invalid UTF-8 in string: " ++ String.ofList (Text.quoted fault.text)

/-- The protocol form of a result whose texts are UTF-8. -/
def encodeResult (value : Value) : Except ResultFault (List (String × Wire)) :=
  match value.toWire.broken? with
  | some text => .error ⟨text⟩
  | none => .ok (resultFields value)

end ExprTree
