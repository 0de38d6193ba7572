import ExprTree.Document
import ExprTree.Node.Decode
import ExprTree.Registry
import ExprTree.Value.Render

/-!
The command that evaluates a document: it reads the tree, the context and, for a function header,
the arguments, and prints the result as JSON.
-/
namespace ExprTree.CommandLine

/-- Why a file cannot be read. -/
inductive ReadFault where
  | missing (path : String)
  | directory (path : String)
  | notDirectory (path : String)
  | denied (path : String)
  deriving DecidableEq, Repr

def ReadFault.message : ReadFault → String
  | missing path => "open " ++ path ++ ": no such file or directory"
  | directory path => "read " ++ path ++ ": is a directory"
  | notDirectory path => "open " ++ path ++ ": not a directory"
  | denied path => "open " ++ path ++ ": permission denied"

/-- What a command may read, its standard input and files, and how it reads YAML. -/
structure Inputs where
  stdin : List UInt8
  file : String → Except ReadFault (List UInt8)
  yaml : Yaml.Reader := Yaml.parse?

/-- Why the command fails. -/
inductive EvaluateFault where
  | source (fault : ReadFault)
  | document (fault : DocumentFault)
  | node (fault : NodeFault)
  | contextFile (fault : ReadFault)
  | contextDocument (fault : DocumentFault)
  | contextKind (path : String) (found : Kind)
  | header (fault : HeaderFault)
  | argsDocument (fault : DocumentFault)
  | argsKind
  | failed (failure : Failure)
  /-- The result cannot be written as JSON. -/
  | unwritable (fault : Json.WriteFault)
  deriving DecidableEq, Repr

namespace EvaluateFault

def message : EvaluateFault → String
  | source fault => fault.message
  | document fault => "decode AST: " ++ fault.message
  | node fault => "decode AST: " ++ fault.message
  | contextFile fault => "read context: " ++ fault.message
  | contextDocument fault => "read context: " ++ fault.message
  | contextKind path found => "read context: " ++ path ++ " must hold an object, got " ++ found.name
  | header fault => fault.message
  | argsDocument fault => "parse --args: " ++ fault.message
  | argsKind => "parse --args: expected a JSON list"
  | failed failure => failure.message
  | unwritable fault => fault.message

def kindName : EvaluateFault → String
  | failed failure => failure.kindName
  | _ => "Error"

end EvaluateFault

/-- What is logged on the way, at the debug level. -/
inductive Event where
  | applying (function : String) (params : List String) (args : Nat)
  | evaluated (typeName : String)
  deriving DecidableEq, Repr

structure EvaluateOptions where
  /-- The file of the tree; without one it comes from the standard input. -/
  source : Option String
  /-- The file of the context, empty for none. -/
  context : String
  builtins : Bool
  /-- Whether the tree is a function header to apply. -/
  function : Bool
  /-- The document of the arguments. -/
  args : String
  pretty : Bool
  deriving DecidableEq, Repr

/-- What is to be evaluated. -/
inductive Work where
  | tree (node : Node)
  | application (header : Header) (args : List Value)

namespace Work

def run (invoke : Invoke σ) (scope : Scope) : Work → Eval σ Value
  | tree node => evaluate invoke scope node
  | application header args => header.apply invoke args scope

/-- What is logged before the work. -/
def events : Work → List Event
  | tree _ => []
  | application header args => [.applying header.name header.params args.length]

end Work

namespace EvaluateOptions

/-- The containers of the tree's document, the context and the arguments have these origins; those
made later have greater ones. -/
def sourceRef : Ref := Ref.ofOrigin 1
def contextRef : Ref := Ref.ofOrigin 2
def argsRef : Ref := Ref.ofOrigin 3
def firstOrigin : Nat := 4

def readNode (options : EvaluateOptions) (inputs : Inputs) : Except EvaluateFault Node := do
  let octets ←
    match options.source with
    | none => .ok inputs.stdin
    | some path => (inputs.file path).mapError .source
  let datum ← (decodeDocument octets inputs.yaml).mapError .document
  (Node.decode (Value.ofDatum sourceRef datum)).mapError .node

/-- The bindings of a context file. -/
def readContext (options : EvaluateOptions) (inputs : Inputs) :
    Except EvaluateFault (Entries Value) := do
  if options.context = "" then .ok []
  else
    let octets ← (inputs.file options.context).mapError .contextFile
    let datum ← (decodeDocument octets inputs.yaml).mapError .contextDocument
    match Value.ofDatum contextRef datum with
    | .object _ entries => .ok entries
    | other => .error (.contextKind options.context other.kind)

def readArgs (options : EvaluateOptions) (inputs : Inputs) : Except EvaluateFault (List Value) := do
  let octets := Utf8.encode options.args.toList
  let datum ← (decodeDocument octets inputs.yaml).mapError .argsDocument
  match Value.ofDatum argsRef datum with
  | .array _ items => .ok items
  | _ => .error .argsKind

/-- Reads everything there is to read. The tree comes first, then the context, the header and the
arguments, and the first fault counts. -/
def prepare (options : EvaluateOptions) (inputs : Inputs) :
    Except EvaluateFault (Work × Scope) := do
  let node ← options.readNode inputs
  let vars ← options.readContext inputs
  let scope := if options.builtins then Registry.standard.scope vars else Scope.ofVars vars
  if options.function then
    let header ← (Header.ofNode node).mapError .header
    let args ← options.readArgs inputs
    .ok (.application header args, scope)
  else .ok (.tree node, scope)

/-- The line that shows a result, if it can be written. -/
def render (options : EvaluateOptions) (value : Value) : Except Json.WriteFault String := do
  if value.isUndefined then .ok "undefined\n"
  else
    let text ← value.write
    let shown ← if options.pretty then Json.layOut "  " text else .ok (String.ofList text)
    .ok (shown ++ "\n")

/-- Runs the command: what it logs, and what it prints or why it fails. -/
def run (options : EvaluateOptions) (inputs : Inputs) :
    List Event × Except EvaluateFault String :=
  match options.prepare inputs with
  | .error fault => ([], .error fault)
  | .ok (work, scope) =>
    match ((work.run Host.plain.invoke scope).run firstOrigin).1 with
    | .error failure => (work.events, .error (.failed failure))
    | .ok value =>
      (work.events ++ [.evaluated value.typeName], (options.render value).mapError .unwritable)

end EvaluateOptions

end ExprTree.CommandLine
