import ExprTree.Json.Nesting
import ExprTree.Value

/-! Why an evaluation fails. Each cause carries what its message names; the wording is in
`Failure.message`. -/
namespace ExprTree

inductive Failure where
  /-- A node that cannot be evaluated. -/
  | unsupportedNode (tag : String)
  | unsupportedBinary (operator : String)
  | unsupportedUnary (operator : String)
  /-- A member of null or undefined was read. -/
  | nullishBase (base : Kind) (key : String)
  /-- A member written with a dot whose name is not an identifier. -/
  | propertyName (tag : String)
  | notCallable (callee : String)
  | nullishToObject
  | malformedComponent
  | outsideLatin
  | malformedBase64
  | malformedJson
  /-- A value that cannot be written as JSON. -/
  | unwritable (fault : Json.WriteFault)
  /-- Raised by a host function, with or without a kind of its own. -/
  | raised (kind : Option String) (text : String)
  /-- Raised by a host function that holds the request to be malformed. -/
  | request (cause : Failure)
  /-- Another failure, reported from within something. -/
  | within (context : String) (cause : Failure)
  deriving DecidableEq, Repr

namespace Failure

/-- The kind of the failures that a value's type is to blame for. -/
def typeErrorKind : String := "TypeError"

/-- The kind, looked for through the contexts; the plain failures have none. -/
def kind? : Failure → Option String
  | unsupportedNode _ => some "UnsupportedNodeType"
  | unsupportedBinary _ => some "UnsupportedBinaryOperator"
  | unsupportedUnary _ => some "UnsupportedUnaryOperator"
  | nullishBase .. => some typeErrorKind
  | propertyName _ => some typeErrorKind
  | notCallable _ => some typeErrorKind
  | nullishToObject => some typeErrorKind
  | malformedComponent => none
  | outsideLatin => none
  | malformedBase64 => none
  | malformedJson => none
  | unwritable _ => none
  | raised kind _ => kind
  | request cause => cause.kind?
  | within _ cause => cause.kind?

/-- The kind under which a failure is reported. -/
def kindName (f : Failure) : String :=
  f.kind?.getD "Error"

def message : Failure → String
  | unsupportedNode tag => "Unsupported node type: " ++ tag
  | unsupportedBinary operator => "Unsupported binary operator: " ++ operator
  | unsupportedUnary operator => "Unsupported unary operator: " ++ operator
  | nullishBase base key =>
    "TypeError: Cannot read properties of " ++ base.name ++ " (reading '" ++ key ++ "')"
  | propertyName tag =>
    "TypeError: non-computed member property must be an Identifier, got " ++ tag
  | notCallable callee => "TypeError: " ++ callee ++ " is not a function"
  | nullishToObject => "TypeError: Cannot convert undefined or null to object"
  | malformedComponent => "URIError: URI malformed"
  | outsideLatin =>
    "InvalidCharacterError: btoa: the string contains characters outside of the Latin1 range"
  | malformedBase64 =>
    "InvalidCharacterError: atob: the string to be decoded is not correctly encoded"
  | malformedJson => "SyntaxError: JSON.parse: invalid JSON input"
  | unwritable fault => fault.message
  | raised kind text => if kind = some typeErrorKind then "TypeError: " ++ text else text
  | request cause => cause.message
  | within context cause => context ++ ": " ++ cause.message

/-- What a failure says against the request, looked for through the contexts. -/
def complaint? : Failure → Option String
  | request cause => some cause.message
  | within _ cause => cause.complaint?
  | _ => none

end Failure

end ExprTree
