import ExprTree.Builtin
import ExprTree.Double
import ExprTree.Entries

/-!
Runtime values. Objects, arrays and functions have an identity besides their content: a `Ref` names
the document or call that brought a container into being and its place in there, so that decoding
the same text twice gives different containers and copying a value keeps the identity.
-/
namespace ExprTree

/-- One step into a container. -/
inductive Step where
  | key (name : String)
  | index (place : Nat)
  deriving DecidableEq, Repr

/-- The identity of a container: what it was made by and where in there it stands, innermost step
first. -/
structure Ref where
  origin : Nat
  path : List Step
  deriving DecidableEq, Repr

def Ref.ofOrigin (origin : Nat) : Ref := ⟨origin, []⟩

def Ref.child (r : Ref) (step : Step) : Ref := ⟨r.origin, step :: r.path⟩

/-- What runs when a function is called: a standard function, or one that the host knows by a
handle. -/
inductive Code where
  | builtin (b : Builtin)
  | host (handle : Nat)
  deriving DecidableEq, Repr

/-- A function value. Two are the same function exactly when they run the same code. -/
structure Callable where
  name : String
  code : Code
  deriving DecidableEq, Repr

inductive Value where
  | undefined
  | null
  | bool (b : Bool)
  | number (x : Double)
  | text (s : String)
  | object (ref : Ref) (entries : List (String × Value))
  | array (ref : Ref) (items : List Value)
  | function (callable : Callable)

instance : Inhabited Value := ⟨.undefined⟩

/-- The kinds of values. -/
inductive Kind where
  | undefined
  | null
  | boolean
  | number
  | string
  | object
  | array
  | function
  deriving DecidableEq, Repr

def Kind.name : Kind → String
  | undefined => "undefined"
  | null => "null"
  | boolean => "boolean"
  | number => "number"
  | string => "string"
  | object => "object"
  | array => "array"
  | function => "function"

namespace Value

def kind : Value → Kind
  | undefined => .undefined
  | null => .null
  | bool _ => .boolean
  | number _ => .number
  | text _ => .string
  | object .. => .object
  | array .. => .array
  | function _ => .function

/-- The answer of `typeof`, which calls null and arrays objects. -/
def typeName (v : Value) : String :=
  match v.kind with
  | .null => "object"
  | .array => "object"
  | kind => kind.name

def isNullish : Value → Bool
  | undefined => true
  | null => true
  | _ => false

def isUndefined : Value → Bool
  | undefined => true
  | _ => false

/-- Whether the value has an identity besides its content. -/
def isReference : Value → Bool
  | object .. => true
  | array .. => true
  | function _ => true
  | _ => false

mutual

/-- Gives the object with an identity new entries wherever it occurs in a value. -/
def refresh (ref : Ref) (entries : List (String × Value)) : Value → Value
  | object r old => object r (if r = ref then entries else refreshEntries ref entries old)
  | array r items => array r (refreshItems ref entries items)
  | other => other

def refreshEntries (ref : Ref) (entries : List (String × Value)) :
    List (String × Value) → List (String × Value)
  | [] => []
  | (key, value) :: rest =>
    (key, refresh ref entries value) :: refreshEntries ref entries rest

def refreshItems (ref : Ref) (entries : List (String × Value)) : List Value → List Value
  | [] => []
  | value :: rest => refresh ref entries value :: refreshItems ref entries rest

end

end Value

end ExprTree
