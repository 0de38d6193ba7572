import ExprTree.Value

/-! Access to the content of a value by someone who knows its kind. Asking for the wrong kind is a
fault of the asker, reported with the kind that was found. -/
namespace ExprTree

/-- A request for the content of one kind that met another. -/
structure AccessFault where
  accessor : String
  found : Kind
  deriving DecidableEq, Repr

def AccessFault.message (fault : AccessFault) : String :=
  fault.accessor ++ " called on " ++ fault.found.name ++ " value"

namespace Value

def asBool : Value → Except AccessFault Bool
  | bool b => .ok b
  | other => .error ⟨"AsBool", other.kind⟩

def asNumber : Value → Except AccessFault Double
  | number x => .ok x
  | other => .error ⟨"AsNumber", other.kind⟩

def asText : Value → Except AccessFault String
  | text s => .ok s
  | other => .error ⟨"AsString", other.kind⟩

def asObject : Value → Except AccessFault (Entries Value)
  | object _ entries => .ok entries
  | other => .error ⟨"AsObject", other.kind⟩

def asArray : Value → Except AccessFault (List Value)
  | array _ items => .ok items
  | other => .error ⟨"AsArray", other.kind⟩

def asFunction : Value → Except AccessFault Callable
  | function callable => .ok callable
  | other => .error ⟨"AsFunction", other.kind⟩

end Value

end ExprTree
