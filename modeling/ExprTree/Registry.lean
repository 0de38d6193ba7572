import ExprTree.Builtin.Call
import ExprTree.Eval

/-!
Global bindings. A dotted name is an entry of the object that its first part names. A registry is
also how the host runs functions: the standard ones here, and all others by the handles it gave out.
-/
namespace ExprTree

structure Registry where
  globals : Entries Value

namespace Registry

/-- Splits a name at its first dot. -/
def splitName (name : String) : Option (String × String) :=
  let chars := name.toList
  match chars.dropWhile (· ≠ '.') with
  | _ :: rest => some (String.ofList (chars.takeWhile (· ≠ '.')), String.ofList rest)
  | [] => none

/-- The part of a name behind its last dot. -/
def shortName (name : String) : String :=
  String.ofList (name.toList.reverse.takeWhile (· ≠ '.')).reverse

def lookup (r : Registry) (name : String) : Value :=
  (Entries.get? r.globals name).getD .undefined

/-- The value of a name that may be dotted. -/
def resolve (r : Registry) (name : String) : Value :=
  match splitName name with
  | none => r.lookup name
  | some (space, entry) =>
    match r.lookup space with
    | .object _ entries => (Entries.get? entries entry).getD .undefined
    | _ => .undefined

/-- Binds a name. A dotted one becomes an entry of the object its first part names, seen by all who
hold that object; where there is no such object, a new one with identity from `origin` takes the
place. -/
def registerValue (r : Registry) (origin : Nat) (name : String) (value : Value) : Registry :=
  match splitName name with
  | none => ⟨Entries.set r.globals name value⟩
  | some (space, entry) =>
    match Entries.get? r.globals space with
    | some (.object ref entries) =>
      ⟨Value.refreshEntries ref (Entries.set entries entry value) r.globals⟩
    | _ =>
      let ref := (Ref.ofOrigin origin).child (.key space)
      ⟨Entries.set r.globals space (.object ref [(entry, value)])⟩

/-- Binds a function, which is called by the last part of the name. -/
def register (r : Registry) (origin : Nat) (name : String) (code : Code) : Registry :=
  r.registerValue origin name (.function ⟨shortName name, code⟩)

/-- The standard functions under their names. -/
def standardFunctions : List (String × Builtin) :=
  [("Number", .toNumber), ("String", .toText), ("Boolean", .toBoolean), ("parseInt", .parseInt),
    ("parseFloat", .parseFloat), ("isNaN", .isNaN), ("isFinite", .isFinite),
    ("Math.abs", .mathAbs), ("Math.floor", .mathFloor), ("Math.ceil", .mathCeil),
    ("Math.trunc", .mathTrunc), ("Math.sqrt", .mathSqrt), ("Math.round", .mathRound),
    ("Math.sign", .mathSign), ("Math.pow", .mathPow), ("Math.max", .mathMax),
    ("Math.min", .mathMin), ("JSON.stringify", .jsonStringify), ("JSON.parse", .jsonParse),
    ("Object.keys", .objectKeys), ("Object.values", .objectValues),
    ("Array.isArray", .arrayIsArray), ("encodeURIComponent", .encodeComponent),
    ("decodeURIComponent", .decodeComponent), ("btoa", .toBase64), ("atob", .ofBase64)]

/-- The standard constants. The two of `Math` are the numbers nearest to the constants. -/
def standardConstants : List (String × Value) :=
  [("undefined", .undefined), ("NaN", .number .nan), ("Infinity", .number (.infinite false)),
    ("Math.PI", .number (Double.ofDecimal false ⟨3141592653589793238, -18⟩)),
    ("Math.E", .number (Double.ofDecimal false ⟨2718281828459045235, -18⟩))]

/-- All standard bindings; their containers have the origin 0. -/
def standard : Registry :=
  let constants := standardConstants.foldl (fun r (name, v) => r.registerValue 0 name v) ⟨[]⟩
  standardFunctions.foldl (fun r (name, b) => r.register 0 name (.builtin b)) constants

/-- Caller's bindings over the global ones. -/
def scope (r : Registry) (vars : Entries Value) : Scope :=
  .layer vars (Scope.ofVars r.globals)

end Registry

/-- A host: how it numbers what its calls make, and what its own functions do. -/
structure Host (σ : Type) where
  fresh : StateM σ Nat
  call : Nat → List Value → Eval σ Value

/-- Runs a function: the standard ones by `Builtin.call`, the others by the host. -/
def Host.invoke (host : Host σ) : Invoke σ := fun callable args =>
  match callable.code with
  | .builtin b => do
    let origin ← (host.fresh : StateM σ Nat)
    Eval.ofExcept (b.call origin args)
  | .host handle => host.call handle args

/-- A host without functions of its own; the state counts the origins. -/
def Host.plain : Host Nat where
  fresh := fun next => (next, next + 1)
  call := fun _ _ => pure .undefined

end ExprTree
