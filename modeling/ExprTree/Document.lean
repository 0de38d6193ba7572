import ExprTree.Datum
import ExprTree.Json.Parse
import ExprTree.Yaml.Resolve

/-!
Documents. A text that is JSON is read as JSON, and only what is not is read as YAML, of which the
first document counts. Members and items keep their order; a repeated key keeps its first place and
takes its last value.
-/
namespace ExprTree

/-- Why octets are no document. -/
inductive DocumentFault where
  | malformed
  | empty
  /-- A scalar whose tag does not fit its text. -/
  | scalar (line : Nat)
  | keyNotScalar (line : Nat)
  deriving DecidableEq, Repr

def DocumentFault.message : DocumentFault → String
  | malformed => "decode document: yaml: malformed document"
  | empty => "decode document: empty input"
  | scalar line => "line " ++ toString line ++ ": yaml: the text does not fit the tag"
  | keyNotScalar line => "line " ++ toString line ++ ": mapping keys must be scalars"

namespace Yaml

def scalarDatum (line : Nat) (tag : String) (plain : Bool) (text : String) :
    Except DocumentFault Datum :=
  match scalarMeaning? tag plain text with
  | some .null => .ok .null
  | some (.bool b) => .ok (.bool b)
  | some (.int i _) => .ok (.number (Double.ofInt i))
  | some (.float x) => .ok (.number x)
  | some .text => .ok (.text text)
  | none => .error (.scalar line)

/-- The key of a pair: the text of a scalar, whatever it means. -/
def keyText : Node → Except DocumentFault String
  | .scalar _ _ _ text => .ok text
  | .sequence line _ => .error (.keyNotScalar line)
  | .mapping line _ => .error (.keyNotScalar line)
  | .alias line _ => .error (.keyNotScalar line)
  | .circular line => .error (.keyNotScalar line)

mutual

/-- The data of a node; an alias stands for a copy of its target. An alias inside its own anchor
stands for data that never end: the program recurs on it without returning, and here it is a fault,
so nothing is known about such documents. -/
def Node.toDatum : Node → Except DocumentFault Datum
  | .scalar line tag plain text => scalarDatum line tag plain text
  | .sequence _ items => do .ok (.list (← toData items))
  | .mapping _ pairs => do .ok (.record (Entries.ofPairs (← toEntries pairs)))
  | .alias _ target => target.toDatum
  | .circular _ => .error .malformed

def toData : List Node → Except DocumentFault (List Datum)
  | [] => .ok []
  | item :: rest => do
    let first ← item.toDatum
    .ok (first :: (← toData rest))

def toEntries : List (Node × Node) → Except DocumentFault (List (String × Datum))
  | [] => .ok []
  | (key, value) :: rest => do
    let name ← keyText key
    let first ← value.toDatum
    .ok ((name, first) :: (← toEntries rest))

end

end Yaml

/-- A reader of the YAML language: nothing for octets that are malformed, and no node for those that
hold no document. -/
abbrev Yaml.Reader := List UInt8 → Option (Option Yaml.Node)

/-- The data of a document. What is no JSON is left to the reader of YAML. -/
def decodeDocument (octets : List UInt8) (yaml : Yaml.Reader := Yaml.parse?) :
    Except DocumentFault Datum :=
  match Json.parse? (Utf8.decodeLossy octets) with
  | some json => .ok json.toDatum
  | none =>
    match yaml octets with
    | none => .error .malformed
    | some none => .error .empty
    | some (some root) => root.toDatum

end ExprTree
