import ExprTree.Datum
import ExprTree.Numeral

/-! JSON documents as syntax: numbers by their spelling and members as they are written. -/
namespace ExprTree

inductive Json where
  | null
  | bool (b : Bool)
  | number (spelling : List Char)
  | text (s : String)
  | list (items : List Json)
  | record (members : List (String × Json))

namespace Json

mutual

/-- The data a document stands for: a number beyond the finite range is infinite, and a repeated
member keeps its first place and takes its last value. -/
def toDatum : Json → Datum
  | null => .null
  | bool b => .bool b
  | number spelling => .number ((Numeral.decimal? spelling).getD .nan)
  | text s => .text s
  | list items => .list (toData items)
  | record members => .record (Entries.ofPairs (toEntries members))

def toData : List Json → List Datum
  | [] => []
  | item :: rest => toDatum item :: toData rest

def toEntries : List (String × Json) → List (String × Datum)
  | [] => []
  | (key, item) :: rest => (key, toDatum item) :: toEntries rest

end

end Json

end ExprTree
