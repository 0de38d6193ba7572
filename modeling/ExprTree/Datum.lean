import ExprTree.Value

/-! Data as documents hold it: ordered records without identity, undefined or functions. -/
namespace ExprTree

inductive Datum where
  | null
  | bool (b : Bool)
  | number (x : Double)
  | text (s : String)
  | list (items : List Datum)
  | record (entries : List (String × Datum))

namespace Value

mutual

/-- The value of a document, each container with the identity of its place. -/
def ofDatum (ref : Ref) : Datum → Value
  | .null => null
  | .bool b => bool b
  | .number x => number x
  | .text s => text s
  | .list items => array ref (ofDatumItems ref 0 items)
  | .record entries => object ref (ofDatumEntries ref entries)

def ofDatumItems (ref : Ref) (place : Nat) : List Datum → List Value
  | [] => []
  | item :: rest => ofDatum (ref.child (.index place)) item :: ofDatumItems ref (place + 1) rest

def ofDatumEntries (ref : Ref) : List (String × Datum) → List (String × Value)
  | [] => []
  | (key, item) :: rest => (key, ofDatum (ref.child (.key key)) item) :: ofDatumEntries ref rest

end

end Value

end ExprTree
