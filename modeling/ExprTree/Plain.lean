import ExprTree.Numeral
import ExprTree.Value

/-! Data as a host program hands it over and takes it back. Records have no order of their own, so
a value made of one has its keys sorted. -/
namespace ExprTree

inductive Plain where
  | nothing
  | flag (b : Bool)
  | number (x : Double)
  | integer (i : Int)
  /-- A number by its spelling. -/
  | literal (spelling : String)
  | text (s : String)
  | list (items : List Plain)
  | record (entries : List (String × Plain))
  /-- Something that is a runtime value already. -/
  | value (v : Value)
  | values (items : List Value)
  | valueRecord (entries : List (String × Value))
  /-- Anything else, known by its printed form only. -/
  | other (printed : String)

namespace Value

mutual

/-- The value of host data. A spelling that is no number in range stays text. -/
def ofPlain (ref : Ref) : Plain → Value
  | .nothing => null
  | .flag b => bool b
  | .number x => number x
  | .integer i => number (Double.ofInt i)
  | .literal spelling =>
    match Numeral.float? spelling.toList with
    | some x => number x
    | none => text spelling
  | .text s => text s
  | .list items => array ref (ofPlainItems ref 0 items)
  | .record entries => object ref (Entries.sorted (ofPlainEntries ref entries))
  | .value v => v
  | .values items => array ref items
  | .valueRecord entries => object ref (Entries.sorted entries)
  | .other printed => text printed

def ofPlainItems (ref : Ref) (place : Nat) : List Plain → List Value
  | [] => []
  | item :: rest => ofPlain (ref.child (.index place)) item :: ofPlainItems ref (place + 1) rest

def ofPlainEntries (ref : Ref) : List (String × Plain) → List (String × Value)
  | [] => []
  | (key, item) :: rest => (key, ofPlain (ref.child (.key key)) item) :: ofPlainEntries ref rest

end

mutual

/-- The host's form of a value; undefined and functions have none and become nothing. -/
def toPlain : Value → Plain
  | undefined => .nothing
  | null => .nothing
  | bool b => .flag b
  | number x => .number x
  | text s => .text s
  | object _ entries => .record (toPlainEntries entries)
  | array _ items => .list (toPlainItems items)
  | function _ => .nothing

def toPlainItems : List Value → List Plain
  | [] => []
  | item :: rest => toPlain item :: toPlainItems rest

def toPlainEntries : List (String × Value) → List (String × Plain)
  | [] => []
  | (key, item) :: rest => (key, toPlain item) :: toPlainEntries rest

end

end Value

end ExprTree
