import ExprTree.Text.Utf8
import ExprTree.Value

/-! Dynamic values of the binary protocol and their exchange with runtime values. The fields of a
struct have no order, so a value made of one has its keys sorted. -/
namespace ExprTree

/-- A protocol value; `unset` is one in which no kind is set. -/
inductive Wire where
  | unset
  | null
  | number (x : Double)
  | text (s : String)
  | bool (b : Bool)
  | struct (fields : List (String × Wire))
  | list (items : List Wire)

instance : Inhabited Wire := ⟨.unset⟩

namespace Wire

/-- Whether the octets of a text are UTF-8. -/
def isUtf8 (text : String) : Bool :=
  (Utf8.decode? (Utf8.encode text.toList)).isSome

mutual

/-- The first text in a protocol value that is not UTF-8. -/
def broken? : Wire → Option String
  | text s => if isUtf8 s then none else some s
  | struct fields => brokenField? fields
  | list items => brokenItem? items
  | _ => none

def brokenField? : List (String × Wire) → Option String
  | [] => none
  | (key, value) :: rest =>
    (if isUtf8 key then broken? value else some key) <|> brokenField? rest

def brokenItem? : List Wire → Option String
  | [] => none
  | item :: rest => broken? item <|> brokenItem? rest

end

end Wire

namespace Value

mutual

def ofWire (ref : Ref) : Wire → Value
  | .unset => undefined
  | .null => null
  | .number x => number x
  | .text s => text s
  | .bool b => bool b
  | .struct fields => object ref (Entries.sorted (ofWireFields ref fields))
  | .list items => array ref (ofWireItems ref 0 items)

def ofWireItems (ref : Ref) (place : Nat) : List Wire → List Value
  | [] => []
  | item :: rest => ofWire (ref.child (.index place)) item :: ofWireItems ref (place + 1) rest

def ofWireFields (ref : Ref) : List (String × Wire) → List (String × Value)
  | [] => []
  | (key, item) :: rest => (key, ofWire (ref.child (.key key)) item) :: ofWireFields ref rest

end

mutual

/-- The protocol form of a value; undefined and functions become null. -/
def toWire : Value → Wire
  | undefined => .null
  | null => .null
  | bool b => .bool b
  | number x => .number x
  | text s => .text s
  | object _ entries => .struct (toWireFields entries)
  | array _ items => .list (toWireItems items)
  | function _ => .null

def toWireItems : List Value → List Wire
  | [] => []
  | item :: rest => toWire item :: toWireItems rest

def toWireFields : List (String × Value) → List (String × Wire)
  | [] => []
  | (key, item) :: rest => (key, toWire item) :: toWireFields rest

end

end Value

end ExprTree
