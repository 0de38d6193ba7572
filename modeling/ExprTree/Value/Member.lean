import ExprTree.Failure
import ExprTree.Text.Units
import ExprTree.Value.Convert

/-! Reading members. Objects have their own entries, arrays and texts their length and positions;
everything else is undefined, and only null and undefined refuse. -/
namespace ExprTree

/-- The position that a key names: its canonical decimal numeral, below `2^32 - 1`. -/
def arrayIndex? (key : String) : Option Nat :=
  match key.toList with
  | [] => none
  | c :: rest =>
    if c = '0' ∧ rest ≠ [] then none
    else
      match Numeral.unsigned 10 (Nat.pow 2 32) (c :: rest) with
      | .ok i => if i = Nat.pow 2 32 - 1 then none else some i
      | .error _ => none

namespace Value

/-- The member of a value under a key that is already text. -/
def memberNamed (base : Value) (name : String) : Except Failure Value :=
  match base with
  | undefined => .error (.nullishBase .undefined name)
  | null => .error (.nullishBase .null name)
  | object _ entries => .ok ((Entries.get? entries name).getD undefined)
  | array _ items =>
    if name = "length" then .ok (number (Double.ofNat items.length))
    else .ok (((arrayIndex? name).bind fun i => items[i]?).getD undefined)
  | text s =>
    if name = "length" then .ok (number (Double.ofNat (Text.units s).length))
    else
      .ok (((arrayIndex? name).bind fun i => (Text.units s)[i]?).elim undefined fun unit =>
        text (String.singleton (Text.unitChar unit)))
  | _ => .ok undefined

/-- The member of a value; the key counts by its text. -/
def member (base key : Value) : Except Failure Value :=
  base.memberNamed key.toText

end Value

end ExprTree
