/-! The edit distance: how many insertions, deletions and replacements turn one sequence into
another. -/
namespace ExprTree.Text

variable {α : Type} [DecidableEq α]

/-- The distances of one more element from the ends of `target`, from the row above; `left` is the
distance found last. -/
def distanceRow (x : α) (left : Nat) : List α → List Nat → List Nat
  | y :: target, corner :: above :: row =>
    let here := if x = y then corner else 1 + min left (min corner above)
    here :: distanceRow x here target (above :: row)
  | _, _ => []

/-- The distances of a sequence from the ends of `target`, counted on from the row above. -/
def distances (target : List α) : List α → List Nat → List Nat
  | [], row => row
  | x :: rest, row =>
    let first := row.headD 0 + 1
    distances target rest (first :: distanceRow x first target row)

def editDistance (source target : List α) : Nat :=
  ((distances target source (List.range (target.length + 1))).getLast?).getD 0

end ExprTree.Text
