/-! Keyed entries in the order in which the keys were first set. -/
namespace ExprTree

abbrev Entries (α : Type u) := List (String × α)

namespace Entries

def get? (entries : Entries α) (key : String) : Option α :=
  (entries.find? fun entry => entry.1 == key).map Prod.snd

/-- A known key keeps its place and takes the new value; a new key goes to the end. -/
def set : Entries α → String → α → Entries α
  | [], key, value => [(key, value)]
  | (k, v) :: rest, key, value =>
    if k = key then (k, value) :: rest else (k, v) :: set rest key value

def keys (entries : Entries α) : List String :=
  entries.map Prod.fst

def values (entries : Entries α) : List α :=
  entries.map Prod.snd

/-- Sets pairs in turn, so that the last value of a repeated key counts. -/
def ofPairs (pairs : List (String × α)) : Entries α :=
  pairs.foldl (fun entries pair => set entries pair.1 pair.2) []

/-- Sets the pairs of a list in which keys and values alternate. A pair whose first part is no key
or whose second is no value is passed over, and so is a last part without partner. -/
def ofAlternating : Entries α → List (String ⊕ α) → Entries α
  | entries, .inl key :: .inr value :: rest => ofAlternating (set entries key value) rest
  | entries, _ :: _ :: rest => ofAlternating entries rest
  | entries, _ => entries

/-- Puts an entry before the first one with a greater key. -/
def insertSorted (key : String) (value : α) : Entries α → Entries α
  | [] => [(key, value)]
  | (k, v) :: rest =>
    if key < k then (key, value) :: (k, v) :: rest else (k, v) :: insertSorted key value rest

/-- The entries in ascending order of their keys by code points, which is also the order of their
octets. -/
def sorted : Entries α → Entries α
  | [] => []
  | (k, v) :: rest => insertSorted k v (sorted rest)

end Entries

end ExprTree
