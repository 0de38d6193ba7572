import ExprTree.Datum
import ExprTree.Proofs.Arrangement
import ExprTree.Wire

/-!
Data on their way through the binary protocol. They come back with sorted keys and with their
containers under a new root, and a value and its sorted form are the same message up to the order
of fields.
-/
namespace ExprTree

namespace Datum

mutual

/-- No record repeats a key. -/
def KeysDiffer : Datum → Prop
  | list items => AllKeysDiffer items
  | record entries => (Entries.keys entries).Nodup ∧ EntryKeysDiffer entries
  | _ => True

def AllKeysDiffer : List Datum → Prop
  | [] => True
  | item :: rest => item.KeysDiffer ∧ AllKeysDiffer rest

def EntryKeysDiffer : List (String × Datum) → Prop
  | [] => True
  | (_, item) :: rest => item.KeysDiffer ∧ EntryKeysDiffer rest

end

end Datum

namespace Ref

/-- The identity that lies some steps below another, innermost step first. -/
def under (root : Ref) (steps : List Step) : Ref :=
  ⟨root.origin, steps ++ root.path⟩

/-- Moves what lies below one root to the same place below another. -/
def reroot (root other : Ref) (ref : Ref) : Ref :=
  other.under (ref.path.take (ref.path.length - root.path.length))

private theorem child_under (root : Ref) (steps : List Step) (step : Step) :
    (root.under steps).child step = root.under (step :: steps) := rfl

private theorem reroot_under (root other : Ref) (steps : List Step) :
    reroot root other (root.under steps) = other.under steps := by
  simp [reroot, under]

private theorem under_injective (root : Ref) : Function.Injective root.under := by
  intro first second same
  simpa [under] using same

end Ref

namespace Value

/-- The containers that lie below a root. -/
def Below (root : Ref) (ref : Ref) : Prop :=
  ∃ steps, ref = root.under steps

theorem keepsApart_reroot (root other : Ref) :
    KeepsApart (Below root) (Ref.reroot root other) := by
  rintro _ _ ⟨first, rfl⟩ ⟨second, rfl⟩ same
  rw [Ref.reroot_under, Ref.reroot_under] at same
  rw [other.under_injective same]

private theorem keys_ofDatumEntries (ref : Ref) (entries : List (String × Datum)) :
    Entries.keys (ofDatumEntries ref entries) = Entries.keys entries := by
  induction entries with
  | nil => rfl
  | cons entry rest ih =>
    obtain ⟨key, item⟩ := entry
    exact congrArg (key :: ·) ih

theorem get?_ofDatumEntries (ref : Ref) (entries : List (String × Datum)) (name : String) :
    Entries.get? (ofDatumEntries ref entries) name =
      (Entries.get? entries name).map (ofDatum (ref.child (.key name))) := by
  induction entries with
  | nil => rfl
  | cons entry rest ih =>
    obtain ⟨key, item⟩ := entry
    rw [ofDatumEntries, Entries.get?_cons, Entries.get?_cons, ih]
    by_cases same : key = name
    · subst same
      rw [if_pos rfl, if_pos rfl]
      rfl
    · rw [if_neg same, if_neg same]

mutual

theorem isData_ofDatum (root : Ref) (steps : List Step) (datum : Datum)
    (distinct : datum.KeysDiffer) : (ofDatum (root.under steps) datum).IsData (Below root) := by
  match datum with
  | .list items => exact ⟨⟨steps, rfl⟩, areData_ofDatumItems root steps 0 items distinct⟩
  | .record entries =>
    refine ⟨⟨steps, rfl⟩, ?_, areDataEntries_ofDatumEntries root steps entries distinct.2⟩
    rw [keys_ofDatumEntries]
    exact distinct.1
  | .null | .bool _ | .number _ | .text _ => exact trivial

private theorem areData_ofDatumItems (root : Ref) (steps : List Step) (place : Nat)
    (items : List Datum)
    (distinct : Datum.AllKeysDiffer items) :
    AreData (Below root) (ofDatumItems (root.under steps) place items) := by
  match items with
  | [] => exact trivial
  | item :: rest =>
    exact ⟨isData_ofDatum root (.index place :: steps) item distinct.1,
      areData_ofDatumItems root steps (place + 1) rest distinct.2⟩

private theorem areDataEntries_ofDatumEntries (root : Ref) (steps : List Step)
    (entries : List (String × Datum)) (distinct : Datum.EntryKeysDiffer entries) :
    AreDataEntries (Below root) (ofDatumEntries (root.under steps) entries) := by
  match entries with
  | [] => exact trivial
  | (key, item) :: rest =>
    exact ⟨isData_ofDatum root (.key key :: steps) item distinct.1,
      areDataEntries_ofDatumEntries root steps rest distinct.2⟩

end

mutual

/-- What comes back of a document is its sorted form below the new root. -/
theorem ofWire_toWire_ofDatum (root other : Ref) (steps : List Step) (datum : Datum) :
    ofWire (other.under steps) (ofDatum (root.under steps) datum).toWire =
      (ofDatum (root.under steps) datum).sorted (Ref.reroot root other) := by
  match datum with
  | .list items =>
    simp only [ofDatum, toWire, ofWire, sorted, Ref.reroot_under,
      ofWireItems_toWireItems root other steps 0 items]
  | .record entries =>
    simp only [ofDatum, toWire, ofWire, sorted, Ref.reroot_under,
      ofWireFields_toWireFields root other steps entries]
  | .null | .bool _ | .number _ | .text _ => rfl

private theorem ofWireItems_toWireItems (root other : Ref) (steps : List Step) (place : Nat)
    (items : List Datum) :
    ofWireItems (other.under steps) place
        (toWireItems (ofDatumItems (root.under steps) place items)) =
      sortedItems (Ref.reroot root other) (ofDatumItems (root.under steps) place items) := by
  match items with
  | [] => rfl
  | item :: rest =>
    simp only [ofDatumItems, toWireItems, ofWireItems, sortedItems, Ref.child_under,
      ofWire_toWire_ofDatum root other (.index place :: steps) item,
      ofWireItems_toWireItems root other steps (place + 1) rest]

private theorem ofWireFields_toWireFields (root other : Ref) (steps : List Step)
    (entries : List (String × Datum)) :
    ofWireFields (other.under steps) (toWireFields (ofDatumEntries (root.under steps) entries)) =
      sortedEntries (Ref.reroot root other) (ofDatumEntries (root.under steps) entries) := by
  match entries with
  | [] => rfl
  | (key, item) :: rest =>
    simp only [ofDatumEntries, toWireFields, ofWireFields, sortedEntries, Ref.child_under,
      ofWire_toWire_ofDatum root other (.key key :: steps) item,
      ofWireFields_toWireFields root other steps rest]

end

end Value

namespace Wire

mutual

/-- The same message: equal up to the order of the fields of structs. -/
inductive Same : Wire → Wire → Prop where
  | unset : Same .unset .unset
  | null : Same .null .null
  | number (x : Double) : Same (.number x) (.number x)
  | text (s : String) : Same (.text s) (.text s)
  | bool (b : Bool) : Same (.bool b) (.bool b)
  | struct {fields arranged others : List (String × Wire)} (each : SameFields fields arranged)
      (order : arranged.Perm others) : Same (.struct fields) (.struct others)
  | list {items others : List Wire} (each : SameItems items others) :
      Same (.list items) (.list others)

/-- The same fields one by one. -/
inductive SameFields : List (String × Wire) → List (String × Wire) → Prop where
  | nil : SameFields [] []
  | cons {key : String} {value other : Wire} {fields others : List (String × Wire)}
      (first : Same value other) (rest : SameFields fields others) :
      SameFields ((key, value) :: fields) ((key, other) :: others)

inductive SameItems : List Wire → List Wire → Prop where
  | nil : SameItems [] []
  | cons {value other : Wire} {items others : List Wire} (first : Same value other)
      (rest : SameItems items others) : SameItems (value :: items) (other :: others)

end

end Wire

namespace Value

theorem toWireFields_eq_map (entries : List (String × Value)) :
    toWireFields entries = entries.map fun entry => (entry.1, entry.2.toWire) := by
  induction entries with
  | nil => rfl
  | cons entry rest ih => rw [toWireFields, ih]; rfl

variable (move : Ref → Ref)

mutual

/-- A value and its sorted form are the same message. -/
theorem same_toWire_sorted (v : Value) : Wire.Same v.toWire (v.sorted move).toWire := by
  match v with
  | object ref entries =>
    refine .struct (sameFields_sorted entries) ?_
    rw [toWireFields_eq_map, toWireFields_eq_map]
    exact ((Entries.sorted_perm _).map _).symm
  | array ref items => exact .list (sameItems_sorted items)
  | undefined | null | function _ => exact .null
  | bool b => exact .bool b
  | number x => exact .number x
  | text s => exact .text s

private theorem sameFields_sorted (entries : List (String × Value)) :
    Wire.SameFields (toWireFields entries) (toWireFields (sortedEntries move entries)) := by
  match entries with
  | [] => exact .nil
  | (key, value) :: rest => exact .cons (same_toWire_sorted value) (sameFields_sorted rest)

private theorem sameItems_sorted (items : List Value) :
    Wire.SameItems (toWireItems items) (toWireItems (sortedItems move items)) := by
  match items with
  | [] => exact .nil
  | item :: rest => exact .cons (same_toWire_sorted item) (sameItems_sorted rest)

end

end Value

end ExprTree
