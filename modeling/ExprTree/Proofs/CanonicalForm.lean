import ExprTree.Proofs.KeyOrder
import ExprTree.Proofs.Respelling
import ExprTree.Proofs.RoundTrip
import ExprTree.Proofs.WireForm

/-!
What hosts and messages keep of a value. Both have no word for undefined and functions and no order
of keys, so a value comes back from either with null in place of the former and its keys sorted, and
what has come back once comes back unchanged. A message whose values all have a kind loses nothing.
-/
namespace ExprTree

namespace Plain

mutual

/-- The same host data: equal up to the order in which records are enumerated. -/
inductive Same : Plain → Plain → Prop where
  | leaf {data : Plain} (unlisted : ∀ items, data ≠ .list items)
      (unkeyed : ∀ entries, data ≠ .record entries) : Same data data
  | list {items others : List Plain} (each : SameItems items others) :
      Same (.list items) (.list others)
  | record {entries arranged others : List (String × Plain)} (each : SameEntries entries arranged)
      (order : arranged.Perm others) : Same (.record entries) (.record others)

inductive SameItems : List Plain → List Plain → Prop where
  | nil : SameItems [] []
  | cons {item other : Plain} {items others : List Plain} (first : Same item other)
      (rest : SameItems items others) : SameItems (item :: items) (other :: others)

inductive SameEntries : List (String × Plain) → List (String × Plain) → Prop where
  | nil : SameEntries [] []
  | cons {key : String} {item other : Plain} {entries others : List (String × Plain)}
      (first : Same item other) (rest : SameEntries entries others) :
      SameEntries ((key, item) :: entries) ((key, other) :: others)

end

mutual

/-- No record has a key twice. -/
def KeysDiffer : Plain → Prop
  | record entries => (Entries.keys entries).Nodup ∧ EntryKeysDiffer entries
  | list items => AllKeysDiffer items
  | _ => True

def EntryKeysDiffer : List (String × Plain) → Prop
  | [] => True
  | (_, item) :: rest => item.KeysDiffer ∧ EntryKeysDiffer rest

def AllKeysDiffer : List Plain → Prop
  | [] => True
  | item :: rest => item.KeysDiffer ∧ AllKeysDiffer rest

end

end Plain

namespace Wire

mutual

/-- No struct has a field twice. -/
def KeysDiffer : Wire → Prop
  | struct fields => (Entries.keys fields).Nodup ∧ FieldKeysDiffer fields
  | list items => AllKeysDiffer items
  | _ => True

def FieldKeysDiffer : List (String × Wire) → Prop
  | [] => True
  | (_, value) :: rest => value.KeysDiffer ∧ FieldKeysDiffer rest

def AllKeysDiffer : List Wire → Prop
  | [] => True
  | item :: rest => item.KeysDiffer ∧ AllKeysDiffer rest

end

mutual

/-- Every value in a message has a kind. -/
def HasKinds : Wire → Prop
  | unset => False
  | struct fields => FieldsHaveKinds fields
  | list items => AllHaveKinds items
  | _ => True

def FieldsHaveKinds : List (String × Wire) → Prop
  | [] => True
  | (_, value) :: rest => value.HasKinds ∧ FieldsHaveKinds rest

def AllHaveKinds : List Wire → Prop
  | [] => True
  | item :: rest => item.HasKinds ∧ AllHaveKinds rest

end

end Wire

namespace Value

private theorem keys_ofWireFields (ref : Ref) (fields : List (String × Wire)) :
    Entries.keys (ofWireFields ref fields) = Entries.keys fields := by
  induction fields with
  | nil => rfl
  | cons field rest ih =>
    obtain ⟨key, item⟩ := field
    exact congrArg (key :: ·) ih

private theorem ofWireFields_eq_map (ref : Ref) (fields : List (String × Wire)) :
    ofWireFields ref fields =
      fields.map fun field => (field.1, ofWire (ref.child (.key field.1)) field.2) := by
  induction fields with
  | nil => rfl
  | cons field rest ih => rw [ofWireFields, ih]; rfl

mutual

/-- The order of fields does not show in the value of a message. -/
theorem ofWire_eq_of_same {wire other : Wire} (distinct : wire.KeysDiffer)
    (same : Wire.Same wire other) (ref : Ref) : ofWire ref other = ofWire ref wire := by
  cases same with
  | unset | null | number _ | text _ | bool _ => rfl
  | list each =>
    rw [ofWire, ofWire, ofWireItems_eq_of_same distinct each ref 0]
  | @struct fields arranged others each order =>
    have one := ofWireFields_eq_of_same distinct.2 each ref
    have enumerated : (ofWireFields ref others).Perm (ofWireFields ref fields) := by
      rw [← one, ofWireFields_eq_map, ofWireFields_eq_map]
      exact order.symm.map _
    rw [ofWire, ofWire, Entries.sorted_eq_of_perm enumerated]
    rw [keys_ofWireFields]
    exact distinct.1

private theorem ofWireFields_eq_of_same {fields others : List (String × Wire)}
    (distinct : Wire.FieldKeysDiffer fields) (same : Wire.SameFields fields others) (ref : Ref) :
    ofWireFields ref others = ofWireFields ref fields := by
  cases same with
  | nil => rfl
  | cons first rest =>
    rw [ofWireFields, ofWireFields, ofWire_eq_of_same distinct.1 first,
      ofWireFields_eq_of_same distinct.2 rest]

private theorem ofWireItems_eq_of_same {items others : List Wire}
    (distinct : Wire.AllKeysDiffer items)
    (same : Wire.SameItems items others) (ref : Ref) (place : Nat) :
    ofWireItems ref place others = ofWireItems ref place items := by
  cases same with
  | nil => rfl
  | cons first rest =>
    rw [ofWireItems, ofWireItems, ofWire_eq_of_same distinct.1 first,
      ofWireItems_eq_of_same distinct.2 rest]

end

private theorem keys_ofPlainEntries (ref : Ref) (entries : List (String × Plain)) :
    Entries.keys (ofPlainEntries ref entries) = Entries.keys entries := by
  induction entries with
  | nil => rfl
  | cons entry rest ih =>
    obtain ⟨key, item⟩ := entry
    exact congrArg (key :: ·) ih

theorem ofPlainEntries_eq_map (ref : Ref) (entries : List (String × Plain)) :
    ofPlainEntries ref entries =
      entries.map fun entry => (entry.1, ofPlain (ref.child (.key entry.1)) entry.2) := by
  induction entries with
  | nil => rfl
  | cons entry rest ih => rw [ofPlainEntries, ih]; rfl

private theorem keys_toPlainEntries (entries : List (String × Value)) :
    Entries.keys (toPlainEntries entries) = Entries.keys entries := by
  induction entries with
  | nil => rfl
  | cons entry rest ih =>
    obtain ⟨key, item⟩ := entry
    exact congrArg (key :: ·) ih

mutual

/-- The order in which records are enumerated does not show in the value of host data. -/
theorem ofPlain_eq_of_same {plain other : Plain} (distinct : plain.KeysDiffer)
    (same : Plain.Same plain other) (ref : Ref) : ofPlain ref other = ofPlain ref plain := by
  cases same with
  | leaf => rfl
  | list each => rw [ofPlain, ofPlain, ofPlainItems_eq_of_same distinct each ref 0]
  | @record entries arranged others each order =>
    have one := ofPlainEntries_eq_of_same distinct.2 each ref
    have enumerated : (ofPlainEntries ref others).Perm (ofPlainEntries ref entries) := by
      rw [← one, ofPlainEntries_eq_map, ofPlainEntries_eq_map]
      exact order.symm.map _
    rw [ofPlain, ofPlain, Entries.sorted_eq_of_perm enumerated]
    rw [keys_ofPlainEntries]
    exact distinct.1

private theorem ofPlainEntries_eq_of_same {entries others : List (String × Plain)}
    (distinct : Plain.EntryKeysDiffer entries) (same : Plain.SameEntries entries others)
    (ref : Ref) : ofPlainEntries ref others = ofPlainEntries ref entries := by
  cases same with
  | nil => rfl
  | cons first rest =>
    rw [ofPlainEntries, ofPlainEntries, ofPlain_eq_of_same distinct.1 first,
      ofPlainEntries_eq_of_same distinct.2 rest]

private theorem ofPlainItems_eq_of_same {items others : List Plain}
    (distinct : Plain.AllKeysDiffer items)
    (same : Plain.SameItems items others) (ref : Ref) (place : Nat) :
    ofPlainItems ref place others = ofPlainItems ref place items := by
  cases same with
  | nil => rfl
  | cons first rest =>
    rw [ofPlainItems, ofPlainItems, ofPlain_eq_of_same distinct.1 first,
      ofPlainItems_eq_of_same distinct.2 rest]

end

mutual

private theorem keysDiffer_toPlain (v : Value) (distinct : v.KeysDiffer) :
    v.toPlain.KeysDiffer := by
  match v with
  | object _ entries =>
    refine ⟨?_, entryKeysDiffer_toPlainEntries entries distinct.2⟩
    rw [keys_toPlainEntries]
    exact distinct.1
  | array _ items => exact allKeysDiffer_toPlainItems items distinct
  | undefined | null | bool _ | number _ | text _ | function _ => exact trivial

private theorem entryKeysDiffer_toPlainEntries (entries : List (String × Value))
    (distinct : EntryKeysDiffer entries) : Plain.EntryKeysDiffer (toPlainEntries entries) := by
  match entries with
  | [] => exact trivial
  | (_, value) :: rest =>
    exact ⟨keysDiffer_toPlain value distinct.1, entryKeysDiffer_toPlainEntries rest distinct.2⟩

private theorem allKeysDiffer_toPlainItems (items : List Value) (distinct : AllKeysDiffer items) :
    Plain.AllKeysDiffer (toPlainItems items) := by
  match items with
  | [] => exact trivial
  | item :: rest =>
    exact ⟨keysDiffer_toPlain item distinct.1, allKeysDiffer_toPlainItems rest distinct.2⟩

end

mutual

private theorem keysDiffer_toWire (v : Value) (distinct : v.KeysDiffer) : v.toWire.KeysDiffer := by
  match v with
  | object _ entries =>
    refine ⟨?_, fieldKeysDiffer_toWireFields entries distinct.2⟩
    rw [toWireFields_eq_map, Entries.keys_map]
    exact distinct.1
  | array _ items => exact allKeysDiffer_toWireItems items distinct
  | undefined | null | bool _ | number _ | text _ | function _ => exact trivial

private theorem fieldKeysDiffer_toWireFields (entries : List (String × Value))
    (distinct : EntryKeysDiffer entries) : Wire.FieldKeysDiffer (toWireFields entries) := by
  match entries with
  | [] => exact trivial
  | (_, value) :: rest =>
    exact ⟨keysDiffer_toWire value distinct.1, fieldKeysDiffer_toWireFields rest distinct.2⟩

private theorem allKeysDiffer_toWireItems (items : List Value) (distinct : AllKeysDiffer items) :
    Wire.AllKeysDiffer (toWireItems items) := by
  match items with
  | [] => exact trivial
  | item :: rest =>
    exact ⟨keysDiffer_toWire item distinct.1, allKeysDiffer_toWireItems rest distinct.2⟩

end

mutual

/-- The data of a value in their canonical form: undefined and functions are null, and the entries
of every object stand in strictly ascending order of the octets of their keys. -/
inductive Canonical : Value → Datum → Prop where
  | undefined : Canonical .undefined .null
  | null : Canonical .null .null
  | bool (b : Bool) : Canonical (.bool b) (.bool b)
  | number (x : Double) : Canonical (.number x) (.number x)
  | text (s : String) : Canonical (.text s) (.text s)
  | function (callable : Callable) : Canonical (.function callable) .null
  | array {ref : Ref} {items : List Value} {data : List Datum} (each : CanonicalItems items data) :
      Canonical (.array ref items) (.list data)
  | object {ref : Ref} {entries : List (String × Value)} {fields arranged : List (String × Datum)}
      (each : CanonicalEntries entries fields) (order : fields.Perm arranged)
      (ascending : Entries.Ascending arranged) : Canonical (.object ref entries) (.record arranged)

inductive CanonicalItems : List Value → List Datum → Prop where
  | nil : CanonicalItems [] []
  | cons {item : Value} {datum : Datum} {items : List Value} {data : List Datum}
      (first : Canonical item datum) (rest : CanonicalItems items data) :
      CanonicalItems (item :: items) (datum :: data)

inductive CanonicalEntries : List (String × Value) → List (String × Datum) → Prop where
  | nil : CanonicalEntries [] []
  | cons {key : String} {value : Value} {datum : Datum} {entries : List (String × Value)}
      {fields : List (String × Datum)} (first : Canonical value datum)
      (rest : CanonicalEntries entries fields) :
      CanonicalEntries ((key, value) :: entries) ((key, datum) :: fields)

end

private theorem keys_of_canonicalEntries {entries : List (String × Value)}
    {fields : List (String × Datum)}
    (each : CanonicalEntries entries fields) : Entries.keys fields = Entries.keys entries := by
  induction entries generalizing fields with
  | nil =>
    cases each
    rfl
  | cons entry rest ih =>
    cases each with
    | cons first others => exact congrArg _ (ih others)

mutual

/-- Every value whose keys differ has canonical data. -/
theorem exists_canonical (v : Value) (distinct : v.KeysDiffer) : ∃ datum, v.Canonical datum := by
  match v with
  | object _ entries =>
    obtain ⟨fields, each⟩ := exists_canonicalEntries entries distinct.2
    have keys : (Entries.keys fields).Nodup := by
      rw [keys_of_canonicalEntries each]
      exact distinct.1
    exact ⟨_, .object each (Entries.sorted_perm fields).symm (Entries.sorted_ascending keys)⟩
  | array _ items =>
    obtain ⟨data, each⟩ := exists_canonicalItems items distinct
    exact ⟨_, .array each⟩
  | undefined => exact ⟨_, .undefined⟩
  | null => exact ⟨_, .null⟩
  | bool b => exact ⟨_, .bool b⟩
  | number x => exact ⟨_, .number x⟩
  | text s => exact ⟨_, .text s⟩
  | function callable => exact ⟨_, .function callable⟩

private theorem exists_canonicalEntries (entries : List (String × Value))
    (distinct : EntryKeysDiffer entries) : ∃ fields, CanonicalEntries entries fields := by
  match entries with
  | [] => exact ⟨[], .nil⟩
  | (key, value) :: rest =>
    obtain ⟨datum, first⟩ := exists_canonical value distinct.1
    obtain ⟨fields, others⟩ := exists_canonicalEntries rest distinct.2
    exact ⟨(key, datum) :: fields, .cons first others⟩

private theorem exists_canonicalItems (items : List Value) (distinct : AllKeysDiffer items) :
    ∃ data, CanonicalItems items data := by
  match items with
  | [] => exact ⟨[], .nil⟩
  | item :: rest =>
    obtain ⟨datum, first⟩ := exists_canonical item distinct.1
    obtain ⟨data, others⟩ := exists_canonicalItems rest distinct.2
    exact ⟨datum :: data, .cons first others⟩

end

mutual

/-- A value has only one canonical form. -/
theorem Canonical.unique (v : Value) {datum other : Datum} (one : v.Canonical datum)
    (two : v.Canonical other) : datum = other := by
  match v with
  | .object _ entries =>
    cases one with
    | object each order ascending =>
    cases two with
    | object each' order' ascending' =>
    obtain rfl := CanonicalEntries.unique entries each each'
    rw [ascending.eq_of_perm ascending' (order.symm.trans order')]
  | .array _ items =>
    cases one with
    | array each =>
    cases two with
    | array each' => rw [CanonicalItems.unique items each each']
  | .undefined | .null | .bool _ | .number _ | .text _ | .function _ =>
    cases one
    cases two
    rfl

theorem CanonicalEntries.unique (entries : List (String × Value))
    {fields others : List (String × Datum)} (one : CanonicalEntries entries fields)
    (two : CanonicalEntries entries others) : fields = others := by
  match entries with
  | [] =>
    cases one
    cases two
    rfl
  | (key, value) :: rest =>
    cases one with
    | cons first later =>
    cases two with
    | cons first' later' =>
    rw [Canonical.unique value first first', CanonicalEntries.unique rest later later']

theorem CanonicalItems.unique (items : List Value) {data others : List Datum}
    (one : CanonicalItems items data) (two : CanonicalItems items others) : data = others := by
  match items with
  | [] =>
    cases one
    cases two
    rfl
  | item :: rest =>
    cases one with
    | cons first later =>
    cases two with
    | cons first' later' =>
    rw [Canonical.unique item first first', CanonicalItems.unique rest later later']

end

theorem ofDatumEntries_eq_map (ref : Ref) (fields : List (String × Datum)) :
    ofDatumEntries ref fields =
      fields.map fun field => (field.1, ofDatum (ref.child (.key field.1)) field.2) := by
  induction fields with
  | nil => rfl
  | cons field rest ih => rw [ofDatumEntries, ih]; rfl

private theorem ascending_ofDatumEntries {fields : List (String × Datum)}
    (ascending : Entries.Ascending fields) (ref : Ref) :
    Entries.Ascending (ofDatumEntries ref fields) := by
  rw [ofDatumEntries_eq_map]
  exact List.pairwise_map.mpr ascending

mutual

/-- What comes back from the protocol is the canonical form, in new containers. -/
theorem ofWire_toWire (v : Value) {datum : Datum} (canonical : v.Canonical datum) (ref : Ref) :
    ofWire ref v.toWire = ofDatum ref datum := by
  match v with
  | object _ entries =>
    cases canonical with
    | @object _ _ fields arranged each order ascending =>
    have enumerated : (ofWireFields ref (toWireFields entries)).Perm
        (ofDatumEntries ref arranged) := by
      rw [ofWireFields_toWire entries each, ofDatumEntries_eq_map, ofDatumEntries_eq_map]
      exact order.map _
    rw [toWire, ofWire, ofDatum,
      Entries.sorted_eq_of_ascending enumerated (ascending_ofDatumEntries ascending ref)]
  | array _ items =>
    cases canonical with
    | array each => rw [toWire, ofWire, ofDatum, ofWireItems_toWire items each]
  | undefined | null | bool _ | number _ | text _ | function _ =>
    cases canonical
    rfl

private theorem ofWireFields_toWire (entries : List (String × Value))
    {fields : List (String × Datum)}
    (each : CanonicalEntries entries fields) (ref : Ref) :
    ofWireFields ref (toWireFields entries) = ofDatumEntries ref fields := by
  match entries with
  | [] =>
    cases each
    rfl
  | (key, value) :: rest =>
    cases each with
    | cons first others =>
      rw [toWireFields, ofWireFields, ofDatumEntries, ofWire_toWire value first,
        ofWireFields_toWire rest others]

private theorem ofWireItems_toWire (items : List Value) {data : List Datum}
    (each : CanonicalItems items data) (ref : Ref) (place : Nat) :
    ofWireItems ref place (toWireItems items) = ofDatumItems ref place data := by
  match items with
  | [] =>
    cases each
    rfl
  | item :: rest =>
    cases each with
    | cons first others =>
      rw [toWireItems, ofWireItems, ofDatumItems, ofWire_toWire item first,
        ofWireItems_toWire rest others]

end

mutual

/-- Only values whose keys differ have canonical data. -/
theorem Canonical.keysDiffer (v : Value) {datum : Datum} (canonical : v.Canonical datum) :
    v.KeysDiffer := by
  match v with
  | .object _ entries =>
    cases canonical with
    | object each order ascending =>
      refine ⟨?_, CanonicalEntries.keysDiffer entries each⟩
      rw [← keys_of_canonicalEntries each]
      exact (order.map Prod.fst).nodup_iff.mpr ascending.nodup_keys
  | .array _ items =>
    cases canonical with
    | array each => exact CanonicalItems.keysDiffer items each
  | .undefined | .null | .bool _ | .number _ | .text _ | .function _ => exact trivial

private theorem CanonicalEntries.keysDiffer (entries : List (String × Value))
    {fields : List (String × Datum)} (each : CanonicalEntries entries fields) :
    EntryKeysDiffer entries := by
  match entries with
  | [] => exact trivial
  | (_, value) :: rest =>
    cases each with
    | cons first others =>
      exact ⟨Canonical.keysDiffer value first, CanonicalEntries.keysDiffer rest others⟩

private theorem CanonicalItems.keysDiffer (items : List Value) {data : List Datum}
    (each : CanonicalItems items data) : AllKeysDiffer items := by
  match items with
  | [] => exact trivial
  | item :: rest =>
    cases each with
    | cons first others =>
      exact ⟨Canonical.keysDiffer item first, CanonicalItems.keysDiffer rest others⟩

end

private theorem canonicalEntries_ofDatumEntries {fields : List (String × Datum)}
    (each : ∀ field ∈ fields, ∀ ref, (ofDatum ref field.2).Canonical field.2) (ref : Ref) :
    CanonicalEntries (ofDatumEntries ref fields) fields := by
  induction fields with
  | nil => exact .nil
  | cons field rest ih =>
    have first := each field (by simp)
    exact .cons (first _) (ih fun other member => each other (by simp [member]))

mutual

/-- The canonical form is its own canonical form. -/
theorem Canonical.ofDatum (v : Value) {datum : Datum} (canonical : v.Canonical datum) (ref : Ref) :
    (Value.ofDatum ref datum).Canonical datum := by
  match v with
  | .object _ entries =>
    cases canonical with
    | object each order ascending =>
      have parts := CanonicalEntries.ofDatum entries each
      refine .object (canonicalEntries_ofDatumEntries ?_ ref) (.refl _) ascending
      intro field member
      exact parts field (order.mem_iff.mpr member)
  | .array _ items =>
    cases canonical with
    | array each => exact .array (CanonicalItems.ofDatum items each ref 0)
  | .undefined | .null | .function _ =>
    cases canonical
    exact .null
  | .bool b =>
    cases canonical
    exact .bool b
  | .number x =>
    cases canonical
    exact .number x
  | .text s =>
    cases canonical
    exact .text s

theorem CanonicalEntries.ofDatum (entries : List (String × Value))
    {fields : List (String × Datum)} (each : CanonicalEntries entries fields) :
    ∀ field ∈ fields, ∀ ref, (Value.ofDatum ref field.2).Canonical field.2 := by
  intro field member ref
  match entries with
  | [] =>
    cases each
    cases member
  | (_, value) :: rest =>
    cases each with
    | cons first others =>
      rcases List.mem_cons.mp member with rfl | later
      · exact Canonical.ofDatum value first ref
      · exact CanonicalEntries.ofDatum rest others field later ref

theorem CanonicalItems.ofDatum (items : List Value) {data : List Datum}
    (each : CanonicalItems items data) (ref : Ref) (place : Nat) :
    CanonicalItems (ofDatumItems ref place data) data := by
  match items with
  | [] =>
    cases each
    exact .nil
  | item :: rest =>
    cases each with
    | cons first others =>
      exact .cons (Canonical.ofDatum item first _) (CanonicalItems.ofDatum rest others ref _)

end

/-- Whatever order its records and structs are enumerated in, a value comes back from the host's
form and from the protocol's as these data, in new containers. -/
structure ComesBackAs (v : Value) (datum : Datum) : Prop where
  plain : ∀ plain, Plain.Same v.toPlain plain → ∀ ref, ofPlain ref plain = ofDatum ref datum
  wire : ∀ wire, Wire.Same v.toWire wire → ∀ ref, ofWire ref wire = ofDatum ref datum

private theorem Canonical.comesBackAs {v : Value} {datum : Datum} (canonical : v.Canonical datum) :
    v.ComesBackAs datum := by
  have distinct := canonical.keysDiffer
  have back := ofWire_toWire v canonical
  constructor
  · intro plain same ref
    rw [ofPlain_eq_of_same (keysDiffer_toPlain v distinct) same, ofPlain_toPlain, back]
  · intro wire same ref
    rw [ofWire_eq_of_same (keysDiffer_toWire v distinct) same, back]

mutual

/-- A message whose values all have a kind comes back as the same message. -/
theorem same_toWire_ofWire (wire : Wire) (kinds : wire.HasKinds) (ref : Ref) :
    Wire.Same wire (ofWire ref wire).toWire := by
  match wire with
  | .struct fields =>
    refine .struct (sameFields_toWire_ofWire fields kinds ref) ?_
    rw [toWireFields_eq_map, toWireFields_eq_map]
    exact ((Entries.sorted_perm _).map _).symm
  | .list items => exact .list (sameItems_toWire_ofWire items kinds ref 0)
  | .null => exact .null
  | .number x => exact .number x
  | .text s => exact .text s
  | .bool b => exact .bool b

private theorem sameFields_toWire_ofWire (fields : List (String × Wire))
    (kinds : Wire.FieldsHaveKinds fields) (ref : Ref) :
    Wire.SameFields fields (toWireFields (ofWireFields ref fields)) := by
  match fields with
  | [] => exact .nil
  | (key, value) :: rest =>
    exact .cons (same_toWire_ofWire value kinds.1 _) (sameFields_toWire_ofWire rest kinds.2 ref)

private theorem sameItems_toWire_ofWire (items : List Wire) (kinds : Wire.AllHaveKinds items)
    (ref : Ref)
    (place : Nat) : Wire.SameItems items (toWireItems (ofWireItems ref place items)) := by
  match items with
  | [] => exact .nil
  | item :: rest =>
    exact .cons (same_toWire_ofWire item kinds.1 _) (sameItems_toWire_ofWire rest kinds.2 ref _)

end

end Value

/-- A value comes back from host data and from a message as its canonical form, in whatever order
maps are enumerated on the way, and that form comes back as it is. A message in which every value
has a kind comes back from a value as the same message. -/
theorem conversions_canonical :
    (∀ v : Value, v.KeysDiffer → ∃ datum, v.Canonical datum ∧
      (∀ other, v.Canonical other → other = datum) ∧
      (∀ ref, Value.ofPlain ref v.toPlain = Value.ofDatum ref datum ∧
        Value.ofWire ref v.toWire = Value.ofDatum ref datum) ∧
      v.ComesBackAs datum ∧ ∀ ref, (Value.ofDatum ref datum).ComesBackAs datum) ∧
    ∀ wire : Wire, wire.HasKinds → ∀ ref, Wire.Same wire (Value.ofWire ref wire).toWire := by
  constructor
  · intro v distinct
    obtain ⟨datum, canonical⟩ := v.exists_canonical distinct
    have back := Value.ofWire_toWire v canonical
    refine ⟨datum, canonical, ?_, ?_, canonical.comesBackAs, ?_⟩
    · intro other found
      exact Value.Canonical.unique v found canonical
    · intro ref
      exact ⟨(Value.ofPlain_toPlain v ref).trans (back ref), back ref⟩
    · intro ref
      exact (Value.Canonical.ofDatum v canonical ref).comesBackAs
  · intro wire kinds ref
    exact Value.same_toWire_ofWire wire kinds ref

/-- An object with keys whose order by octets differs from the order in which they were set. -/
def unsortedValue : Value :=
  .object (Ref.ofOrigin 1) [("😀", .bool true), ("\uFB00", .undefined),
    ("a", .function ⟨"f", .host 0⟩)]

theorem conversions_canonical_unsorted :
    let datum := Datum.record [("a", .null), ("\uFB00", .null), ("😀", .bool true)]
    let enumerated := Wire.struct [("\uFB00", .null), ("a", .null), ("😀", .bool true)]
    unsortedValue.KeysDiffer ∧ unsortedValue.Canonical datum ∧
      Value.ofPlain (Ref.ofOrigin 2) unsortedValue.toPlain =
        Value.ofDatum (Ref.ofOrigin 2) datum ∧
      Wire.Same unsortedValue.toWire enumerated ∧
      Value.ofWire (Ref.ofOrigin 3) enumerated = Value.ofDatum (Ref.ofOrigin 3) datum ∧
      enumerated.HasKinds ∧
      Wire.Same enumerated (Value.ofWire (Ref.ofOrigin 3) enumerated).toWire := by
  intro datum enumerated
  have distinct : unsortedValue.KeysDiffer := by
    simp [unsortedValue, Value.KeysDiffer, Value.EntryKeysDiffer, Entries.keys]
  have order : Wire.Same unsortedValue.toWire enumerated :=
    .struct (.cons (.bool true) (.cons .null (.cons .null .nil)))
      (@List.perm_append_comm (String × Wire) [_] [_, _])
  have kinds : enumerated.HasKinds := by
    simp [enumerated, Wire.HasKinds, Wire.FieldsHaveKinds]
  have canonical : unsortedValue.Canonical datum := by
    refine .object (.cons (.bool true) (.cons .undefined (.cons (.function _) .nil))) ?_ ?_
    · exact (List.reverse_perm _).symm
    · decide
  obtain ⟨values, messages⟩ := conversions_canonical
  obtain ⟨found, _, only, both, back, _⟩ := values unsortedValue distinct
  obtain rfl := only datum canonical
  exact ⟨distinct, canonical, (both _).1, order, back.wire _ order _, kinds, messages _ kinds _⟩

end ExprTree
