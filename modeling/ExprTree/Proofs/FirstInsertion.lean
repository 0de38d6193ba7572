import ExprTree.Document
import ExprTree.Proofs.Decode
import ExprTree.Proofs.Utf8
import Mathlib.Data.Finset.Card

/-!
Setting keys in turn. Each key has the place where it was first set and the value that it was last
set to. Entries keep both in one list; a table keeps the order of the keys apart from what they
stand for, and shows the same after any number of steps. So do the records of documents, in JSON and
in YAML alike, at every depth.
-/
namespace ExprTree

namespace Entries

/-- What is left of pairs that were set in turn. -/
structure SetInTurn (pairs : List (String × α)) (entries : Entries α) : Prop where
  distinct : (keys entries).Nodup
  /-- Of repeated keys the first occurrence counts. -/
  order : keys entries = (keys pairs).eraseDups
  size : entries.length = (keys pairs).toFinset.card
  /-- Of repeated keys the last value counts. -/
  found : ∀ key, get? entries key = pairs.reverse.lookup key
  absent : ∀ key, get? entries key = none ↔ key ∉ keys pairs

private theorem isSome_get?_iff (entries : Entries α) (key : String) :
    (get? entries key).isSome ↔ key ∈ keys entries := by
  induction entries with
  | nil => simp [keys]
  | cons entry rest ih =>
    obtain ⟨k, v⟩ := entry
    rw [get?_cons]
    by_cases same : k = key
    · simp [keys, same]
    · have other : key ≠ k := Ne.symm same
      simpa [keys, same, other] using ih

private theorem ofPairs_concat (pairs : List (String × α)) (key : String) (value : α) :
    ofPairs (pairs ++ [(key, value)]) = set (ofPairs pairs) key value := by
  simp [ofPairs]

/-- One more pair adds its key behind the others, if it is new, and replaces its value. -/
theorem order_concat {pairs : List (String × α)} {entries : Entries α}
    (order : keys entries = (keys pairs).eraseDups) (key : String) (value : α) :
    keys (set entries key value) = (keys (pairs ++ [(key, value)])).eraseDups := by
  have split : keys (pairs ++ [(key, value)]) = keys pairs ++ [key] := by simp [keys]
  have known : key ∈ keys entries ↔ key ∈ keys pairs := by rw [order, List.mem_eraseDups]
  rw [keys_set, split, List.eraseDups_append, order]
  by_cases member : key ∈ keys pairs
  · rw [if_pos (List.mem_eraseDups.mpr member)]
    simp [List.removeAll, member]
  · rw [if_neg (mt List.mem_eraseDups.mp member)]
    simp [List.removeAll, member, List.eraseDups_cons]

private theorem found_concat {pairs : List (String × α)} {entries : Entries α}
    (found : ∀ key, get? entries key = pairs.reverse.lookup key) (key : String) (value : α)
    (name : String) :
    get? (set entries key value) name = (pairs ++ [(key, value)]).reverse.lookup name := by
  rw [get?_set, List.reverse_append, List.reverse_singleton, List.singleton_append,
    List.lookup_cons, found]
  by_cases same : key = name
  · simp [same]
  · have other : (name == key) = false := by simpa using Ne.symm same
    simp [same, other]

theorem SetInTurn.of {pairs : List (String × α)} {entries : Entries α}
    (distinct : (keys entries).Nodup) (order : keys entries = (keys pairs).eraseDups)
    (found : ∀ key, get? entries key = pairs.reverse.lookup key) : SetInTurn pairs entries := by
  have known : ∀ key, key ∈ keys entries ↔ key ∈ keys pairs := fun key => by
    rw [order, List.mem_eraseDups]
  refine ⟨distinct, order, ?_, found, fun key => ?_⟩
  · have same : (keys entries).toFinset = (keys pairs).toFinset := by
      ext key
      rw [List.mem_toFinset, List.mem_toFinset, known]
    rw [← same, List.toFinset_card_of_nodup distinct, keys, List.length_map]
  · rw [← known, ← isSome_get?_iff, Option.not_isSome_iff_eq_none]

theorem SetInTurn.set {pairs : List (String × α)} {entries : Entries α}
    (inTurn : SetInTurn pairs entries) (key : String) (value : α) :
    SetInTurn (pairs ++ [(key, value)]) (set entries key value) :=
  .of (nodup_keys_set inTurn.distinct key value) (order_concat inTurn.order key value)
    (found_concat inTurn.found key value)

/-- Pairs set in turn from the empty entries on. -/
theorem setInTurn_ofPairs (pairs : List (String × α)) : SetInTurn pairs (ofPairs pairs) := by
  induction pairs using List.reverseRecOn with
  | nil => exact .of List.nodup_nil rfl fun _ => rfl
  | append_singleton pairs pair ih =>
    rw [ofPairs_concat]
    exact ih.set pair.1 pair.2

end Entries

/-- The keys in their order and, apart from them, what each key stands for. -/
structure KeyTable (α : Type u) where
  order : List String
  value? : String → Option α

namespace KeyTable

def empty : KeyTable α := ⟨[], fun _ => none⟩

/-- A key that stands for nothing yet goes behind the others. -/
def set (table : KeyTable α) (key : String) (value : α) : KeyTable α where
  order := if (table.value? key).isSome then table.order else table.order ++ [key]
  value? name := if key = name then some value else table.value? name

def ofPairs (pairs : List (String × α)) : KeyTable α :=
  pairs.foldl (fun table pair => table.set pair.1 pair.2) empty

/-- The order lists exactly the keys that stand for something, each once. -/
structure InStep (table : KeyTable α) : Prop where
  distinct : table.order.Nodup
  listed : ∀ key, key ∈ table.order ↔ (table.value? key).isSome

/-- The table and the entries have the same keys in the same order, with the same values. -/
structure Shows (table : KeyTable α) (entries : Entries α) : Prop where
  order : table.order = Entries.keys entries
  value : ∀ key, table.value? key = Entries.get? entries key

variable {table : KeyTable α} {entries : Entries α}

theorem InStep.set (inStep : table.InStep) (key : String) (value : α) :
    (table.set key value).InStep := by
  obtain ⟨distinct, listed⟩ := inStep
  unfold KeyTable.set
  by_cases known : (table.value? key).isSome
  · simp only [known, if_true]
    refine ⟨distinct, fun name => ?_⟩
    dsimp only
    split
    · rename_i same
      exact ⟨fun _ => rfl, fun _ => same ▸ (listed key).mpr known⟩
    · exact listed name
  · have fresh : key ∉ table.order := mt (listed key).mp known
    simp only [known, Bool.false_eq_true, if_false]
    refine ⟨List.nodup_append.mpr ⟨distinct, by simp, ?_⟩, fun name => ?_⟩
    · intro first member second last same
      rw [List.mem_singleton.mp last] at same
      exact fresh (same ▸ member)
    · dsimp only
      rw [List.mem_append, List.mem_singleton, listed name]
      split
      · rename_i same
        simp [same]
      · rename_i other
        simp [Ne.symm other]

theorem Shows.set (same : table.Shows entries) (key : String) (value : α) :
    (table.set key value).Shows (Entries.set entries key value) := by
  constructor
  · rw [KeyTable.set, Entries.keys_set, same.value, same.order]
    simp only [Entries.isSome_get?_iff]
  · intro name
    rw [Entries.get?_set, ← same.value]
    rfl

private theorem ofPairs_concat (pairs : List (String × α)) (key : String) (value : α) :
    ofPairs (pairs ++ [(key, value)]) = (ofPairs pairs).set key value := by
  simp [ofPairs]

/-- Every run of steps from the empty table keeps the order and the values in step. -/
theorem inStep_ofPairs (pairs : List (String × α)) : (ofPairs pairs).InStep := by
  induction pairs using List.reverseRecOn with
  | nil => exact ⟨List.nodup_nil, fun key => by simp [ofPairs, empty]⟩
  | append_singleton pairs pair ih =>
    rw [ofPairs_concat]
    exact ih.set pair.1 pair.2

private theorem shows_ofPairs (pairs : List (String × α)) :
    (ofPairs pairs).Shows (Entries.ofPairs pairs) := by
  induction pairs using List.reverseRecOn with
  | nil => exact ⟨rfl, fun _ => rfl⟩
  | append_singleton pairs pair ih =>
    rw [ofPairs_concat, Entries.ofPairs_concat]
    exact ih.set pair.1 pair.2

end KeyTable

open Entries (SetInTurn)

/-- The data that JSON stands for. At every depth the members of a record are set in turn. -/
inductive Json.Reads : Json → Datum → Prop where
  | null : Reads .null .null
  | bool (b : Bool) : Reads (.bool b) (.bool b)
  | number {spelling : List Char} {x : Double}
      (literal : (Numeral.decimal? spelling).getD .nan = x) : Reads (.number spelling) (.number x)
  | text (s : String) : Reads (.text s) (.text s)
  | list {items : List Json} {data : List Datum} (each : List.Forall₂ Reads items data) :
      Reads (.list items) (.list data)
  | record {members : List (String × Json)} {pairs entries : List (String × Datum)}
      (named : members.map Prod.fst = pairs.map Prod.fst)
      (each : List.Forall₂ Reads (members.map Prod.snd) (pairs.map Prod.snd))
      (inTurn : SetInTurn pairs entries) : Reads (.record members) (.record entries)

/-- The data that a YAML node stands for. At every depth the pairs of a mapping are set in turn. -/
inductive Yaml.Node.Reads : Yaml.Node → Datum → Prop where
  | scalar {line : Nat} {tag text : String} {plain : Bool} {datum : Datum}
      (meaning : scalarDatum line tag plain text = .ok datum) :
      Reads (.scalar line tag plain text) datum
  | sequence {line : Nat} {items : List Yaml.Node} {data : List Datum}
      (each : List.Forall₂ Reads items data) : Reads (.sequence line items) (.list data)
  | mapping {line : Nat} {nodes : List (Yaml.Node × Yaml.Node)}
      {pairs entries : List (String × Datum)}
      (named : nodes.map (fun node => keyText node.1) = pairs.map fun pair => .ok pair.1)
      (each : List.Forall₂ Reads (nodes.map Prod.snd) (pairs.map Prod.snd))
      (inTurn : SetInTurn pairs entries) : Reads (.mapping line nodes) (.record entries)
  | alias {line : Nat} {target : Yaml.Node} {datum : Datum} (read : Reads target datum) :
      Reads (.alias line target) datum

namespace Json

mutual

private theorem reads_toDatum (json : Json) : json.Reads json.toDatum := by
  match json with
  | .null => exact .null
  | .bool b => exact .bool b
  | .number spelling => exact .number rfl
  | .text s => exact .text s
  | .list items => exact .list (reads_toData items)
  | .record members =>
    obtain ⟨named, each⟩ := reads_toEntries members
    exact .record named each (Entries.setInTurn_ofPairs _)

private theorem reads_toData (items : List Json) : List.Forall₂ Reads items (toData items) := by
  match items with
  | [] => exact .nil
  | item :: rest => exact .cons (reads_toDatum item) (reads_toData rest)

private theorem reads_toEntries (members : List (String × Json)) :
    members.map Prod.fst = (toEntries members).map Prod.fst ∧
      List.Forall₂ Reads (members.map Prod.snd) ((toEntries members).map Prod.snd) := by
  match members with
  | [] => exact ⟨rfl, .nil⟩
  | (key, item) :: rest =>
    obtain ⟨named, each⟩ := reads_toEntries rest
    exact ⟨congrArg (key :: ·) named, .cons (reads_toDatum item) each⟩

end

end Json

namespace Yaml

mutual

private theorem Node.reads_of_toDatum (node : Node) {datum : Datum}
    (read : node.toDatum = .ok datum) :
    node.Reads datum := by
  match node with
  | .scalar .. => exact .scalar read
  | .sequence _ items =>
    rw [Node.toDatum] at read
    obtain ⟨data, found, last⟩ := exists_of_bind_eq_ok read
    cases last
    exact .sequence (reads_of_toData items found)
  | .mapping _ nodes =>
    rw [Node.toDatum] at read
    obtain ⟨pairs, found, last⟩ := exists_of_bind_eq_ok read
    cases last
    obtain ⟨named, each⟩ := reads_of_toEntries nodes found
    exact .mapping named each (Entries.setInTurn_ofPairs pairs)
  | .alias _ target =>
    rw [Node.toDatum] at read
    exact .alias (target.reads_of_toDatum read)
  | .circular _ => cases read

private theorem reads_of_toData (items : List Node) {data : List Datum}
    (read : toData items = .ok data) :
    List.Forall₂ Node.Reads items data := by
  match items with
  | [] =>
    cases read
    exact .nil
  | item :: rest =>
    rw [toData] at read
    obtain ⟨first, one, read⟩ := exists_of_bind_eq_ok read
    obtain ⟨others, more, last⟩ := exists_of_bind_eq_ok read
    cases last
    exact .cons (item.reads_of_toDatum one) (reads_of_toData rest more)

private theorem reads_of_toEntries (nodes : List (Node × Node)) {pairs : List (String × Datum)}
    (read : toEntries nodes = .ok pairs) :
    nodes.map (fun node => keyText node.1) = pairs.map (fun pair => .ok pair.1) ∧
      List.Forall₂ Node.Reads (nodes.map Prod.snd) (pairs.map Prod.snd) := by
  match nodes with
  | [] =>
    cases read
    exact ⟨rfl, .nil⟩
  | (key, value) :: rest =>
    rw [toEntries] at read
    obtain ⟨name, text, read⟩ := exists_of_bind_eq_ok read
    obtain ⟨first, one, read⟩ := exists_of_bind_eq_ok read
    obtain ⟨others, more, last⟩ := exists_of_bind_eq_ok read
    cases last
    obtain ⟨named, each⟩ := reads_of_toEntries rest more
    refine ⟨?_, .cons (value.reads_of_toDatum one) each⟩
    rw [List.map_cons, List.map_cons, text, named]

end

end Yaml

/-- Keys that are set in turn are listed in the order in which they were first set, each once and
with the value that it was last set to, and no other key stands for anything. A table that keeps the
order of the keys apart from their values stays in step with itself and shows the same. What a
document in JSON or YAML is read as has all its records made in this way, whatever reads YAML. -/
theorem first_place_last_value {α : Type u} (pairs : List (String × α)) :
    SetInTurn pairs (Entries.ofPairs pairs) ∧
      ((KeyTable.ofPairs pairs).InStep ∧ (KeyTable.ofPairs pairs).Shows (Entries.ofPairs pairs)) ∧
      ∀ (octets : List UInt8) (yaml : Yaml.Reader),
        (∀ json, Json.parse? (Utf8.decodeLossy octets) = some json →
          ∃ datum, decodeDocument octets yaml = .ok datum ∧ json.Reads datum) ∧
        ∀ root datum, Json.parse? (Utf8.decodeLossy octets) = none →
          yaml octets = some (some root) → decodeDocument octets yaml = .ok datum →
            root.Reads datum := by
  refine ⟨Entries.setInTurn_ofPairs pairs,
    ⟨KeyTable.inStep_ofPairs pairs, KeyTable.shows_ofPairs pairs⟩, fun octets yaml =>
      ⟨fun json parsed => ?_, fun root datum other parsed decoded => ?_⟩⟩
  · refine ⟨json.toDatum, ?_, json.reads_toDatum⟩
    rw [decodeDocument, parsed]
  · rw [decodeDocument, other, parsed] at decoded
    exact root.reads_of_toDatum decoded

/-- The octets of `b: x` and `b: z` on two lines. -/
def repeatedKeyOctets : List UInt8 :=
  [98, 58, 32, 120, 10, 98, 58, 32, 122]

/-- The mapping on these lines. -/
def repeatedKeyMapping : Yaml.Node :=
  .mapping 1 [(.scalar 1 "" true "b", .scalar 1 "" true "x"),
    (.scalar 2 "" true "b", .scalar 2 "" true "z")]

private theorem eq_repeatedKeyMapping {found : Option (Option Yaml.Node)}
    (shape : (match found with
      | some (some (.mapping 1 [(.scalar 1 "" true "b", .scalar 1 "" true "x"),
          (.scalar 2 "" true "b", .scalar 2 "" true "z")])) => true
      | _ => false) = true) : found = some (some repeatedKeyMapping) := by
  split at shape
  · rfl
  · cases shape

theorem first_place_last_value_repeated :
    Json.parse? (Utf8.decodeLossy repeatedKeyOctets) = none ∧
      Yaml.parse? repeatedKeyOctets = some (some repeatedKeyMapping) ∧
      decodeDocument repeatedKeyOctets = .ok (.record [("b", .text "z")]) ∧
      repeatedKeyMapping.Reads (.record [("b", .text "z")]) ∧
      ∃ datum, decodeDocument (Utf8.encode "[\x7b\"b\":1,\"b\":null\x7d]".toList) = .ok datum ∧
        (Json.list [.record [("b", .number ['1']), ("b", .null)]]).Reads datum := by
  have other : Json.parse? (Utf8.decodeLossy repeatedKeyOctets) = none := by rfl
  have parsed : Yaml.parse? repeatedKeyOctets = some (some repeatedKeyMapping) :=
    eq_repeatedKeyMapping (by decide +kernel)
  have decoded : decodeDocument repeatedKeyOctets = .ok (.record [("b", .text "z")]) := by
    rw [decodeDocument, other, parsed]
    rfl
  obtain ⟨-, -, reads⟩ := first_place_last_value [("b", 1), ("a", 2), ("b", 3)]
  refine ⟨other, parsed, decoded, (reads _ Yaml.parse?).2 _ _ other parsed decoded,
    (reads _ Yaml.parse?).1 _ ?_⟩
  rw [Utf8.decodeLossy_encode]
  rfl

end ExprTree
