import ExprTree.Document
import ExprTree.Proofs.Decode
import ExprTree.Proofs.WireForm

/-! What a document is read as: whichever language it is written in, no record repeats a key. -/
namespace ExprTree

namespace Datum

theorem entryKeysDiffer_iff {entries : List (String × Datum)} :
    EntryKeysDiffer entries ↔ ∀ entry ∈ entries, entry.2.KeysDiffer := by
  induction entries with
  | nil => simp [EntryKeysDiffer]
  | cons entry rest ih => simp [EntryKeysDiffer, ih]

/-- A record of pairs that were set in turn repeats no key. -/
theorem keysDiffer_ofPairs {pairs : List (String × Datum)} (distinct : EntryKeysDiffer pairs) :
    (record (Entries.ofPairs pairs)).KeysDiffer := by
  refine ⟨Entries.nodup_keys_ofPairs pairs, entryKeysDiffer_iff.mpr ?_⟩
  intro entry member
  exact entryKeysDiffer_iff.mp distinct entry (Entries.mem_of_mem_ofPairs member)

end Datum

namespace Json

mutual

private theorem toDatum_keysDiffer (json : Json) : json.toDatum.KeysDiffer := by
  match json with
  | .null | .bool _ | .number _ | .text _ => exact trivial
  | .list items => exact toData_keysDiffer items
  | .record members => exact Datum.keysDiffer_ofPairs (toEntries_keysDiffer members)

private theorem toData_keysDiffer (items : List Json) : Datum.AllKeysDiffer (toData items) := by
  match items with
  | [] => exact trivial
  | item :: rest => exact ⟨toDatum_keysDiffer item, toData_keysDiffer rest⟩

private theorem toEntries_keysDiffer (members : List (String × Json)) :
    Datum.EntryKeysDiffer (toEntries members) := by
  match members with
  | [] => exact trivial
  | (_, item) :: rest => exact ⟨toDatum_keysDiffer item, toEntries_keysDiffer rest⟩

end

end Json

namespace Yaml

private theorem scalarDatum_keysDiffer {line : Nat} {tag : String} {plain : Bool} {text : String}
    {datum : Datum} (read : scalarDatum line tag plain text = .ok datum) : datum.KeysDiffer := by
  unfold scalarDatum at read
  split at read <;> cases read <;> exact trivial

mutual

private theorem Node.toDatum_keysDiffer (node : Node) {datum : Datum}
    (read : node.toDatum = .ok datum) :
    datum.KeysDiffer := by
  match node with
  | .scalar .. => exact scalarDatum_keysDiffer read
  | .sequence _ items =>
    rw [Node.toDatum] at read
    obtain ⟨data, found, last⟩ := exists_of_bind_eq_ok read
    cases last
    exact toData_keysDiffer items found
  | .mapping _ pairs =>
    rw [Node.toDatum] at read
    obtain ⟨entries, found, last⟩ := exists_of_bind_eq_ok read
    cases last
    exact Datum.keysDiffer_ofPairs (toEntries_keysDiffer pairs found)
  | .alias _ target =>
    rw [Node.toDatum] at read
    exact target.toDatum_keysDiffer read
  | .circular _ => cases read

private theorem toData_keysDiffer (items : List Node) {data : List Datum}
    (read : toData items = .ok data) :
    Datum.AllKeysDiffer data := by
  match items with
  | [] =>
    cases read
    exact trivial
  | item :: rest =>
    rw [toData] at read
    obtain ⟨first, one, read⟩ := exists_of_bind_eq_ok read
    obtain ⟨others, more, last⟩ := exists_of_bind_eq_ok read
    cases last
    exact ⟨item.toDatum_keysDiffer one, toData_keysDiffer rest more⟩

private theorem toEntries_keysDiffer (pairs : List (Node × Node)) {entries : List (String × Datum)}
    (read : toEntries pairs = .ok entries) : Datum.EntryKeysDiffer entries := by
  match pairs with
  | [] =>
    cases read
    exact trivial
  | (key, value) :: rest =>
    rw [toEntries] at read
    obtain ⟨name, _, read⟩ := exists_of_bind_eq_ok read
    obtain ⟨first, one, read⟩ := exists_of_bind_eq_ok read
    obtain ⟨others, more, last⟩ := exists_of_bind_eq_ok read
    cases last
    exact ⟨value.toDatum_keysDiffer one, toEntries_keysDiffer rest more⟩

end

end Yaml

/-- No record of a document repeats a key. -/
theorem decodeDocument_keysDiffer {octets : List UInt8} {yaml : Yaml.Reader} {datum : Datum}
    (decoded : decodeDocument octets yaml = .ok datum) : datum.KeysDiffer := by
  unfold decodeDocument at decoded
  split at decoded
  · cases decoded
    exact Json.toDatum_keysDiffer _
  · split at decoded
    · cases decoded
    · cases decoded
    · exact Yaml.Node.toDatum_keysDiffer _ decoded

end ExprTree
