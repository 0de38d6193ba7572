import ExprTree.Proofs.CanonicalForm
import ExprTree.Proofs.JsonNumber

/-!
Two ways from a JSON document to a value. One reads the data of the document; the other hands over
the tree into which a host reads it, where numbers are known by their spelling and records have no
order. Main statement: but for the order of keys both give the same value, unless a number is beyond
the finite range, which is infinite on the first way and stays text on the second.
-/
namespace ExprTree

namespace Json

mutual

/-- The host's tree of a document. Of repeated members the last one counts. -/
def toPlain : Json → Plain
  | null => .nothing
  | bool b => .flag b
  | number spelling => .literal (String.ofList spelling)
  | text s => .text s
  | list items => .list (toPlainItems items)
  | record members => .record (Entries.ofPairs (toPlainMembers members))

def toPlainItems : List Json → List Plain
  | [] => []
  | item :: rest => toPlain item :: toPlainItems rest

def toPlainMembers : List (String × Json) → List (String × Plain)
  | [] => []
  | (key, item) :: rest => (key, toPlain item) :: toPlainMembers rest

end

private theorem toPlainMembers_eq_map (members : List (String × Json)) :
    toPlainMembers members = members.map fun member => (member.1, member.2.toPlain) := by
  induction members with
  | nil => rfl
  | cons member rest ih => rw [toPlainMembers, ih]; rfl

private theorem toData_eq_map (items : List Json) : toData items = items.map toDatum := by
  induction items with
  | nil => rfl
  | cons item rest ih => rw [toData, ih]; rfl

private theorem toEntries_eq_map (members : List (String × Json)) :
    toEntries members = members.map fun member => (member.1, member.2.toDatum) := by
  induction members with
  | nil => rfl
  | cons member rest ih => rw [toEntries, ih]; rfl

end Json

theorem Plain.entryKeysDiffer_iff {entries : List (String × Plain)} :
    EntryKeysDiffer entries ↔ ∀ entry ∈ entries, entry.2.KeysDiffer := by
  induction entries with
  | nil => simp [EntryKeysDiffer]
  | cons entry rest ih => simp [EntryKeysDiffer, ih]

mutual

private theorem Json.toPlain_keysDiffer (json : Json) : json.toPlain.KeysDiffer := by
  match json with
  | .null | .bool _ | .number _ | .text _ => exact trivial
  | .list items => exact toPlainItems_keysDiffer items
  | .record members =>
    refine ⟨Entries.nodup_keys_ofPairs _, Plain.entryKeysDiffer_iff.mpr ?_⟩
    intro entry kept
    exact toPlainMembers_keysDiffer members entry (Entries.mem_of_mem_ofPairs kept)

private theorem Json.toPlainItems_keysDiffer (items : List Json) :
    Plain.AllKeysDiffer (toPlainItems items) := by
  match items with
  | [] => exact trivial
  | item :: rest => exact ⟨toPlain_keysDiffer item, toPlainItems_keysDiffer rest⟩

private theorem Json.toPlainMembers_keysDiffer (members : List (String × Json)) :
    ∀ entry ∈ toPlainMembers members, entry.2.KeysDiffer := by
  match members with
  | [] =>
    rintro entry ⟨⟩
  | (key, item) :: rest =>
    exact List.forall_mem_cons.mpr ⟨toPlain_keysDiffer item, toPlainMembers_keysDiffer rest⟩

end

namespace Datum

/-- No number is infinite. -/
inductive InRange : Datum → Prop where
  | null : InRange null
  | bool (b : Bool) : InRange (bool b)
  | number {x : Double} (bounded : ∀ negative, x ≠ .infinite negative) : InRange (number x)
  | text (s : String) : InRange (text s)
  | list {items : List Datum} (each : ∀ item ∈ items, InRange item) : InRange (list items)
  | record {entries : List (String × Datum)} (each : ∀ entry ∈ entries, InRange entry.2) :
      InRange (record entries)

private theorem inRange_number_iff {x : Double} :
    (number x).InRange ↔ ∀ negative, x ≠ .infinite negative := by
  constructor
  · rintro ⟨bounded⟩
    assumption
  · exact .number

private theorem inRange_list_iff {items : List Datum} :
    (list items).InRange ↔ ∀ item ∈ items, item.InRange := by
  constructor
  · rintro ⟨each⟩
    assumption
  · exact .list

private theorem inRange_record_iff {entries : List (String × Datum)} :
    (record entries).InRange ↔ ∀ entry ∈ entries, entry.2.InRange := by
  constructor
  · rintro ⟨each⟩
    assumption
  · exact .record

end Datum

namespace Json

open Value

/-- Both ways give one value, in new containers, exactly if no number is infinite. -/
def AgreesInRange (json : Json) : Prop :=
  ∀ ref, ofPlain ref json.toPlain = (ofDatum ref json.toDatum).sorted id ↔ json.toDatum.InRange

private theorem IsNumber.agreesInRange {spelling : List Char} (obeys : IsNumber spelling) :
    (number spelling).AgreesInRange := by
  intro ref
  obtain ⟨x, found⟩ := obeys.exists_decimal?
  rw [toDatum, toPlain, Datum.inRange_number_iff, ofPlain, String.toList_ofList,
    Numeral.float?_eq_decimal? obeys.isLiteralChar, found]
  cases x with
  | nan => simp [ofDatum, Value.sorted]
  | infinite negative => simp [ofDatum, Value.sorted]
  | finite negative units fits => simp [ofDatum, Value.sorted]

private theorem items_agree_iff {items : List Json} (each : ∀ item ∈ items, item.AgreesInRange)
    (ref : Ref)
    (place : Nat) :
    ofPlainItems ref place (toPlainItems items) =
        sortedItems id (ofDatumItems ref place (toData items)) ↔
      ∀ item ∈ items, item.toDatum.InRange := by
  induction items generalizing place with
  | nil => simp [toPlainItems, toData, ofPlainItems, ofDatumItems, sortedItems]
  | cons item rest ih =>
    obtain ⟨first, others⟩ := List.forall_mem_cons.mp each
    rw [toPlainItems, toData, ofPlainItems, ofDatumItems, sortedItems, List.cons.injEq, first,
      ih others, List.forall_mem_cons]

private theorem agreesInRange_list {items : List Json} (each : ∀ item ∈ items, item.AgreesInRange) :
    (list items).AgreesInRange := by
  intro ref
  rw [toPlain, toDatum, ofPlain, ofDatum, Value.sorted, Value.array.injEq, items_agree_iff each,
    Datum.inRange_list_iff, toData_eq_map, List.forall_mem_map]
  simp only [id, true_and]

/-- Of a record only the members count that no later one replaces. -/
theorem agreesInRange_record {members : List (String × Json)}
    (each : ∀ member ∈ members, member.2.AgreesInRange) : (record members).AgreesInRange := by
  intro ref
  rw [toPlain, toDatum, ofPlain, ofDatum, Value.sorted, toPlainMembers_eq_map, toEntries_eq_map,
    Entries.ofPairs_map, Entries.ofPairs_map, ofPlainEntries_eq_map, ofDatumEntries_eq_map,
    sortedEntries_eq_map, List.map_map, List.map_map, List.map_map, Datum.inRange_record_iff,
    List.forall_mem_map, Value.object.injEq]
  simp only [Function.comp_def, id, true_and]
  -- Both objects are now the members that count, in one order, with the values of either way.
  rw [Entries.sorted_map_eq_iff (Entries.nodup_keys_ofPairs members)]
  constructor
  · intro same member kept
    exact (each member (Entries.mem_of_mem_ofPairs kept) _).mp (same member kept)
  · intro bounded member kept
    exact (each member (Entries.mem_of_mem_ofPairs kept) _).mpr (bounded member kept)

private theorem WellNumbered.agreesInRange {json : Json} (numbered : json.WellNumbered) :
    json.AgreesInRange := by
  induction numbered with
  | null => exact fun _ => ⟨fun _ => .null, fun _ => rfl⟩
  | bool b => exact fun _ => ⟨fun _ => .bool b, fun _ => rfl⟩
  | text s => exact fun _ => ⟨fun _ => .text s, fun _ => rfl⟩
  | number obeys => exact obeys.agreesInRange
  | list each ih => exact agreesInRange_list ih
  | record each ih => exact agreesInRange_record ih

end Json

/-- However a host enumerates the records of the tree it reads a JSON document into, the value of
the tree is that of the document's own data with all keys sorted, exactly if none of the document's
numbers is beyond the finite range. -/
theorem document_routes_agree_iff {octets : List UInt8} {json : Json}
    (parsed : Json.parse? (Utf8.decodeLossy octets) = some json) :
    decodeDocument octets = .ok json.toDatum ∧
      ∀ plain, Plain.Same json.toPlain plain → ∀ ref,
        (Value.ofPlain ref plain = (Value.ofDatum ref json.toDatum).sorted id ↔
          json.toDatum.InRange) := by
  constructor
  · rw [decodeDocument, parsed]
  · intro plain same ref
    rw [Value.ofPlain_eq_of_same json.toPlain_keysDiffer same]
    exact (Json.parse?_wellNumbered parsed).agreesInRange ref

/-- A document that sets a member twice, out of the order of keys. -/
def repeatedMember : Json :=
  .record [("b", .number "2.50".toList), ("a", .number "-0".toList),
    ("b", .list [.number "1e2".toList])]

theorem document_routes_agree_iff_repeated :
    let octets := Utf8.encode "\x7b\"b\":2.50,\"a\":-0,\"b\":[1e2]\x7d".toList
    let plain := Plain.record [("a", .literal "-0"), ("b", .list [.literal "1e2"])]
    let ref := Ref.ofOrigin 0
    Json.parse? (Utf8.decodeLossy octets) = some repeatedMember ∧
      repeatedMember.toDatum.InRange ∧ Plain.Same repeatedMember.toPlain plain ∧
      Value.ofPlain ref plain = (Value.ofDatum ref repeatedMember.toDatum).sorted id ∧
      decodeDocument (Utf8.encode "1e400".toList) = .ok (.number (.infinite false)) ∧
      Value.ofPlain ref (.literal "1e400") ≠
        (Value.ofDatum ref (.number (.infinite false))).sorted id := by
  intro octets plain ref
  have parsed : Json.parse? (Utf8.decodeLossy octets) = some repeatedMember := rfl
  have vast : Json.parse? (Utf8.decodeLossy (Utf8.encode "1e400".toList)) =
      some (.number "1e400".toList) := rfl
  have infinite : Numeral.decimal? "1e400".toList = some (.infinite false) := by decide +kernel
  have bounded : repeatedMember.toDatum.InRange := by
    have datum : repeatedMember.toDatum =
        .record [("b", .list [(Json.number "1e2".toList).toDatum]),
          ("a", (Json.number "-0".toList).toDatum)] := rfl
    rw [datum]
    simp only [Datum.inRange_record_iff, Datum.inRange_list_iff, List.forall_mem_cons,
      List.not_mem_nil, false_imp_iff, implies_true, and_true, Json.toDatum,
      Datum.inRange_number_iff]
    decide +kernel
  have same : Plain.Same repeatedMember.toPlain plain := by
    have host : repeatedMember.toPlain =
        .record [("b", .list [.literal "1e2"]), ("a", .literal "-0")] := rfl
    rw [host]
    exact .record (.cons (.list (.cons (.leaf nofun nofun) .nil)) (.cons (.leaf nofun nofun) .nil))
      (.swap ..)
  obtain ⟨decoded, routes⟩ := document_routes_agree_iff vast
  have number : (Json.number "1e400".toList).toDatum = .number (.infinite false) := by
    rw [Json.toDatum, infinite]
    rfl
  rw [number] at decoded routes
  refine ⟨parsed, bounded, same, ?_, decoded, ?_⟩
  · exact ((document_routes_agree_iff parsed).2 plain same ref).mpr bounded
  · intro agree
    have bounded := (routes _ (.leaf nofun nofun) ref).mp agree
    exact Datum.inRange_number_iff.mp bounded false rfl

end ExprTree
