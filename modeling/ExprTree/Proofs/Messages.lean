import ExprTree.Proofs.CanonicalForm
import ExprTree.Proofs.MessageFields
import ExprTree.Proofs.NumberBits
import ExprTree.Request

/-!
Messages of the binary protocol read back as what was written: every value that is not nested too
deep, whose structs repeat no key and whose message is not too long for its own counts.
-/
namespace ExprTree

namespace Wire

private theorem textOf_encode (text : String) : textOf (Utf8.encode text.toList) = .ok text := by
  rw [textOf, Utf8.decode?_encode]
  exact congrArg Except.ok String.ofList_toList

private theorem isUtf8_eq (text : String) : isUtf8 text = true := by
  rw [isUtf8, Utf8.decode?_encode]
  rfl

mutual

/-- No text of a protocol value is broken. -/
theorem broken?_eq (value : Wire) : value.broken? = none := by
  cases value with
  | text s => rw [broken?, isUtf8_eq, if_pos rfl]
  | struct fields => exact brokenField?_eq fields
  | list items => exact brokenItem?_eq items
  | unset | null | number | bool => rfl

private theorem brokenField?_eq (fields : List (String × Wire)) : brokenField? fields = none := by
  match fields with
  | [] => rfl
  | (key, value) :: rest =>
    rw [brokenField?, isUtf8_eq, if_pos rfl, broken?_eq value, brokenField?_eq rest]
    rfl

private theorem brokenItem?_eq (items : List Wire) : brokenItem? items = none := by
  match items with
  | [] => rfl
  | item :: rest =>
    rw [brokenItem?, broken?_eq item, brokenItem?_eq rest]
    rfl

end

/-- Every struct has octets. -/
theorem marshal_eq (fields : List (String × Wire)) : marshal fields = .ok (encodeStruct fields) := by
  rw [marshal, brokenField?_eq]
  rfl

private theorem Field.length_le_writeOctets (number : Nat) (content : List UInt8) :
    content.length ≤ (writeOctets number content).length := by
  rw [writeOctets, List.length_append]
  exact Nat.le_add_left ..

mutual

/-- How many messages stand in each other in the message of a value. -/
def levels : Wire → Nat
  | .struct fields => structLevels fields + 1
  | .list items => listLevels items + 1
  | _ => 1

def structLevels : List (String × Wire) → Nat
  | [] => 1
  | (_, value) :: rest => max (value.levels + 1) (structLevels rest)

def listLevels : List Wire → Nat
  | [] => 1
  | item :: rest => max (item.levels + 1) (listLevels rest)

end

/-- A key and a value are read one after the other. -/
theorem foldFields_entry {step : String × Wire → Field → Except CodecFault (String × Wire)}
    {key : String} {value : Wire} {name body : List UInt8}
    (short : (Field.writeOctets 1 name ++ Field.writeOctets 2 body).length < Varint.bound)
    (named : step ("", .unset) ⟨1, .octets name⟩ = .ok (key, .unset))
    (valued : step (key, .unset) ⟨2, .octets body⟩ = .ok (key, value)) :
    foldFields step ("", .unset) (Field.writeOctets 1 name ++ Field.writeOctets 2 body) =
      .ok (key, value) := by
  have nameShort := Field.length_le_writeOctets 1 name
  have bodyShort := Field.length_le_writeOctets 2 body
  rw [List.length_append] at short
  rw [foldFields_of_scan (Field.scan_writeOctets (by decide) (by decide) _ (by omega)) named]
  refine foldFields_alone (fun rest => ?_) valued
  exact Field.scan_writeOctets (by decide) (by decide) rest (by omega)

/-- Reading goes on behind the first entry of a struct. -/
theorem readStruct_entry {depth : Nat} {before : List (String × Wire)} {key : String} {value : Wire}
    {body : List UInt8} (absent : key ∉ Entries.keys before)
    (read : readValue depth .unset body = .ok value)
    (short : (Field.writeOctets 1 (Utf8.encode key.toList) ++ Field.writeOctets 2 body).length <
      Varint.bound) (rest : List UInt8) :
    readStruct (depth + 1) before (Field.writeOctets 1
        (Field.writeOctets 1 (Utf8.encode key.toList) ++ Field.writeOctets 2 body) ++ rest) =
      readStruct (depth + 1) (before ++ [(key, value)]) rest := by
  rw [readStruct, readStruct]
  refine foldFields_of_scan (Field.scan_writeOctets (by decide) (by decide) rest short) ?_
  simp only
  rw [@foldFields_entry _ key value _ _ short, ← Entries.set_of_fresh absent]
  · rfl
  · simp only [textOf_encode]
    rfl
  · simp only [read]
    rfl

/-- Reading goes on behind the first item of a list. -/
theorem readList_item {depth : Nat} {before : List Wire} {item : Wire} {body : List UInt8}
    (read : readValue depth .unset body = .ok item) (short : body.length < Varint.bound)
    (rest : List UInt8) :
    readList (depth + 1) before (Field.writeOctets 1 body ++ rest) =
      readList (depth + 1) (before ++ [item]) rest := by
  rw [readList, readList]
  refine foldFields_of_scan (Field.scan_writeOctets (by decide) (by decide) rest short) ?_
  simp only [read]
  rfl

private theorem length_lt_of_writeOctets {number : Nat} {content : List UInt8}
    (short : (Field.writeOctets number content).length < Varint.bound) :
    content.length < Varint.bound :=
  Nat.lt_of_le_of_lt (Field.length_le_writeOctets number content) short

mutual

-- Each recursive call is for a part of the message, which is no longer than the whole.

private theorem readValue_encode {depth : Nat} (value : Wire) (distinct : value.KeysDiffer)
    (shallow : value.levels ≤ depth) (short : (encode value).length < Varint.bound) :
    readValue depth .unset (encode value) = .ok value := by
  match depth, value with
  | 0, value => cases value <;> simp [levels] at shallow
  | depth + 1, .unset => rw [readValue, encode, foldFields_nil]
  | depth + 1, .null =>
    rw [readValue, encode]
    exact foldFields_alone
      (fun rest => Field.scan_writeVarint (by decide) (by decide) rest (by decide)) rfl
  | depth + 1, .number x =>
    rw [readValue, encode]
    refine foldFields_alone
      (fun rest => Field.scan_writeFixed (by decide) (by decide) rest x.toBits_lt) ?_
    simp only [Double.ofBits_toBits]
  | depth + 1, .bool b =>
    rw [readValue, encode]
    cases b with
    | false | true =>
      exact foldFields_alone
        (fun rest => Field.scan_writeVarint (by decide) (by decide) rest (by decide)) rfl
  | depth + 1, .text s =>
    have content := length_lt_of_writeOctets short
    rw [readValue, encode]
    refine foldFields_alone
      (fun rest => Field.scan_writeOctets (by decide) (by decide) rest content) ?_
    simp only [textOf_encode]
    rfl
  | depth + 1, .struct fields =>
    have content := length_lt_of_writeOctets short
    have inner := readStruct_encodeStruct [] fields distinct.1 distinct.2
      (Nat.le_of_succ_le_succ shallow) content
    rw [readValue, encode]
    refine foldFields_alone
      (fun rest => Field.scan_writeOctets (by decide) (by decide) rest content) ?_
    simp only [structSoFar, inner]
    rfl
  | depth + 1, .list items =>
    have content := length_lt_of_writeOctets short
    have inner := readList_encodeList [] items distinct (Nat.le_of_succ_le_succ shallow) content
    rw [readValue, encode]
    refine foldFields_alone
      (fun rest => Field.scan_writeOctets (by decide) (by decide) rest content) ?_
    simp only [listSoFar, inner]
    rfl

private theorem readStruct_encodeStruct {depth : Nat} (before fields : List (String × Wire))
    (fresh : (Entries.keys (before ++ fields)).Nodup) (distinct : FieldKeysDiffer fields)
    (shallow : structLevels fields ≤ depth)
    (short : (encodeStruct fields).length < Varint.bound) :
    readStruct depth before (encodeStruct fields) = .ok (before ++ fields) := by
  match depth, fields with
  | 0, [] => simp [structLevels] at shallow
  | 0, _ :: _ => simp [structLevels] at shallow
  | depth + 1, [] => rw [readStruct, encodeStruct, foldFields_nil, List.append_nil]
  | depth + 1, (key, value) :: rest =>
    have absent : key ∉ Entries.keys before := by
      intro member
      rw [Entries.keys, List.map_append, List.map_cons] at fresh
      exact (List.nodup_append.mp fresh).2.2 _ member _ List.mem_cons_self rfl
    rw [structLevels] at shallow
    rw [encodeStruct, List.length_append] at short
    have entry := length_lt_of_writeOctets (Nat.lt_of_le_of_lt (Nat.le_add_right _ _) short)
    have parts := entry
    rw [List.length_append] at parts
    have inner := @readValue_encode depth value distinct.1 (by omega)
      (length_lt_of_writeOctets (Nat.lt_of_le_of_lt (Nat.le_add_left _ _) parts))
    have later := readStruct_encodeStruct (before ++ [(key, value)]) rest (by simpa using fresh)
      distinct.2 (Nat.le_trans (Nat.le_max_right _ _) shallow) (by omega)
    rw [encodeStruct, readStruct_entry absent inner entry, later, List.append_assoc,
      List.singleton_append]

private theorem readList_encodeList {depth : Nat} (before items : List Wire)
    (distinct : AllKeysDiffer items) (shallow : listLevels items ≤ depth)
    (short : (encodeList items).length < Varint.bound) :
    readList depth before (encodeList items) = .ok (before ++ items) := by
  match depth, items with
  | 0, [] => simp [listLevels] at shallow
  | 0, _ :: _ => simp [listLevels] at shallow
  | depth + 1, [] => rw [readList, encodeList, foldFields_nil, List.append_nil]
  | depth + 1, item :: rest =>
    rw [listLevels] at shallow
    rw [encodeList, List.length_append] at short
    have body := length_lt_of_writeOctets (Nat.lt_of_le_of_lt (Nat.le_add_right _ _) short)
    have inner := @readValue_encode depth item distinct.1 (by omega) body
    have later := readList_encodeList (before ++ [item]) rest distinct.2
      (Nat.le_trans (Nat.le_max_right _ _) shallow) (by omega)
    rw [encodeList, readList_item inner body, later, List.append_assoc, List.singleton_append]

end

/-- A struct that can be sent: it repeats no key, is not nested too deep, and its message is not too
long for its own counts. -/
structure Sendable (fields : List (String × Wire)) : Prop where
  distinct : (struct fields).KeysDiffer
  shallow : structLevels fields ≤ nestingLimit
  short : (encodeStruct fields).length < Varint.bound

/-- What was sent is what is read. -/
theorem decodeStruct_encodeStruct {fields : List (String × Wire)} (sendable : Sendable fields) :
    decodeStruct (encodeStruct fields) = .ok fields :=
  readStruct_encodeStruct [] fields sendable.distinct.1 sendable.distinct.2 sendable.shallow
    sendable.short

end Wire

/-- Every result has a protocol form. -/
theorem encodeResult_eq (value : Value) : encodeResult value = .ok (resultFields value) := by
  rw [encodeResult, Wire.broken?_eq]

end ExprTree
