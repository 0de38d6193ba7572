import ExprTree.Builtin.Call
import ExprTree.Proofs.Decode
import ExprTree.Proofs.NumberText
import ExprTree.Proofs.Regions

/-!
Writing values as JSON. What is written is always the JSON text, and a value is written unless its
containers are nested too deep. Main statement: one level more than a document may have is fine.
-/
namespace ExprTree

namespace Json

section Excess

variable {room : Nat}

private theorem excess?_within {region last : Region} {text : List Char}
    (within : Within region text last)
    (rest : List Char) : excess? room region (text ++ rest) = excess? room last rest := by
  induction within with
  | nil => rfl
  | cons inner _ ih => rw [List.cons_append, excess?, if_pos inner, ih]

private theorem excess?_word {word : List Char} (plain : IsWord word) (rest : List Char) :
    excess? room .outside (word ++ rest) = excess? room .outside rest := by
  induction word with
  | nil => rfl
  | cons c later ih =>
    obtain ⟨here, others⟩ := List.forall_mem_cons.mp plain
    have braces : c ≠ '{' ∧ c ≠ '}' ∧ c ≠ '[' ∧ c ≠ ']' := by
      refine ⟨?_, ?_, ?_, ?_⟩ <;> rintro rfl <;> exact here (by decide)
    rw [List.cons_append, excess?]
    simp [braces, here.next, ih others]

private theorem excess?_quoted (s : String) (rest : List Char) :
    excess? room .outside (Text.quoted s ++ rest) = excess? room .outside rest :=
  excess?_within (within_quoted s.toList) rest

private theorem excess?_open {c : Char} (mark : c = '{' ∨ c = '[') (rest : List Char) :
    excess? (room + 1) .outside (c :: rest) = excess? room .outside rest := by
  rcases mark with rfl | rfl <;> rfl

private theorem excess?_close {c : Char} (mark : c = '}' ∨ c = ']') (rest : List Char) :
    excess? room .outside (c :: rest) = excess? (room + 1) .outside rest := by
  rcases mark with rfl | rfl <;> rfl

private theorem excess?_between {c : Char} (mark : c = ',' ∨ c = ':') (rest : List Char) :
    excess? room .outside (c :: rest) = excess? room .outside rest := by
  rcases mark with rfl | rfl <;> rfl

end Excess

private theorem accept_eq_ok_iff {text taken : List Char} :
    accept text = .ok taken ↔ excess? maxDepth .outside text = none ∧ text = taken := by
  unfold accept
  cases excess? maxDepth .outside text <;> simp

private theorem acceptPart_eq_ok_iff {typeName : String} {text taken : List Char} :
    acceptPart typeName text = .ok taken ↔
      excess? maxDepth .outside text = none ∧ text = taken := by
  rw [← accept_eq_ok_iff, acceptPart]
  exact ⟨eq_ok_of_mapError, fun accepted => by rw [accepted]; rfl⟩

end Json

namespace Value

open Json

mutual

/-- How deep containers are nested. -/
def depth : Value → Nat
  | object _ entries => entryDepth entries + 1
  | array _ items => itemDepth items + 1
  | _ => 0

def entryDepth : List (String × Value) → Nat
  | [] => 0
  | (_, value) :: rest => max (depth value) (entryDepth rest)

def itemDepth : List Value → Nat
  | [] => 0
  | item :: rest => max (depth item) (itemDepth rest)

end

private theorem isWord_toText {x : Double} (finite : x.isFinite = true) :
    IsWord x.toText.toList := by
  obtain ⟨s, well, spelled, _⟩ := Double.exists_spelling finite
  rw [spelled]
  exact fun c member => isWordChar_of_isLiteralChar (well.isLiteralChar c member)

mutual

/-- A value that is not deeper than there is room for opens no container too many. -/
theorem excess?_jsonChars (v : Value) {room : Nat} (shallow : v.depth ≤ room) (rest : List Char) :
    excess? room .outside (v.jsonChars ++ rest) = excess? room .outside rest := by
  match v with
  | .undefined | .null | .function _ =>
    have word : IsWord "null".toList := by decide
    exact excess?_word word rest
  | .bool b => cases b <;> exact excess?_word (by decide) rest
  | .text s => exact excess?_quoted s rest
  | .number x =>
    rw [jsonChars]
    split
    · exact excess?_word (isWord_toText ‹_›) rest
    · exact excess?_word (by decide) rest
  | .object _ entries =>
    obtain ⟨less, rfl⟩ := Nat.exists_eq_succ_of_ne_zero (Nat.ne_zero_of_lt shallow)
    have inner := excess?_jsonMembers true entries (Nat.le_of_succ_le_succ shallow) ('}' :: rest)
    rw [jsonChars, List.append_assoc, List.cons_append, excess?_open (.inl rfl)]
    exact inner.trans (excess?_close (.inl rfl) rest)
  | .array _ items =>
    obtain ⟨less, rfl⟩ := Nat.exists_eq_succ_of_ne_zero (Nat.ne_zero_of_lt shallow)
    have inner := excess?_jsonItems true items (Nat.le_of_succ_le_succ shallow) (']' :: rest)
    rw [jsonChars, List.append_assoc, List.cons_append, excess?_open (.inr rfl)]
    exact inner.trans (excess?_close (.inr rfl) rest)

private theorem excess?_jsonMembers (first : Bool) (entries : List (String × Value)) {room : Nat}
    (shallow : entryDepth entries ≤ room) (rest : List Char) :
    excess? room .outside (jsonMembers first entries ++ rest) = excess? room .outside rest := by
  match entries with
  | [] => rfl
  | (key, value) :: others =>
    obtain ⟨here, there⟩ := Nat.max_le.mp shallow
    have later := excess?_jsonMembers false others there rest
    rw [jsonMembers]
    split
    · exact excess?_jsonMembers first others there rest
    · have member : excess? room .outside
          (Text.quoted key ++ ':' :: (jsonChars value ++ (jsonMembers false others ++ rest))) =
          excess? room .outside rest := by
        rw [excess?_quoted, excess?_between (.inr rfl), excess?_jsonChars value here, later]
      simp only [List.append_assoc, List.cons_append]
      cases first with
      | true => exact member
      | false => exact (excess?_between (.inl rfl) _).trans member

private theorem excess?_jsonItems (first : Bool) (items : List Value) {room : Nat}
    (shallow : itemDepth items ≤ room) (rest : List Char) :
    excess? room .outside (jsonItems first items ++ rest) = excess? room .outside rest := by
  match items with
  | [] => rfl
  | item :: others =>
    obtain ⟨here, there⟩ := Nat.max_le.mp shallow
    have both : excess? room .outside (jsonChars item ++ (jsonItems false others ++ rest)) =
        excess? room .outside rest := by
      rw [excess?_jsonChars item here, excess?_jsonItems false others there]
    rw [jsonItems]
    simp only [List.append_assoc]
    cases first with
    | true => exact both
    | false => exact (excess?_between (.inl rfl) _).trans both

end

mutual

/-- A value that is deeper than there is room for opens a container too many. -/
theorem excess?_deep (v : Value) {room : Nat} (deep : room < v.depth) (rest : List Char) :
    (excess? room .outside (v.jsonChars ++ rest)).isSome = true := by
  match v with
  | .undefined | .null | .bool _ | .number _ | .text _ | .function _ => cases deep
  | .object _ entries =>
    rw [jsonChars, List.append_assoc, List.cons_append]
    cases room with
    | zero => rfl
    | succ room =>
      rw [excess?_open (.inl rfl)]
      exact excess?_deepMembers true entries (Nat.lt_of_succ_lt_succ deep) _
  | .array _ items =>
    rw [jsonChars, List.append_assoc, List.cons_append]
    cases room with
    | zero => rfl
    | succ room =>
      rw [excess?_open (.inr rfl)]
      exact excess?_deepItems true items (Nat.lt_of_succ_lt_succ deep) _

private theorem excess?_deepMembers (first : Bool) (entries : List (String × Value)) {room : Nat}
    (deep : room < entryDepth entries) (rest : List Char) :
    (excess? room .outside (jsonMembers first entries ++ rest)).isSome = true := by
  match entries with
  | [] => cases deep
  | (key, value) :: others =>
    rw [jsonMembers]
    split
    · rename_i skipped
      have flat : value.depth = 0 := by cases value <;> first | rfl | cases skipped
      have later : room < entryDepth others := by
        rw [entryDepth, flat, Nat.zero_max] at deep
        exact deep
      exact excess?_deepMembers first others later rest
    · have member : (excess? room .outside
          (Text.quoted key ++ ':' :: (jsonChars value ++ (jsonMembers false others ++ rest)))).isSome
          = true := by
        rw [excess?_quoted, excess?_between (.inr rfl)]
        rcases Nat.lt_or_ge room value.depth with here | shallow
        · exact excess?_deep value here _
        · rw [excess?_jsonChars value shallow]
          exact excess?_deepMembers false others ((lt_max_iff.mp deep).resolve_left (by omega)) rest
      simp only [List.append_assoc, List.cons_append]
      cases first with
      | true => exact member
      | false => exact (congrArg Option.isSome (excess?_between (.inl rfl) _)).trans member

private theorem excess?_deepItems (first : Bool) (items : List Value) {room : Nat}
    (deep : room < itemDepth items) (rest : List Char) :
    (excess? room .outside (jsonItems first items ++ rest)).isSome = true := by
  match items with
  | [] => cases deep
  | item :: others =>
    have both : (excess? room .outside
        (jsonChars item ++ (jsonItems false others ++ rest))).isSome = true := by
      rcases Nat.lt_or_ge room item.depth with here | shallow
      · exact excess?_deep item here _
      · rw [excess?_jsonChars item shallow]
        exact excess?_deepItems false others ((lt_max_iff.mp deep).resolve_left (by omega)) rest
    rw [jsonItems]
    simp only [List.append_assoc]
    cases first with
    | true => exact both
    | false => exact (congrArg Option.isSome (excess?_between (.inl rfl) _)).trans both

end

private theorem intercalate_jsonItems (item : Value) (items : List Value) :
    [','].intercalate ((item :: items).map jsonChars) = item.jsonChars ++ jsonItems false items := by
  induction items generalizing item with
  | nil => simp [List.intercalate, jsonItems]
  | cons next rest ih =>
    rw [List.map_cons, List.map_cons, List.intercalate_cons_cons, ← List.map_cons, ih, jsonItems]
    simp

private theorem jsonItems_eq_intercalate (items : List Value) :
    jsonItems true items = [','].intercalate (items.map jsonChars) := by
  cases items with
  | nil => rfl
  | cons item rest =>
    rw [intercalate_jsonItems, jsonItems]
    rfl

/-- Texts that are all taken are taken as they are. -/
theorem mapM_acceptPart_eq_ok {typeName : String} {texts taken : List (List Char)}
    (accepted : texts.mapM (acceptPart typeName) = .ok taken) :
    taken = texts ∧ ∀ text ∈ texts, excess? maxDepth .outside text = none := by
  induction texts generalizing taken with
  | nil => exact ⟨(Except.ok.inj accepted).symm, nofun⟩
  | cons text rest ih =>
    rw [List.mapM_cons] at accepted
    obtain ⟨first, here, accepted⟩ := exists_of_bind_eq_ok accepted
    obtain ⟨others, later, same⟩ := exists_of_bind_eq_ok accepted
    obtain ⟨fits, rfl⟩ := acceptPart_eq_ok_iff.mp here
    obtain ⟨rfl, all⟩ := ih later
    exact ⟨(Except.ok.inj same).symm, List.forall_mem_cons.mpr ⟨fits, all⟩⟩

mutual

/-- What a value is written as is always its JSON text. -/
theorem eq_of_write (v : Value) {text : List Char} (written : v.write = .ok text) :
    text = v.jsonChars := by
  match v with
  | .undefined | .null | .function _ | .bool _ | .text _ | .number _ =>
    exact (Except.ok.inj written).symm
  | .object _ entries =>
    rw [write] at written
    obtain ⟨inner, found, same⟩ := exists_of_bind_eq_ok written
    rw [← Except.ok.inj same, eq_of_writeMembers true entries found, jsonChars]
  | .array _ items =>
    rw [write] at written
    obtain ⟨texts, found, written⟩ := exists_of_bind_eq_ok written
    obtain ⟨taken, accepted, same⟩ := exists_of_bind_eq_ok written
    rw [← Except.ok.inj same, (mapM_acceptPart_eq_ok accepted).1, eq_of_writeItems items found,
      jsonChars, jsonItems_eq_intercalate]

private theorem eq_of_writeMembers (first : Bool) (entries : List (String × Value))
    {text : List Char}
    (written : writeMembers first entries = .ok text) : text = jsonMembers first entries := by
  match entries with
  | [] => exact (Except.ok.inj written).symm
  | (key, value) :: rest =>
    rw [writeMembers] at written
    rw [jsonMembers]
    split at written
    · rw [if_pos ‹_›]
      exact eq_of_writeMembers first rest written
    · obtain ⟨here, found, written⟩ := exists_of_bind_eq_ok written
      obtain ⟨later, others, same⟩ := exists_of_bind_eq_ok written
      rw [if_neg ‹_›, ← Except.ok.inj same, eq_of_write value found,
        eq_of_writeMembers false rest others]

private theorem eq_of_writeItems (items : List Value) {texts : List (List Char)}
    (written : writeItems items = .ok texts) : texts = items.map jsonChars := by
  match items with
  | [] => exact (Except.ok.inj written).symm
  | item :: rest =>
    rw [writeItems] at written
    obtain ⟨here, found, written⟩ := exists_of_bind_eq_ok written
    obtain ⟨others, later, same⟩ := exists_of_bind_eq_ok written
    rw [← Except.ok.inj same, eq_of_write item found, eq_of_writeItems rest later, List.map_cons]

end

theorem accept_jsonChars {v : Value} (shallow : v.depth ≤ maxDepth) :
    accept v.jsonChars = .ok v.jsonChars := by
  have whole := v.excess?_jsonChars shallow []
  rw [List.append_nil] at whole
  exact accept_eq_ok_iff.mpr ⟨whole, rfl⟩

/-- Items that are not too deep are all taken. -/
theorem mapM_acceptPart {items : List Value} (shallow : itemDepth items ≤ maxDepth) :
    (items.map jsonChars).mapM (acceptPart itemType) = .ok (items.map jsonChars) := by
  induction items with
  | nil => rfl
  | cons item rest ih =>
    obtain ⟨here, there⟩ := Nat.max_le.mp shallow
    rw [List.map_cons, List.mapM_cons, ih there, acceptPart, accept_jsonChars here]
    rfl

private theorem itemDepth_le {items : List Value} {bound : Nat} :
    itemDepth items ≤ bound ↔ ∀ item ∈ items, item.depth ≤ bound := by
  induction items with
  | nil => simp [itemDepth]
  | cons item rest ih => simp [itemDepth, ih]

/-- An array that is written has no item that is too deep. -/
theorem shallow_of_write {ref : Ref} {items : List Value} {text : List Char}
    (written : (array ref items).write = .ok text) : itemDepth items ≤ maxDepth := by
  rw [write] at written
  obtain ⟨texts, found, written⟩ := exists_of_bind_eq_ok written
  obtain ⟨taken, accepted, _⟩ := exists_of_bind_eq_ok written
  rw [eq_of_writeItems items found] at accepted
  refine itemDepth_le.mpr fun item member => Nat.le_of_not_lt fun deep => ?_
  have fits := (mapM_acceptPart_eq_ok accepted).2 _ (List.mem_map_of_mem member)
  have excess := item.excess?_deep deep []
  rw [List.append_nil, fits] at excess
  cases excess

mutual

/-- A value is written as its JSON text, unless it is more than one level deeper than documents
are. -/
theorem write_eq (v : Value) (shallow : v.depth ≤ maxDepth + 1) : v.write = .ok v.jsonChars := by
  match v with
  | .undefined | .null | .function _ | .bool _ | .text _ | .number _ => rfl
  | .object _ entries =>
    rw [write, writeMembers_eq true entries (Nat.le_of_succ_le shallow)]
    rfl
  | .array _ items =>
    have inner : itemDepth items ≤ maxDepth := Nat.le_of_succ_le_succ shallow
    rw [write, writeItems_eq items (Nat.le_succ_of_le inner)]
    simp only [bind, Except.bind, mapM_acceptPart inner, jsonChars, jsonItems_eq_intercalate]

private theorem writeMembers_eq (first : Bool) (entries : List (String × Value))
    (shallow : entryDepth entries ≤ maxDepth + 1) :
    writeMembers first entries = .ok (jsonMembers first entries) := by
  match entries with
  | [] => rfl
  | (key, value) :: rest =>
    obtain ⟨here, there⟩ := Nat.max_le.mp shallow
    rw [writeMembers, jsonMembers]
    split
    · exact writeMembers_eq first rest there
    · rw [write_eq value here, writeMembers_eq false rest there]
      rfl

private theorem writeItems_eq (items : List Value) (shallow : itemDepth items ≤ maxDepth + 1) :
    writeItems items = .ok (items.map jsonChars) := by
  match items with
  | [] => rfl
  | item :: rest =>
    obtain ⟨here, there⟩ := Nat.max_le.mp shallow
    rw [writeItems, write_eq item here, writeItems_eq rest there]
    rfl

end

end Value

/-- `JSON.stringify` without an indent gives the JSON text. -/
theorem Builtin.call_jsonStringify {v : Value} (shallow : v.depth ≤ Json.maxDepth + 1)
    (kept : v.isSkipped = false) (origin : Nat) :
    jsonStringify.call origin [v] = .ok (.text v.json) := by
  have written := v.write_eq shallow
  simp only [call, argument, List.getElem?_cons_zero, Option.getD_some, stringify, kept, written]
  rfl

end ExprTree
