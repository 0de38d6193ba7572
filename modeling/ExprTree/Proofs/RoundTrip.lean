import ExprTree.Builtin.Call
import ExprTree.Document
import ExprTree.Proofs.Entries
import ExprTree.Proofs.JsonMachine
import ExprTree.Proofs.JsonToken
import ExprTree.Proofs.NumberText
import ExprTree.Proofs.Writing

/-!
Writing a value as JSON and reading it back. What comes back is the value with everything that JSON
has no word for left out or replaced by null; numbers, texts and the order of keys are kept.
-/
namespace ExprTree

open Numeral.Spelling (Ends)

namespace Value

mutual

/-- No object repeats a key. Objects are made by setting keys, which never adds one twice. -/
def KeysDiffer : Value → Prop
  | object _ entries => (Entries.keys entries).Nodup ∧ EntryKeysDiffer entries
  | array _ items => AllKeysDiffer items
  | _ => True

def EntryKeysDiffer : List (String × Value) → Prop
  | [] => True
  | (_, value) :: rest => KeysDiffer value ∧ EntryKeysDiffer rest

def AllKeysDiffer : List Value → Prop
  | [] => True
  | item :: rest => KeysDiffer item ∧ AllKeysDiffer rest

end

mutual

/-- What JSON keeps of a value. Undefined, functions and numbers that are not finite become null, a
negative zero becomes positive, and members that are undefined or functions are dropped. -/
def norm : Value → Datum
  | undefined => .null
  | null => .null
  | bool b => .bool b
  | number x => if x.isFinite then .number x.unsignedZero else .null
  | text s => .text s
  | object _ entries => .record (normEntries entries)
  | array _ items => .list (normItems items)
  | function _ => .null

def normEntries : List (String × Value) → List (String × Datum)
  | [] => []
  | (_, undefined) :: rest => normEntries rest
  | (_, function _) :: rest => normEntries rest
  | (key, value) :: rest => (key, norm value) :: normEntries rest

def normItems : List Value → List Datum
  | [] => []
  | item :: rest => norm item :: normItems rest

end

mutual

/-- The document that the JSON text of a value spells. -/
def written : Value → Json
  | undefined => .null
  | null => .null
  | bool b => .bool b
  | number x => if x.isFinite then .number x.toText.toList else .null
  | text s => .text s
  | object _ entries => .record (writtenMembers entries)
  | array _ items => .list (writtenItems items)
  | function _ => .null

def writtenMembers : List (String × Value) → List (String × Json)
  | [] => []
  | (key, value) :: rest =>
    if value.isSkipped then writtenMembers rest else (key, written value) :: writtenMembers rest

def writtenItems : List Value → List Json
  | [] => []
  | item :: rest => written item :: writtenItems rest

end

theorem ends_of_mark {c : Char} (mark : c = ',' ∨ c = ']' ∨ c = '}') (rest : List Char) :
    Ends (c :: rest) := by
  rintro d ⟨⟩
  rcases mark with rfl | rfl | rfl <;> decide

private theorem ends_jsonItems (items : List Value) {rest : List Char} (ends : Ends rest) :
    Ends (jsonItems false items ++ rest) := by
  cases items with
  | nil => exact ends
  | cons item others => exact ends_of_mark (.inl rfl) _

private theorem ends_jsonMembers (entries : List (String × Value)) {rest : List Char}
    (ends : Ends rest) :
    Ends (jsonMembers false entries ++ rest) := by
  induction entries with
  | nil => exact ends
  | cons entry others ih =>
    obtain ⟨key, value⟩ := entry
    rw [jsonMembers]
    split
    · exact ih
    · exact ends_of_mark (.inl rfl) _

section Tokens

open Json

variable {rest : List Char} {after : List Token}

theorem tokens?_mark {c : Char} {token : Token} (visible : isBlank c = false)
    (first : scanToken (c :: rest) = some (token, rest)) (others : tokens? rest = some after) :
    tokens? (c :: rest) = some (token :: after) :=
  @tokens?_cons c [] rest token after visible first others

theorem tokens?_null (others : tokens? rest = some after) :
    tokens? ("null".toList ++ rest) = some (.null :: after) :=
  @tokens?_cons 'n' ['u', 'l', 'l'] rest .null after rfl rfl others

theorem tokens?_quoted (s : String) (others : tokens? rest = some after) :
    tokens? (Text.quoted s ++ rest) = some (.text s :: after) := by
  have first := scanToken_quoted s rest
  rw [Text.quoted, List.cons_append] at first ⊢
  exact tokens?_cons rfl first others

private theorem tokens?_number {x : Double} (finite : x.isFinite = true) (ends : Ends rest)
    (others : tokens? rest = some after) :
    tokens? (x.toText.toList ++ rest) = some (.number x.toText.toList :: after) := by
  have scanned := Double.scanNumber_toText finite ends
  obtain ⟨c, text, spelled, front⟩ := Double.toText_front finite
  rw [spelled, List.cons_append] at scanned ⊢
  refine tokens?_cons ?_ (scanToken_number front scanned) others
  rcases front with digit | rfl
  · exact isBlank_of_isDigit digit
  · rfl

theorem tokens?_bool (b : Bool) (others : tokens? rest = some after) :
    tokens? ((if b then "true".toList else "false".toList) ++ rest) = some (.bool b :: after) := by
  cases b with
  | true => exact @tokens?_cons 't' ['r', 'u', 'e'] rest (.bool true) after rfl rfl others
  | false => exact @tokens?_cons 'f' ['a', 'l', 's', 'e'] rest (.bool false) after rfl rfl others

mutual

/-- The text of a value has the tokens of the document it spells. -/
theorem tokens?_jsonChars (v : Value) {rest : List Char} {after : List Token} (ends : Ends rest)
    (others : tokens? rest = some after) :
    tokens? (v.jsonChars ++ rest) = some (v.written.tokens ++ after) := by
  match v with
  | .undefined | .null | .function _ => exact tokens?_null others
  | .bool b => exact tokens?_bool b others
  | .text s => exact tokens?_quoted s others
  | .number x =>
    rw [jsonChars, written]
    by_cases finite : x.isFinite = true
    · rw [if_pos finite, if_pos finite]
      exact tokens?_number finite ends others
    · rw [if_neg finite, if_neg finite]
      exact tokens?_null others
  | .object _ entries =>
    have close := tokens?_mark (c := '}') rfl rfl others
    have members := tokens?_jsonMembers true entries (ends_of_mark (.inr (.inr rfl)) rest) close
    simp only [jsonChars, written, tokens, List.cons_append, List.append_assoc, List.nil_append]
    exact tokens?_mark rfl rfl members
  | .array _ items =>
    have close := tokens?_mark (c := ']') rfl rfl others
    have inner := tokens?_jsonItems true items (ends_of_mark (.inr (.inl rfl)) rest) close
    simp only [jsonChars, written, tokens, List.cons_append, List.append_assoc, List.nil_append]
    exact tokens?_mark rfl rfl inner

private theorem tokens?_jsonItems (first : Bool) (items : List Value) {rest : List Char}
    {after : List Token} (ends : Ends rest) (others : tokens? rest = some after) :
    tokens? (jsonItems first items ++ rest) =
      some (itemTokens first (writtenItems items) ++ after) := by
  match items with
  | [] => exact others
  | item :: more =>
    have later := tokens?_jsonItems false more ends others
    have here := tokens?_jsonChars item (ends_jsonItems more ends) later
    simp only [jsonItems, writtenItems, itemTokens, List.append_assoc]
    cases first with
    | true => exact here
    | false => exact tokens?_mark rfl rfl here

private theorem tokens?_jsonMembers (first : Bool) (entries : List (String × Value))
    {rest : List Char}
    {after : List Token} (ends : Ends rest) (others : tokens? rest = some after) :
    tokens? (jsonMembers first entries ++ rest) =
      some (memberTokens first (writtenMembers entries) ++ after) := by
  match entries with
  | [] => exact others
  | (key, value) :: more =>
    rw [jsonMembers, writtenMembers]
    by_cases skipped : value.isSkipped = true
    · rw [if_pos skipped, if_pos skipped]
      exact tokens?_jsonMembers first more ends others
    · rw [if_neg skipped, if_neg skipped]
      have later := tokens?_jsonMembers false more ends others
      have here := tokens?_jsonChars value (ends_jsonMembers more ends) later
      have member := tokens?_quoted key (tokens?_mark (c := ':') rfl rfl here)
      simp only [memberTokens, List.append_assoc, List.cons_append]
      cases first with
      | true => exact member
      | false => exact tokens?_mark rfl rfl member

end

end Tokens

mutual

theorem depth_written (v : Value) : v.written.depth ≤ v.depth := by
  match v with
  | .undefined | .null | .function _ | .bool _ | .text _ => exact Nat.le_refl 0
  | .number x =>
    rw [written]
    split <;> exact Nat.le_refl 0
  | .object _ entries => exact Nat.succ_le_succ (memberDepth_written entries)
  | .array _ items => exact Nat.succ_le_succ (itemDepth_written items)

private theorem itemDepth_written (items : List Value) :
    Json.itemDepth (writtenItems items) ≤ itemDepth items := by
  match items with
  | [] => exact Nat.le_refl 0
  | item :: rest =>
    have here := depth_written item
    have later := itemDepth_written rest
    simp only [writtenItems, Json.itemDepth, itemDepth]
    omega

private theorem memberDepth_written (entries : List (String × Value)) :
    Json.memberDepth (writtenMembers entries) ≤ entryDepth entries := by
  match entries with
  | [] => exact Nat.le_refl 0
  | (key, value) :: rest =>
    have here := depth_written value
    have later := memberDepth_written rest
    rw [writtenMembers, entryDepth]
    split
    · omega
    · rw [Json.memberDepth]
      omega

end

private theorem normEntries_skipped {value : Value} (skipped : value.isSkipped = true)
    (key : String)
    (rest : List (String × Value)) : normEntries ((key, value) :: rest) = normEntries rest := by
  cases value <;> first | rfl | cases skipped

private theorem normEntries_kept {value : Value} (kept : value.isSkipped = false) (key : String)
    (rest : List (String × Value)) :
    normEntries ((key, value) :: rest) = (key, value.norm) :: normEntries rest := by
  cases value <;> first | rfl | cases kept

/-- Keys are dropped, never moved. -/
theorem keys_normEntries (entries : List (String × Value)) :
    (Entries.keys (normEntries entries)).Sublist (Entries.keys entries) := by
  induction entries with
  | nil => exact .slnil
  | cons entry rest ih =>
    obtain ⟨key, value⟩ := entry
    cases skipped : value.isSkipped with
    | true =>
      rw [normEntries_skipped skipped]
      exact ih.cons key
    | false =>
      rw [normEntries_kept skipped]
      exact ih.cons_cons key

mutual

/-- The document that a value is written as stands for what JSON keeps of it. -/
theorem toDatum_written (v : Value) (distinct : v.KeysDiffer) : v.written.toDatum = v.norm := by
  match v with
  | .undefined | .null | .function _ | .bool _ | .text _ => rfl
  | .number x =>
    rw [written, norm]
    by_cases finite : x.isFinite = true
    · rw [if_pos finite, if_pos finite, Json.toDatum, Double.decimal?_toText finite]
      rfl
    · rw [if_neg finite, if_neg finite]
      rfl
  | .object _ entries =>
    have order := (keys_normEntries entries).nodup distinct.1
    rw [written, norm, Json.toDatum, toEntries_written entries distinct.2,
      Entries.ofPairs_of_nodup order]
  | .array _ items => rw [written, norm, Json.toDatum, toData_written items distinct]

private theorem toEntries_written (entries : List (String × Value))
    (distinct : EntryKeysDiffer entries) :
    Json.toEntries (writtenMembers entries) = normEntries entries := by
  match entries with
  | [] => rfl
  | (key, value) :: rest =>
    have later := toEntries_written rest distinct.2
    rw [writtenMembers]
    cases skipped : value.isSkipped with
    | true => rw [if_pos rfl, normEntries_skipped skipped, later]
    | false =>
      rw [if_neg Bool.false_ne_true, normEntries_kept skipped, Json.toEntries,
        toDatum_written value distinct.1, later]

private theorem toData_written (items : List Value) (distinct : AllKeysDiffer items) :
    Json.toData (writtenItems items) = normItems items := by
  match items with
  | [] => rfl
  | item :: rest =>
    rw [writtenItems, Json.toData, normItems, toDatum_written item distinct.1,
      toData_written rest distinct.2]

end

/-- The JSON text of a value that is not too deep parses as the document it spells. -/
theorem parse?_jsonChars (v : Value) (shallow : v.depth ≤ Json.maxDepth) :
    Json.parse? v.jsonChars = some v.written := by
  refine Json.parse?_of_tokens (Nat.le_trans (depth_written v) shallow) ?_
  have tokens := @tokens?_jsonChars v [] [] Numeral.Spelling.ends_nil rfl
  rwa [List.append_nil, List.append_nil] at tokens

theorem decodeDocument_written (v : Value) (shallow : v.depth ≤ Json.maxDepth)
    (distinct : v.KeysDiffer) (yaml : Yaml.Reader := Yaml.parse?) :
    decodeDocument (Utf8.encode v.jsonChars) yaml = .ok v.norm := by
  rw [decodeDocument, Utf8.decodeLossy_encode, v.parse?_jsonChars shallow]
  exact congrArg Except.ok (v.toDatum_written distinct)

end Value

/-- Writing a value as JSON and decoding the octets gives what JSON keeps of the value, and so does
parsing what `JSON.stringify` returns for a value that is neither undefined nor a function. -/
theorem decodeDocument_jsonChars (v : Value) (shallow : v.depth ≤ 10000) (distinct : v.KeysDiffer) :
    decodeDocument (Utf8.encode v.jsonChars) = .ok v.norm ∧
      (v ≠ .undefined → (∀ callable, v ≠ .function callable) → ∀ origin later,
        Builtin.jsonStringify.call origin [v] = .ok (.text v.json) ∧
        Builtin.jsonParse.call later [.text v.json] =
          .ok (Value.ofDatum (Ref.ofOrigin later) v.norm)) := by
  have parsed := v.parse?_jsonChars shallow
  have datum := v.toDatum_written distinct
  constructor
  · rw [decodeDocument, Utf8.decodeLossy_encode, parsed]
    exact congrArg Except.ok datum
  · intro defined uncallable origin later
    have kept : v.isSkipped = false := by
      cases v with
      | undefined => exact absurd rfl defined
      | function callable => exact absurd rfl (uncallable callable)
      | _ => rfl
    have spelled : v.json.toList = v.jsonChars := String.toList_ofList
    constructor
    · exact Builtin.call_jsonStringify (Nat.le_succ_of_le shallow) kept origin
    · simp [Builtin.call, argument, Value.toText, spelled, parsed, datum]

/-- A value of which JSON drops a member, replaces two items and changes a sign. -/
def lossyValue : Value :=
  .object (Ref.ofOrigin 1) [("b", .number (.zero true)), ("a", .undefined),
    ("<", .array (Ref.ofOrigin 2) [.undefined, .number .nan, .text "\n\"&"])]

theorem decodeDocument_jsonChars_lossy :
    lossyValue.depth ≤ 10000 ∧ lossyValue.KeysDiffer ∧
      decodeDocument (Utf8.encode lossyValue.jsonChars) =
        .ok (.record [("b", .number (.zero false)), ("<", .list [.null, .null, .text "\n\"&"])]) ∧
      Builtin.jsonParse.call 3 [.text lossyValue.json] =
        .ok (Value.ofDatum (Ref.ofOrigin 3) lossyValue.norm) := by
  have shallow : lossyValue.depth ≤ 10000 := by decide
  have distinct : lossyValue.KeysDiffer := by
    simp [lossyValue, Value.KeysDiffer, Value.EntryKeysDiffer, Value.AllKeysDiffer, Entries.keys]
  have both := decodeDocument_jsonChars lossyValue shallow distinct
  have defined : lossyValue ≠ .undefined := by simp [lossyValue]
  have uncallable : ∀ callable, lossyValue ≠ .function callable := by simp [lossyValue]
  exact ⟨shallow, distinct, both.1, (both.2 defined uncallable 2 3).2⟩

end ExprTree
