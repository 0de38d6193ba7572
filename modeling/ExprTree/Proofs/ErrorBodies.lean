import ExprTree.Http
import ExprTree.Proofs.RoundTrip

/-! The error objects that the HTTP surface answers with, as their readers see them: decoding the
body gives back the message. -/
namespace ExprTree

/-- The entry of a record under a name. -/
def Datum.field? : Datum → String → Option Datum
  | .record entries, name => Entries.get? entries name
  | _, _ => none

def Datum.text? : Datum → Option String
  | .text s => some s
  | _ => none

namespace Http

/-- The message in the error object of a body. -/
def errorMessage? (body : List UInt8) : Option String := do
  let document ← (decodeDocument body).toOption
  let error ← document.field? "error"
  let message ← error.field? "message"
  message.text?

/-- A member as it stands in an object. -/
def memberChars (member : String × Value) : List Char :=
  Text.quoted member.1 ++ ':' :: member.2.jsonChars

private theorem intercalate_memberChars (member : String × Value) {members : List (String × Value)}
    (kept : ∀ other ∈ members, other.2.isSkipped = false) :
    [','].intercalate ((member :: members).map memberChars) =
      memberChars member ++ Value.jsonMembers false members := by
  induction members generalizing member with
  | nil => simp [List.intercalate, Value.jsonMembers]
  | cons next rest ih =>
    obtain ⟨key, value⟩ := next
    have here : value.isSkipped = false := kept _ List.mem_cons_self
    have later := ih (key, value) fun other among => kept other (List.mem_cons_of_mem _ among)
    rw [Value.jsonMembers, here, List.map_cons, List.map_cons, List.intercalate_cons_cons,
      ← List.map_cons, later]
    simp [memberChars]

/-- An object of members that are all written is the JSON text of a value. -/
theorem jsonObject_eq_jsonChars (ref : Ref) {members : List (String × Value)}
    (kept : ∀ member ∈ members, member.2.isSkipped = false) :
    jsonObject (members.map fun member => (member.1, member.2.jsonChars)) =
      (Value.object ref members).jsonChars := by
  have inside : [','].intercalate (members.map memberChars) = Value.jsonMembers true members := by
    cases members with
    | nil => rfl
    | cons member rest =>
      have here : member.2.isSkipped = false := kept _ List.mem_cons_self
      rw [intercalate_memberChars member fun other among => kept other (.tail _ among),
        Value.jsonMembers, here]
      rfl
  rw [jsonObject, List.map_map, Value.jsonChars, ← inside]
  rfl

/-- The error object of a fault, as a value. -/
def errorValue (members : Entries Value) : Value :=
  .object (Ref.ofOrigin 0) [("error", .object (Ref.ofOrigin 0) members)]

private theorem jsonObject_error {members : Entries Value}
    (kept : ∀ member ∈ members, member.2.isSkipped = false) :
    jsonObject [("error", jsonObject (members.map fun member => (member.1, member.2.jsonChars)))] =
      (errorValue members).jsonChars := by
  rw [jsonObject_eq_jsonChars (Ref.ofOrigin 0) kept]
  exact @jsonObject_eq_jsonChars (Ref.ofOrigin 0) [("error", .object (Ref.ofOrigin 0) members)]
    (by simp [Value.isSkipped])

/-- The message is found in the error object that it was written into. -/
theorem errorMessage?_jsonObject {members : Entries Value} {message : String}
    (kept : ∀ member ∈ members, member.2.isSkipped = false)
    (shallow : (errorValue members).depth ≤ 10000) (distinct : (errorValue members).KeysDiffer)
    (found : Entries.get? (Value.normEntries members) "message" = some (.text message)) :
    errorMessage? (Utf8.encode (jsonObject
      [("error", jsonObject (members.map fun member => (member.1, member.2.jsonChars)))])) =
        some message := by
  have document : decodeDocument (Utf8.encode (errorValue members).jsonChars) =
      .ok (.record [("error", .record (Value.normEntries members))]) :=
    Value.decodeDocument_written _ shallow distinct
  rw [jsonObject_error kept, errorMessage?, document]
  change (Entries.get? (Value.normEntries members) "message").bind Datum.text? = some message
  rw [found]
  rfl

private theorem jsonChars_code {code : Nat} (status : code = 400 ∨ code = 422) :
    (Value.number (Double.ofNat code)).jsonChars = (toString code).toList := by
  rcases status with rfl | rfl <;> decide +kernel

theorem errorMessage?_badRequest (message : String) :
    errorMessage? (Answer.badRequest message).body = some message := by
  have found := @errorMessage?_jsonObject [("code", .number (Double.ofNat 400)),
    ("message", .text message), ("status", .text "INVALID_ARGUMENT")] message
    (by simp [Value.isSkipped]) (show 2 ≤ 10000 by decide)
    (by simp [errorValue, Value.KeysDiffer, Value.EntryKeysDiffer, Entries.keys]) rfl
  simp only [List.map_cons, List.map_nil, jsonChars_code (.inl rfl)] at found
  exact found

theorem errorMessage?_failed (kindName message : String) :
    errorMessage? (Answer.failed kindName message).body = some message := by
  have found := @errorMessage?_jsonObject [("code", .number (Double.ofNat 422)),
    ("kind", .text kindName), ("message", .text message),
    ("status", .text "FAILED_PRECONDITION")] message
    (by simp [Value.isSkipped]) (show 2 ≤ 10000 by decide)
    (by simp [errorValue, Value.KeysDiffer, Value.EntryKeysDiffer, Entries.keys]) rfl
  simp only [List.map_cons, List.map_nil, jsonChars_code (.inr rfl)] at found
  exact found

end Http

end ExprTree
