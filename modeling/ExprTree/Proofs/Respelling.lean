import ExprTree.Plain
import ExprTree.Proofs.Decode
import ExprTree.Wire
import Mathlib.Data.List.Forall2

/-!
Different spellings of one tree. Values that differ, at any depth, in the order of entries, in the
identity of containers and in entries of node objects that their shape does not read are decoded
alike: to the same tree, or to the same fault at the same place. So it does not matter whether a
value is decoded as it is, as host data or as a message of the binary protocol.
-/
namespace ExprTree

namespace Value

/-- What is seen of a value that is read neither as a node nor as a list: all of a scalar, and of a
container only that it is one. -/
def outline : Value → Value
  | object .. => object (Ref.ofOrigin 0) []
  | array .. => array (Ref.ofOrigin 0) []
  | other => other

private theorem isNullish_outline (v : Value) : v.outline.isNullish = v.isNullish := by
  cases v <;> rfl

private theorem truthy_outline (v : Value) : v.outline.truthy = v.truthy := by
  cases v <;> rfl

private theorem eq_text_of_outline {v : Value} {s : String} (same : v.outline = text s) :
    v = text s := by
  cases v <;> first | exact same | cases same

end Value

namespace Node

/-- The entries that the shape with a tag reads, besides the tag. -/
def fieldsOf : String → List String
  | "Literal" => ["value"]
  | "Identifier" => ["name"]
  | "MemberExpression" => ["object", "property", "computed"]
  | "BinaryExpression" => ["operator", "left", "right"]
  | "UnaryExpression" => ["operator", "argument"]
  | "CallExpression" => ["callee", "arguments"]
  | "FunctionDeclaration" => ["id", "params", "body"]
  | "BlockStatement" => ["body"]
  | "ReturnStatement" => ["argument"]
  | "ExpressionStatement" => ["expression"]
  | "ArrowFunctionExpression" => ["params", "body"]
  | "SequenceExpression" => ["expressions"]
  | _ => []

namespace Fields

/-- What is seen of an entry. -/
def seen (fields : Fields) (name : String) : Option Reading :=
  (Entries.get? fields name).map fun reading => { reading with value := reading.value.outline }

private theorem text_eq_seen (fields : Fields) (place : Place) (name : String) :
    fields.text place name =
      match fields.seen name with
      | some { value := .text s, .. } => .ok s
      | _ => .error (.notText (.key name :: place)) := by
  unfold text seen
  cases Entries.get? fields name with
  | none => rfl
  | some reading =>
    obtain ⟨value, asNode, asList⟩ := reading
    cases value <;> rfl

private theorem node?_eq_seen (fields : Fields) (name : String) :
    fields.node? name =
      match fields.seen name with
      | some reading => if reading.value.isNullish then .ok none else reading.asNode.map some
      | none => .ok none := by
  unfold node? seen
  cases Entries.get? fields name with
  | none => rfl
  | some reading => simp only [Option.map_some, Value.isNullish_outline]

private theorem list_eq_seen (fields : Fields) (name : String) :
    fields.list name =
      match fields.seen name with
      | some reading => reading.asList
      | none => .ok [] := by
  unfold list seen
  cases Entries.get? fields name <;> rfl

private theorem constant_eq_seen (fields : Fields) (place : Place) :
    fields.constant place =
      match ((fields.seen "value").map Reading.value).getD .undefined with
      | .undefined => .ok .null
      | .null => .ok .null
      | .bool b => .ok (.bool b)
      | .number x => .ok (.number x)
      | .text s => .ok (.text s)
      | other => .error (.literalKind (.key "value" :: place) other.kind) := by
  unfold Fields.constant seen
  cases Entries.get? fields "value" with
  | none => rfl
  | some reading =>
    obtain ⟨value, asNode, asList⟩ := reading
    cases value <;> rfl

private theorem flag_eq_seen (fields : Fields) (name : String) :
    fields.flag name = (((fields.seen name).map Reading.value).getD .undefined).truthy := by
  unfold flag seen
  cases Entries.get? fields name with
  | none => rfl
  | some reading => exact (Value.truthy_outline reading.value).symm

/-- Fields in which the same is seen under some names. -/
def Agree (names : List String) (first second : Fields) : Prop :=
  ∀ name ∈ names, first.seen name = second.seen name

section Agreement

variable {names : List String} {first second : Fields} (agree : Agree names first second)
  {name : String}
include agree

theorem Agree.text (member : name ∈ names) (place : Place) :
    first.text place name = second.text place name := by
  rw [text_eq_seen, text_eq_seen, agree name member]

theorem Agree.node? (member : name ∈ names) : first.node? name = second.node? name := by
  rw [node?_eq_seen, node?_eq_seen, agree name member]

theorem Agree.node (member : name ∈ names) (place : Place) :
    first.node place name = second.node place name := by
  unfold Fields.node
  rw [agree.node? member]

theorem Agree.list (member : name ∈ names) : first.list name = second.list name := by
  rw [list_eq_seen, list_eq_seen, agree name member]

theorem Agree.constant (member : "value" ∈ names) (place : Place) :
    first.constant place = second.constant place := by
  rw [constant_eq_seen, constant_eq_seen, agree "value" member]

theorem Agree.flag (member : name ∈ names) : first.flag name = second.flag name := by
  rw [flag_eq_seen, flag_eq_seen, agree name member]

theorem Agree.params (member : "params" ∈ names) (place : Place) :
    first.params place = second.params place := by
  unfold Fields.params
  rw [agree.list member]

theorem Agree.declaredName (member : "id" ∈ names) (place : Place) :
    first.declaredName place = second.declaredName place := by
  unfold Fields.declaredName
  rw [agree.node? member]

theorem Agree.declaredBody (member : "body" ∈ names) (place : Place) :
    first.declaredBody place = second.declaredBody place := by
  unfold Fields.declaredBody
  rw [agree.node member]

end Agreement

/-- A shape looks at no other entries than those listed for it. -/
theorem Agree.shape {tag : String} {first second : Fields}
    (agree : Agree (fieldsOf tag) first second) (place : Place) :
    first.shape place tag = second.shape place tag := by
  unfold Fields.shape
  split <;> simp (disch := simp [fieldsOf]) only [agree.text, agree.node?, agree.node, agree.list,
    agree.constant, agree.flag, agree.params, agree.declaredName, agree.declaredBody]

end Fields

/-- Values that are read alike, whether as a scalar, as a node or as a list. -/
structure ReadAlike (first second : Value) : Prop where
  outline : first.outline = second.outline
  node : ∀ place, decodeAt place first = decodeAt place second
  list : ∀ place, decodeList place first = decodeList place second

namespace ReadAlike

theorem refl (v : Value) : ReadAlike v v :=
  ⟨rfl, fun _ => rfl, fun _ => rfl⟩

theorem symm {first second : Value} (alike : ReadAlike first second) : ReadAlike second first :=
  ⟨alike.outline.symm, fun place => (alike.node place).symm, fun place => (alike.list place).symm⟩

theorem trans {first second third : Value} (one : ReadAlike first second)
    (two : ReadAlike second third) : ReadAlike first third :=
  ⟨one.outline.trans two.outline, fun place => (one.node place).trans (two.node place),
    fun place => (one.list place).trans (two.list place)⟩

end ReadAlike

/-- Both absent, or both there and read alike. -/
def EntryAlike (first second : Option Value) : Prop :=
  Option.Rel ReadAlike first second

private theorem EntryAlike.of_eq {first second : Option Value} (same : first = second) :
    EntryAlike first second := by
  subst same
  cases first with
  | none => exact .none
  | some v => exact .some (.refl v)

theorem EntryAlike.seen {entries others : List (String × Value)} {name : String}
    (alike : EntryAlike (Entries.get? entries name) (Entries.get? others name)) (place : Place) :
    Fields.seen (readFields place entries) name = Fields.seen (readFields place others) name := by
  unfold Fields.seen
  rw [get?_readFields, get?_readFields]
  generalize Entries.get? entries name = one at alike
  generalize Entries.get? others name = two at alike
  cases alike with
  | none => rfl
  | some alike => simp only [Option.map_some, alike.outline, alike.node, alike.list]

/-- Objects are read alike when their tags are, and all that the tag's shape reads. -/
theorem readAlike_object {ref other : Ref} {entries others : List (String × Value)}
    (typed : EntryAlike (Entries.get? entries "type") (Entries.get? others "type"))
    (fields : ∀ tag, Entries.get? entries "type" = some (.text tag) → ∀ name ∈ fieldsOf tag,
      EntryAlike (Entries.get? entries name) (Entries.get? others name)) :
    ReadAlike (.object ref entries) (.object other others) := by
  refine ⟨rfl, fun place => ?_, fun place => rfl⟩
  rw [decodeAt, decodeAt]
  generalize Entries.get? entries "type" = one at typed fields
  generalize Entries.get? others "type" = two at typed
  cases typed with
  | none => rfl
  | @some v w alike =>
    cases v with
    | text tag =>
      obtain rfl := Value.eq_text_of_outline alike.outline.symm
      exact Fields.Agree.shape (fun name member => (fields tag rfl name member).seen place) place
    -- Any other tag is one fault for both, as an outline tells texts from all else.
    | _ => cases w <;> first | rfl | cases alike.outline

end Node

open Node

/-- One tree spelled twice: the least equivalence that allows, at any depth, another order of the
entries of an object, other identities, and further entries of a node object under keys that its
shape does not read. -/
inductive Value.Respelled : Value → Value → Prop where
  | refl (v : Value) : Respelled v v
  | symm {first second : Value} (same : Respelled first second) : Respelled second first
  | trans {first second third : Value} (one : Respelled first second)
      (two : Respelled second third) : Respelled first third
  | order {ref other : Ref} {entries arranged : List (String × Value)}
      (distinct : (Entries.keys entries).Nodup) (order : entries.Perm arranged) :
      Respelled (.object ref entries) (.object other arranged)
  | unread {ref : Ref} {entries : List (String × Value)} {tag key : String} {value : Value}
      (typed : Entries.get? entries "type" = some (.text tag)) (unread : key ∉ fieldsOf tag)
      (further : key ≠ "type") :
      Respelled (.object ref entries) (.object ref ((key, value) :: entries))
  | entry {ref : Ref} {front back : List (String × Value)} {key : String} {first second : Value}
      (inner : Respelled first second) :
      Respelled (.object ref (front ++ (key, first) :: back))
        (.object ref (front ++ (key, second) :: back))
  | item {ref : Ref} {front back : List Value} {first second : Value}
      (inner : Respelled first second) :
      Respelled (.array ref (front ++ first :: back)) (.array ref (front ++ second :: back))
  | identity {ref other : Ref} {items : List Value} :
      Respelled (.array ref items) (.array other items)

namespace Node

private theorem entryAlike_replaced {first second : Value} (alike : ReadAlike first second)
    (front back : List (String × Value)) (key name : String) :
    EntryAlike (Entries.get? (front ++ (key, first) :: back) name)
      (Entries.get? (front ++ (key, second) :: back) name) := by
  induction front with
  | nil =>
    rw [List.nil_append, List.nil_append, Entries.get?_cons, Entries.get?_cons]
    split
    · exact .some alike
    · exact .of_eq rfl
  | cons entry rest ih =>
    obtain ⟨k, v⟩ := entry
    rw [List.cons_append, List.cons_append, Entries.get?_cons, Entries.get?_cons]
    split
    · exact .of_eq rfl
    · exact ih

private theorem entryAlike_added {key name : String} (different : key ≠ name) (value : Value)
    (entries : List (String × Value)) :
    EntryAlike (Entries.get? entries name) (Entries.get? ((key, value) :: entries) name) := by
  rw [Entries.get?_cons, if_neg different]
  exact .of_eq rfl

private theorem decodeItems_replaced {first second : Value} (alike : ReadAlike first second)
    (front back : List Value) (place : Place) (i : Nat) :
    decodeItems place i (front ++ first :: back) =
      decodeItems place i (front ++ second :: back) := by
  induction front generalizing i with
  | nil => rw [List.nil_append, List.nil_append, decodeItems, decodeItems, alike.node]
  | cons item rest ih => rw [List.cons_append, List.cons_append, decodeItems, decodeItems, ih]

private theorem readAlike_of_respelled {first second : Value} (same : first.Respelled second) :
    ReadAlike first second := by
  induction same with
  | refl v => exact .refl v
  | symm _ ih => exact ih.symm
  | trans _ _ one two => exact one.trans two
  | order distinct order =>
    have distinctOther := (order.map Prod.fst).nodup_iff.mp distinct
    have found : ∀ name, EntryAlike _ _ := fun name =>
      .of_eq (Entries.get?_of_perm order distinctOther name)
    exact readAlike_object (found "type") fun _ _ name _ => found name
  | @unread _ entries tag key value typed unread further =>
    refine readAlike_object (entryAlike_added further value entries) ?_
    intro other spelled name member
    obtain rfl : tag = other := Value.text.inj (Option.some.inj (typed.symm.trans spelled))
    have different : key ≠ name := by
      rintro rfl
      exact unread member
    exact entryAlike_added different value entries
  | entry _ alike =>
    exact readAlike_object (entryAlike_replaced alike _ _ _ _)
      fun _ _ name _ => entryAlike_replaced alike _ _ _ name
  | item _ alike =>
    exact ⟨rfl, fun _ => rfl, fun place => decodeItems_replaced alike _ _ place 0⟩
  | identity => exact ⟨rfl, fun _ => rfl, fun _ => rfl⟩

private theorem decode_of_respelled {first second : Value} (same : first.Respelled second) :
    decode first = decode second :=
  (readAlike_of_respelled same).node []

end Node

namespace Value

/-- Entries under the same key whose values spell the same. -/
def RespelledEntry (first second : String × Value) : Prop :=
  first.1 = second.1 ∧ first.2.Respelled second.2

theorem Respelled.entries {ref : Ref} (front : List (String × Value))
    {entries others : List (String × Value)}
    (each : List.Forall₂ RespelledEntry entries others) :
    Respelled (object ref (front ++ entries)) (object ref (front ++ others)) := by
  -- One entry at a time: those already respelled move to the front.
  induction each generalizing front with
  | nil => exact .refl _
  | @cons first second _ _ head _ ih =>
    obtain ⟨key, value⟩ := first
    obtain ⟨_, other⟩ := second
    obtain ⟨rfl, inner⟩ := head
    have later := ih (front ++ [(key, other)])
    rw [List.append_assoc, List.append_assoc] at later
    exact .trans (.entry inner) later

theorem Respelled.items {ref : Ref} (front : List Value) {items others : List Value}
    (each : List.Forall₂ Respelled items others) :
    Respelled (array ref (front ++ items)) (array ref (front ++ others)) := by
  induction each generalizing front with
  | nil => exact .refl _
  | @cons first second _ _ head _ ih =>
    have later := ih (front ++ [second])
    rw [List.append_assoc, List.append_assoc] at later
    exact .trans (.item head) later

private theorem keys_of_respelledEntries {entries others : List (String × Value)}
    (each : List.Forall₂ RespelledEntry entries others) :
    Entries.keys others = Entries.keys entries := by
  induction each with
  | nil => rfl
  | cons head _ ih =>
    rw [Entries.keys, Entries.keys, List.map_cons, List.map_cons, head.1]
    exact congrArg _ ih

/-- An object spells the same with its entries respelled, then sorted. -/
theorem Respelled.sortedObject {ref other : Ref} {entries others : List (String × Value)}
    (distinct : (Entries.keys entries).Nodup)
    (each : List.Forall₂ RespelledEntry entries others) :
    Respelled (object ref entries) (object other (Entries.sorted others)) := by
  have distinctOthers : (Entries.keys others).Nodup := by
    rw [keys_of_respelledEntries each]
    exact distinct
  exact .trans (.entries [] each) (.order distinctOthers (Entries.sorted_perm others).symm)

private theorem Respelled.movedArray {ref other : Ref} {items others : List Value}
    (each : List.Forall₂ Respelled items others) :
    Respelled (array ref items) (array other others) :=
  .trans (.items [] each) .identity

section Sorting

variable {known : Ref → Prop} {move : Ref → Ref}

mutual

private theorem respelled_sorted (v : Value) (data : v.IsData known) :
    Respelled v (v.sorted move) := by
  match v with
  | object ref entries => exact .sortedObject data.2.1 (respelled_sortedEntries entries data.2.2)
  | array ref items => exact .movedArray (respelled_sortedItems items data.2)
  | undefined | null | bool _ | number _ | text _ => exact .refl _

private theorem respelled_sortedEntries (entries : List (String × Value))
    (data : AreDataEntries known entries) :
    List.Forall₂ RespelledEntry entries (sortedEntries move entries) := by
  match entries with
  | [] => exact .nil
  | (key, value) :: rest =>
    exact .cons ⟨rfl, respelled_sorted value data.1⟩ (respelled_sortedEntries rest data.2)

private theorem respelled_sortedItems (items : List Value) (data : AreData known items) :
    List.Forall₂ Respelled items (sortedItems move items) := by
  match items with
  | [] => exact .nil
  | item :: rest => exact .cons (respelled_sorted item data.1) (respelled_sortedItems rest data.2)

end

end Sorting

mutual

/-- Data as documents hold them: nothing undefined, no functions, and no object with a key twice. -/
def IsDocument : Value → Prop
  | undefined => False
  | function _ => False
  | object _ entries => (Entries.keys entries).Nodup ∧ AreDocumentEntries entries
  | array _ items => AreDocuments items
  | _ => True

def AreDocumentEntries : List (String × Value) → Prop
  | [] => True
  | (_, value) :: rest => value.IsDocument ∧ AreDocumentEntries rest

def AreDocuments : List Value → Prop
  | [] => True
  | value :: rest => value.IsDocument ∧ AreDocuments rest

end

mutual

private theorem respelled_ofWire (v : Value) (document : v.IsDocument) (other : Ref) :
    Respelled v (ofWire other v.toWire) := by
  match v with
  | object ref entries =>
    exact .sortedObject document.1 (respelled_ofWireFields entries document.2 other)
  | array ref items => exact .movedArray (respelled_ofWireItems items document other 0)
  | null | bool _ | number _ | text _ => exact .refl _

private theorem respelled_ofWireFields (entries : List (String × Value))
    (documents : AreDocumentEntries entries) (other : Ref) :
    List.Forall₂ RespelledEntry entries (ofWireFields other (toWireFields entries)) := by
  match entries with
  | [] => exact .nil
  | (key, value) :: rest =>
    exact .cons ⟨rfl, respelled_ofWire value documents.1 _⟩
      (respelled_ofWireFields rest documents.2 other)

private theorem respelled_ofWireItems (items : List Value) (documents : AreDocuments items)
    (other : Ref)
    (place : Nat) : List.Forall₂ Respelled items (ofWireItems other place (toWireItems items)) := by
  match items with
  | [] => exact .nil
  | item :: rest =>
    exact .cons (respelled_ofWire item documents.1 _)
      (respelled_ofWireItems rest documents.2 other (place + 1))

end

mutual

/-- A value comes back from the host's form as it does from the protocol's. -/
theorem ofPlain_toPlain (v : Value) (ref : Ref) : ofPlain ref v.toPlain = ofWire ref v.toWire := by
  match v with
  | object _ entries =>
    simp only [toPlain, toWire, ofPlain, ofWire, ofPlainEntries_toPlainEntries entries ref]
  | array _ items =>
    simp only [toPlain, toWire, ofPlain, ofWire, ofPlainItems_toPlainItems items ref 0]
  | undefined | null | bool _ | number _ | text _ | function _ => rfl

private theorem ofPlainEntries_toPlainEntries (entries : List (String × Value)) (ref : Ref) :
    ofPlainEntries ref (toPlainEntries entries) = ofWireFields ref (toWireFields entries) := by
  match entries with
  | [] => rfl
  | (key, value) :: rest =>
    rw [toPlainEntries, toWireFields, ofPlainEntries, ofWireFields, ofPlain_toPlain value,
      ofPlainEntries_toPlainEntries rest]

private theorem ofPlainItems_toPlainItems (items : List Value) (ref : Ref) (place : Nat) :
    ofPlainItems ref place (toPlainItems items) = ofWireItems ref place (toWireItems items) := by
  match items with
  | [] => rfl
  | item :: rest =>
    rw [toPlainItems, toWireItems, ofPlainItems, ofWireItems, ofPlain_toPlain item,
      ofPlainItems_toPlainItems rest]

end

end Value

namespace Node

/-- Neither the order of keys nor the identity of containers changes what a value decodes to. -/
theorem decode_sorted {known : Ref → Prop} {move : Ref → Ref} {value : Value}
    (data : value.IsData known) : decode (value.sorted move) = decode value :=
  (decode_of_respelled (Value.respelled_sorted value data)).symm

/-- Two spellings of a tree decode alike, and so do the three ways by which a document can come: as
it is, as host data and as a message of the binary protocol. -/
theorem decode_respelled :
    (∀ first second, Value.Respelled first second → decode first = decode second) ∧
      ∀ v other, v.IsDocument →
        decode (Value.ofPlain other v.toPlain) = decode v ∧
          decode (Value.ofWire other v.toWire) = decode v := by
  refine ⟨fun first second same => decode_of_respelled same, fun v other document => ?_⟩
  have message : decode (Value.ofWire other v.toWire) = decode v :=
    (decode_of_respelled (Value.respelled_ofWire v document other)).symm
  rw [Value.ofPlain_toPlain]
  exact ⟨message, message⟩

/-- The negation of `x`, spelled with its name as it is given. -/
def negated (name : Value) : Value :=
  .object (Ref.ofOrigin 1)
    [("type", .text "UnaryExpression"), ("operator", .text "-"), ("argument", name)]

theorem decode_respelled_annotated :
    let name := Value.object (Ref.ofOrigin 2) [("type", .text "Identifier"), ("name", .text "x")]
    let annotated := Value.object (Ref.ofOrigin 3)
      [("start", .number 1), ("name", .text "x"), ("type", .text "Identifier")]
    Value.Respelled (negated name) (negated annotated) ∧
      decode (negated name) = decode (negated annotated) ∧
      (negated annotated).IsDocument ∧
      decode (Value.ofPlain (Ref.ofOrigin 4) (negated annotated).toPlain) =
        decode (negated annotated) ∧
      decode (Value.ofWire (Ref.ofOrigin 4) (negated annotated).toWire) =
        decode (negated annotated) := by
  intro name annotated
  have inner : Value.Respelled name annotated :=
    .trans (.order (by simp [Entries.keys]) (.swap ..))
      (.unread rfl (by simp [fieldsOf]) (by simp))
  have same : Value.Respelled (negated name) (negated annotated) :=
    @Value.Respelled.entry _ [("type", .text "UnaryExpression"), ("operator", .text "-")] []
      "argument" _ _ inner
  have document : (negated annotated).IsDocument := by
    simp [negated, annotated, Value.IsDocument, Value.AreDocumentEntries, Entries.keys]
  obtain ⟨spellings, ways⟩ := decode_respelled
  exact ⟨same, spellings _ _ same, document, ways _ _ document⟩

end Node

end ExprTree
