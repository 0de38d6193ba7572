import ExprTree.Proofs.Decode

/-!
The object that spells a tree. Main statement: the decoder returns only well-formed trees, and it
reads every one of them back from the object that spells it.
-/
namespace ExprTree.Node

/-- A node object: its tag, then the fields of its shape. -/
def tagged (ref : Ref) (tag : String) (fields : List (String × Value)) : Value :=
  .object ref (("type", .text tag) :: fields)

def nameValue (ref : Ref) (name : String) : Value :=
  tagged ref "Identifier" [("name", .text name)]

/-- Parameters as identifiers; where one is missing stands null. -/
def paramValues (ref : Ref) (place : Nat) : List (Option String) → List Value
  | [] => []
  | none :: rest => .null :: paramValues ref (place + 1) rest
  | some name :: rest =>
    nameValue (ref.child (.index place)) name :: paramValues ref (place + 1) rest

def listField (ref : Ref) (name : String) (items : Ref → List Value) : String × Value :=
  (name, .array (ref.child (.key name)) (items (ref.child (.key name))))

/-- A field without content is left out or null, whichever is chosen for its place. -/
def absentField (omitted : Ref → Bool) (ref : Ref) (name : String) : List (String × Value) :=
  if omitted (ref.child (.key name)) then [] else [(name, .null)]

def declaredField (omitted : Ref → Bool) (ref : Ref) : Option String → List (String × Value)
  | none => absentField omitted ref "id"
  | some name => [("id", nameValue (ref.child (.key "id")) name)]

mutual

/-- The object that spells a tree. `omitted` says where an absent name or argument is left out
instead of being null. -/
def toValue (omitted : Ref → Bool) (ref : Ref) : Node → Value
  | hole => .null
  | literal value => tagged ref "Literal" [("value", value)]
  | identifier name => nameValue ref name
  | member object property computed =>
    tagged ref "MemberExpression"
      [("object", object.toValue omitted (ref.child (.key "object"))),
        ("property", property.toValue omitted (ref.child (.key "property"))),
        ("computed", .bool computed)]
  | binary operator left right =>
    tagged ref "BinaryExpression"
      [("operator", .text operator), ("left", left.toValue omitted (ref.child (.key "left"))),
        ("right", right.toValue omitted (ref.child (.key "right")))]
  | unary operator argument leading =>
    tagged ref "UnaryExpression"
      [("operator", .text operator), ("prefix", .bool leading),
        ("argument", argument.toValue omitted (ref.child (.key "argument")))]
  | call callee arguments =>
    tagged ref "CallExpression"
      [("callee", callee.toValue omitted (ref.child (.key "callee"))),
        listField ref "arguments" fun list => toItems omitted list 0 arguments]
  | function name params none =>
    tagged ref "FunctionDeclaration"
      ((listField ref "params" fun list => paramValues list 0 params) ::
        declaredField omitted ref name)
  | function name params (some body) =>
    tagged ref "FunctionDeclaration"
      ((listField ref "params" fun list => paramValues list 0 params) ::
        ("body", tagged (ref.child (.key "body")) "BlockStatement"
          [listField (ref.child (.key "body")) "body" fun list => toItems omitted list 0 body]) ::
        declaredField omitted ref name)
  | block body =>
    tagged ref "BlockStatement" [listField ref "body" fun list => toItems omitted list 0 body]
  | returns hole => tagged ref "ReturnStatement" (absentField omitted ref "argument")
  | returns argument =>
    tagged ref "ReturnStatement"
      [("argument", argument.toValue omitted (ref.child (.key "argument")))]
  | statement expression =>
    tagged ref "ExpressionStatement"
      [("expression", expression.toValue omitted (ref.child (.key "expression")))]
  | arrow params body =>
    tagged ref "ArrowFunctionExpression"
      [listField ref "params" fun list => paramValues list 0 params,
        ("body", body.toValue omitted (ref.child (.key "body")))]
  | sequence expressions =>
    tagged ref "SequenceExpression"
      [listField ref "expressions" fun list => toItems omitted list 0 expressions]
  | unknown tag => tagged ref tag []

def toItems (omitted : Ref → Bool) (ref : Ref) (place : Nat) : List Node → List Value
  | [] => []
  | node :: rest =>
    node.toValue omitted (ref.child (.index place)) :: toItems omitted ref (place + 1) rest

end

namespace Fields

variable {entries : List (String × Value)} {name : String} (place : Place)

private theorem text_of_get? {s : String} (found : Entries.get? entries name = some (.text s)) :
    (readFields place entries).text place name = .ok s := by
  unfold text
  rw [get?_readFields, found]
  rfl

private theorem flag_of_get? {b : Bool} (found : Entries.get? entries name = some (.bool b)) :
    (readFields place entries).flag name = b := by
  unfold flag
  rw [get?_readFields, found]
  rfl

private theorem constant_of_get? {value : Value} (found : Entries.get? entries "value" = some value)
    (constant : value.IsConstant) : (readFields place entries).constant place = .ok value := by
  unfold Fields.constant
  rw [get?_readFields, found]
  cases value <;> first | rfl | cases constant

private theorem node?_of_get? {value : Value} {node : Node}
    (found : Entries.get? entries name = some value)
    (decoded : decodeAt (.key name :: place) value = .ok node) :
    (readFields place entries).node? name = .ok (some node) := by
  unfold node?
  rw [get?_readFields, found]
  cases value with
  | object ref fields =>
    simp only [Option.map_some, decoded]
    rfl
  | _ => cases decoded

private theorem node_of_get? {value : Value} {node : Node}
    (found : Entries.get? entries name = some value)
    (decoded : decodeAt (.key name :: place) value = .ok node) :
    (readFields place entries).node place name = .ok node := by
  unfold Fields.node
  rw [node?_of_get? place found decoded]
  rfl

private theorem node?_of_absent
    (absent : ∀ value, Entries.get? entries name = some value → value = .null) :
    (readFields place entries).node? name = .ok none := by
  unfold node?
  rw [get?_readFields]
  cases found : Entries.get? entries name with
  | none => rfl
  | some value =>
    obtain rfl := absent value found
    rfl

private theorem list_of_get? {ref : Ref} {items : List Value} {nodes : List Node}
    (found : Entries.get? entries name = some (.array ref items))
    (decoded : decodeItems (.key name :: place) 0 items = .ok nodes) :
    (readFields place entries).list name = .ok nodes := by
  unfold list
  rw [get?_readFields, found]
  exact decoded

end Fields

private theorem decodeAt_tagged (place : Place) (ref : Ref) (tag : String)
    (fields : List (String × Value)) :
    decodeAt place (tagged ref tag fields) =
      Fields.shape (readFields place (("type", .text tag) :: fields)) place tag := by
  rw [tagged, decodeAt, Entries.get?_cons, if_pos rfl]

private theorem decodeAt_nameValue (place : Place) (ref : Ref) (name : String) :
    decodeAt place (nameValue ref name) = .ok (identifier name) := by
  rw [nameValue, decodeAt_tagged, Fields.shape, Fields.text_of_get? place rfl]
  rfl

/-- The identifiers that parameters are spelled as. -/
def paramNodes (params : List (Option String)) : List Node :=
  params.map fun param => identifier (param.getD "")

private theorem decodeItems_paramValues {params : List (Option String)}
    (named : ∀ param ∈ params, param.isSome) (place : Place) (i : Nat) (ref : Ref) (j : Nat) :
    decodeItems place i (paramValues ref j params) = .ok (paramNodes params) := by
  induction params generalizing i j with
  | nil => rfl
  | cons param rest ih =>
    cases param with
    | none => exact absurd (named none List.mem_cons_self) (by simp)
    | some name =>
      have later : ∀ param ∈ rest, param.isSome := fun param member =>
        named param (List.mem_cons_of_mem _ member)
      rw [paramValues, decodeItems, decodeAt_nameValue, ih later]
      rfl

private theorem paramNames_paramNodes {params : List (Option String)}
    (named : ∀ param ∈ params, param.isSome) (place : Place) (i : Nat) :
    Fields.paramNames place i (paramNodes params) = .ok params := by
  induction params generalizing i with
  | nil => rfl
  | cons param rest ih =>
    cases param with
    | none => exact absurd (named none List.mem_cons_self) (by simp)
    | some name =>
      have later : ∀ param ∈ rest, param.isSome := fun param member =>
        named param (List.mem_cons_of_mem _ member)
      have unfolded : Fields.paramNames place i (paramNodes (some name :: rest)) = (do
          let names ← Fields.paramNames place (i + 1) (paramNodes rest)
          .ok (some name :: names)) := rfl
      rw [unfolded, ih later]
      rfl

private theorem Fields.params_of_get? {entries : List (String × Value)} {ref list : Ref}
    {params : List (Option String)} (named : ∀ param ∈ params, param.isSome) (place : Place)
    (found : Entries.get? entries "params" = some (.array ref (paramValues list 0 params))) :
    (readFields place entries).params place = .ok params := by
  unfold Fields.params
  rw [list_of_get? place found (decodeItems_paramValues named _ 0 list 0)]
  exact paramNames_paramNodes named place 0

private theorem eq_null_of_absentField {omitted : Ref → Bool} {ref : Ref} {name other : String}
    {value : Value} (found : Entries.get? (absentField omitted ref other) name = some value) :
    value = .null := by
  unfold absentField at found
  split at found
  · cases found
  · rw [Entries.get?_cons] at found
    split at found
    · exact (Option.some.inj found).symm
    · cases found

private theorem Fields.node?_absentField (omitted : Ref → Bool) (ref : Ref) {name : String}
    {entries : List (String × Value)} (place : Place)
    (found : Entries.get? entries name = Entries.get? (absentField omitted ref name) name) :
    (readFields place entries).node? name = .ok none :=
  node?_of_absent place fun _ here => eq_null_of_absentField (found.symm.trans here)

/-- The name of a declaration is read from the field that spells it. -/
theorem Fields.declaredName_of_get? (omitted : Ref → Bool) (ref : Ref) (name : Option String)
    {entries : List (String × Value)} (place : Place)
    (found : Entries.get? entries "id" = Entries.get? (declaredField omitted ref name) "id") :
    (readFields place entries).declaredName place = .ok name := by
  unfold Fields.declaredName
  cases name with
  | none =>
    rw [node?_absentField omitted ref place found]
    rfl
  | some name =>
    rw [node?_of_get? place found (decodeAt_nameValue ..)]
    rfl

private theorem Fields.shape_unknown {tag : String} (unlisted : tag ∉ knownTags) (fields : Fields)
    (place : Place) : fields.shape place tag = .ok (unknown tag) := by
  unfold Fields.shape
  split
  case h_13 => rfl
  all_goals simp [knownTags] at unlisted

private theorem decodeAt_block {body : List Node} (place : Place) (ref : Ref)
    (items : Ref → List Value)
    (decoded : decodeItems (.key "body" :: place) 0 (items (ref.child (.key "body"))) = .ok body) :
    decodeAt place (tagged ref "BlockStatement" [listField ref "body" items]) =
      .ok (block body) := by
  rw [decodeAt_tagged, Fields.shape, Fields.list_of_get? place rfl decoded]
  rfl

variable (omitted : Ref → Bool)

private theorem toValue_returns {argument : Node} (given : argument ≠ hole) (ref : Ref) :
    (returns argument).toValue omitted ref =
      tagged ref "ReturnStatement"
        [("argument", argument.toValue omitted (ref.child (.key "argument")))] := by
  cases argument <;> first | rfl | exact absurd rfl given

private theorem WellFormed.of_returns {argument : Node} (formed : (returns argument).WellFormed)
    (given : argument ≠ hole) : argument.WellFormed := by
  cases argument <;> first | exact formed | exact absurd rfl given

mutual

/-- A well-formed tree is read back from the object that spells it. -/
theorem decodeAt_toValue (node : Node) (formed : node.WellFormed) (place : Place) (ref : Ref) :
    decodeAt place (node.toValue omitted ref) = .ok node := by
  match node with
  | literal value =>
    rw [toValue, decodeAt_tagged, Fields.shape, Fields.constant_of_get? place rfl formed]
    rfl
  | identifier name => exact decodeAt_nameValue place ref name
  | member object property computed =>
    rw [toValue, decodeAt_tagged, Fields.shape,
      Fields.node_of_get? place rfl (decodeAt_toValue object formed.1 _ _),
      Fields.node_of_get? place rfl (decodeAt_toValue property formed.2 _ _),
      Fields.flag_of_get? place rfl]
    rfl
  | binary operator left right =>
    rw [toValue, decodeAt_tagged, Fields.shape, Fields.text_of_get? place rfl,
      Fields.node_of_get? place rfl (decodeAt_toValue left formed.1 _ _),
      Fields.node_of_get? place rfl (decodeAt_toValue right formed.2 _ _)]
    rfl
  | unary operator argument leading =>
    obtain ⟨formed, rfl⟩ := formed
    rw [toValue, decodeAt_tagged, Fields.shape, Fields.text_of_get? place rfl,
      Fields.node_of_get? place rfl (decodeAt_toValue argument formed _ _)]
    rfl
  | call callee arguments =>
    rw [toValue, decodeAt_tagged, Fields.shape,
      Fields.node_of_get? place rfl (decodeAt_toValue callee formed.1 _ _),
      Fields.list_of_get? place rfl (decodeItems_toItems arguments formed.2 _ 0 _ 0)]
    rfl
  | function name params (some body) =>
    -- The body is spelled as a block of its own, one place further down.
    have inner := decodeAt_block (.key "body" :: place) (ref.child (.key "body"))
      (fun list => toItems omitted list 0 body) (decodeItems_toItems body formed.2 _ 0 _ 0)
    rw [toValue, decodeAt_tagged, Fields.shape,
      Fields.declaredName_of_get? omitted ref name place ?named,
      Fields.params_of_get? formed.1 place rfl, Fields.declaredBody,
      Fields.node_of_get? place rfl inner]
    · rfl
    · rfl
  | block body => exact decodeAt_block place ref _ (decodeItems_toItems body formed _ 0 _ 0)
  | returns argument =>
    by_cases bare : argument = hole
    · subst bare
      rw [toValue, decodeAt_tagged, Fields.shape,
        Fields.node?_absentField omitted ref place ?absent]
      · rfl
      · rfl
    · rw [toValue_returns omitted bare, decodeAt_tagged, Fields.shape,
        Fields.node?_of_get? place rfl (decodeAt_toValue argument (formed.of_returns bare) _ _)]
      rfl
  | statement expression =>
    rw [toValue, decodeAt_tagged, Fields.shape,
      Fields.node_of_get? place rfl (decodeAt_toValue expression formed _ _)]
    rfl
  | arrow params body =>
    rw [toValue, decodeAt_tagged, Fields.shape, Fields.params_of_get? formed.1 place rfl,
      Fields.node_of_get? place rfl (decodeAt_toValue body formed.2 _ _)]
    rfl
  | sequence expressions =>
    rw [toValue, decodeAt_tagged, Fields.shape,
      Fields.list_of_get? place rfl (decodeItems_toItems expressions formed _ 0 _ 0)]
    rfl
  | unknown tag =>
    rw [toValue, decodeAt_tagged]
    exact Fields.shape_unknown formed _ place

private theorem decodeItems_toItems (nodes : List Node) (formed : AllWellFormed nodes)
    (place : Place)
    (i : Nat) (ref : Ref) (j : Nat) :
    decodeItems place i (toItems omitted ref j nodes) = .ok nodes := by
  match nodes with
  | [] => rfl
  | node :: rest =>
    rw [toItems, decodeItems, decodeAt_toValue node formed.1,
      decodeItems_toItems rest formed.2]
    rfl

end

/-- What the decoder returns is well formed, and every well-formed tree is what it returns for the
object that spells the tree. -/
theorem decode_image_wellFormed :
    (∀ value node, decode value = .ok node → node.WellFormed) ∧
      ∀ omitted ref (node : Node), node.WellFormed →
        decode (node.toValue omitted ref) = .ok node :=
  ⟨fun _ _ decoded => decode_wellFormed decoded,
    fun omitted ref node formed => decodeAt_toValue omitted node formed [] ref⟩

/-- A nameless declaration with a bare return before a statement and a tag that no shape has. -/
def bareDeclaration : Node :=
  function none [some "x", some "y"]
    (some [returns hole, statement (unary "!" (identifier "x") true), unknown "IfStatement"])

theorem decode_image_wellFormed_bare :
    let choice : Ref → Bool := fun ref => ref.path.length = 1
    bareDeclaration.WellFormed ∧
      decode (bareDeclaration.toValue choice (Ref.ofOrigin 1)) = .ok bareDeclaration := by
  intro choice
  have formed : bareDeclaration.WellFormed :=
    ⟨by simp, trivial, ⟨trivial, rfl⟩, by simp [WellFormed, knownTags], trivial⟩
  have decoded := decode_image_wellFormed.2 choice (Ref.ofOrigin 1) bareDeclaration formed
  exact ⟨decode_image_wellFormed.1 _ _ decoded, decoded⟩

end ExprTree.Node
