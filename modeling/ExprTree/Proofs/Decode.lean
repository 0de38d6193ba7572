import ExprTree.Node.Decode
import ExprTree.Proofs.Arrangement

/-! What the decoder makes of values: every tree it returns is well formed. -/
namespace ExprTree

theorem exists_of_bind_eq_ok {action : Except ε α} {next : α → Except ε β} {b : β}
    (ended : (action >>= next) = .ok b) : ∃ a, action = .ok a ∧ next a = .ok b := by
  cases action with
  | error fault => cases ended
  | ok a => exact ⟨a, rfl, ended⟩

theorem eq_ok_of_mapError {result : Except ε α} {wrap : ε → δ} {a : α}
    (ended : result.mapError wrap = .ok a) : result = .ok a := by
  cases result with
  | error fault => cases ended
  | ok b => exact congrArg _ (Except.ok.inj ended)

/-- What a literal of a document can hold. -/
def Value.IsConstant : Value → Prop
  | null | bool _ | number _ | text _ => True
  | _ => False

namespace Node

/-- The tags of the shapes that documents can spell. -/
def knownTags : List String :=
  ["Literal", "Identifier", "MemberExpression", "BinaryExpression", "UnaryExpression",
    "CallExpression", "FunctionDeclaration", "BlockStatement", "ReturnStatement",
    "ExpressionStatement", "ArrowFunctionExpression", "SequenceExpression"]

mutual

/-- A tree as documents spell it: only a return may lack its argument, literals hold constants,
unary operators stand in front, declarations have all their parts, and a tag that is kept as it is
names none of the known shapes. -/
def WellFormed : Node → Prop
  | hole => False
  | literal value => value.IsConstant
  | identifier _ => True
  | member object property _ => object.WellFormed ∧ property.WellFormed
  | binary _ left right => left.WellFormed ∧ right.WellFormed
  | unary _ argument leading => argument.WellFormed ∧ leading = true
  | call callee arguments => callee.WellFormed ∧ AllWellFormed arguments
  | function _ params (some body) => (∀ param ∈ params, param.isSome) ∧ AllWellFormed body
  | function _ _ none => False
  | block body => AllWellFormed body
  | returns hole => True
  | returns argument => argument.WellFormed
  | statement expression => expression.WellFormed
  | arrow params body => (∀ param ∈ params, param.isSome) ∧ body.WellFormed
  | sequence expressions => AllWellFormed expressions
  | unknown tag => tag ∉ knownTags

def AllWellFormed : List Node → Prop
  | [] => True
  | node :: rest => node.WellFormed ∧ AllWellFormed rest

end

namespace Fields

/-- Whatever an entry reads as is well formed. -/
def WellFormed (fields : Fields) : Prop :=
  ∀ name reading, Entries.get? fields name = some reading →
    (∀ node, reading.asNode = .ok node → node.WellFormed) ∧
      ∀ nodes, reading.asList = .ok nodes → AllWellFormed nodes

variable {fields : Fields} {place : Place}

private theorem node?_wellFormed (valid : fields.WellFormed) {name : String} {node : Node}
    (read : fields.node? name = .ok (some node)) : node.WellFormed := by
  unfold node? at read
  split at read
  · rename_i reading found
    split at read
    · cases read
    · cases decoded : reading.asNode with
      | error fault => rw [decoded] at read; cases read
      | ok other =>
        rw [decoded] at read
        cases read
        exact (valid name reading found).1 node decoded
  · cases read

private theorem node_wellFormed (valid : fields.WellFormed) {name : String} {node : Node}
    (read : fields.node place name = .ok node) : node.WellFormed := by
  obtain ⟨found, first, rest⟩ := exists_of_bind_eq_ok read
  cases found with
  | none => cases rest
  | some other =>
    cases rest
    exact node?_wellFormed valid first

private theorem list_wellFormed (valid : fields.WellFormed) {name : String} {nodes : List Node}
    (read : fields.list name = .ok nodes) : AllWellFormed nodes := by
  unfold list at read
  split at read
  · rename_i reading found
    exact (valid name reading found).2 nodes read
  · cases read
    exact trivial

private theorem paramNames_isSome {i : Nat} {nodes : List Node} {params : List (Option String)}
    (read : paramNames place i nodes = .ok params) : ∀ param ∈ params, param.isSome := by
  induction nodes generalizing i params with
  | nil =>
    cases read
    simp
  | cons node rest ih =>
    unfold paramNames at read
    split at read
    · rename_i same
      cases same
    · rename_i name others same
      cases same
      obtain ⟨names, first, last⟩ := exists_of_bind_eq_ok read
      cases last
      simpa using ih first
    · cases read

private theorem params_isSome {params : List (Option String)}
    (read : fields.params place = .ok params) :
    ∀ param ∈ params, param.isSome := by
  obtain ⟨nodes, _, named⟩ := exists_of_bind_eq_ok read
  exact paramNames_isSome named

private theorem constant_isConstant {value : Value} (read : fields.constant place = .ok value) :
    value.IsConstant := by
  unfold constant at read
  split at read <;> cases read <;> exact trivial

private theorem declaredBody_wellFormed (valid : fields.WellFormed) {body : List Node}
    (read : fields.declaredBody place = .ok body) : AllWellFormed body := by
  obtain ⟨node, first, rest⟩ := exists_of_bind_eq_ok read
  have formed := node_wellFormed valid first
  split at rest
  · cases rest
    exact formed
  · cases rest

private theorem returns_wellFormed (valid : fields.WellFormed) {argument : Option Node}
    (read : fields.node? "argument" = .ok argument) :
    (returns (argument.getD hole)).WellFormed := by
  cases argument with
  | none => exact trivial
  | some node =>
    have formed := node?_wellFormed valid read
    cases node <;> first | exact formed | trivial

private theorem shape_wellFormed (valid : fields.WellFormed) {tag : String} {node : Node}
    (read : fields.shape place tag = .ok node) : node.WellFormed := by
  unfold shape at read
  split at read
  case h_1 =>
    obtain ⟨value, first, last⟩ := exists_of_bind_eq_ok read
    cases last
    exact constant_isConstant first
  case h_2 =>
    obtain ⟨name, _, last⟩ := exists_of_bind_eq_ok read
    cases last
    exact trivial
  case h_3 =>
    obtain ⟨object, first, read⟩ := exists_of_bind_eq_ok read
    obtain ⟨property, second, last⟩ := exists_of_bind_eq_ok read
    cases last
    exact ⟨node_wellFormed valid first, node_wellFormed valid second⟩
  case h_4 =>
    obtain ⟨operator, _, read⟩ := exists_of_bind_eq_ok read
    obtain ⟨left, first, read⟩ := exists_of_bind_eq_ok read
    obtain ⟨right, second, last⟩ := exists_of_bind_eq_ok read
    cases last
    exact ⟨node_wellFormed valid first, node_wellFormed valid second⟩
  case h_5 =>
    obtain ⟨operator, _, read⟩ := exists_of_bind_eq_ok read
    obtain ⟨argument, first, last⟩ := exists_of_bind_eq_ok read
    cases last
    exact ⟨node_wellFormed valid first, rfl⟩
  case h_6 =>
    obtain ⟨callee, first, read⟩ := exists_of_bind_eq_ok read
    obtain ⟨arguments, second, last⟩ := exists_of_bind_eq_ok read
    cases last
    exact ⟨node_wellFormed valid first, list_wellFormed valid second⟩
  case h_7 =>
    obtain ⟨name, _, read⟩ := exists_of_bind_eq_ok read
    obtain ⟨params, second, read⟩ := exists_of_bind_eq_ok read
    obtain ⟨body, third, last⟩ := exists_of_bind_eq_ok read
    cases last
    exact ⟨params_isSome second, declaredBody_wellFormed valid third⟩
  case h_8 =>
    obtain ⟨body, first, last⟩ := exists_of_bind_eq_ok read
    cases last
    exact list_wellFormed valid first
  case h_9 =>
    obtain ⟨argument, first, last⟩ := exists_of_bind_eq_ok read
    cases last
    exact returns_wellFormed valid first
  case h_10 =>
    obtain ⟨expression, first, last⟩ := exists_of_bind_eq_ok read
    have formed := node_wellFormed valid first
    cases last
    exact formed
  case h_11 =>
    obtain ⟨params, first, read⟩ := exists_of_bind_eq_ok read
    obtain ⟨body, second, last⟩ := exists_of_bind_eq_ok read
    cases last
    exact ⟨params_isSome first, node_wellFormed valid second⟩
  case h_12 =>
    obtain ⟨expressions, first, last⟩ := exists_of_bind_eq_ok read
    cases last
    exact list_wellFormed valid first
  case h_13 =>
    cases read
    simp_all [Node.WellFormed, knownTags]

end Fields

/-- A key of a node object reads as what it stands for reads at its place. -/
theorem get?_readFields (place : Place) (entries : List (String × Value)) (name : String) :
    Entries.get? (readFields place entries) name =
      (Entries.get? entries name).map fun value =>
        ⟨value, decodeAt (.key name :: place) value, decodeList (.key name :: place) value⟩ := by
  induction entries with
  | nil => rfl
  | cons entry rest ih =>
    obtain ⟨key, value⟩ := entry
    rw [readFields, Entries.get?_cons, Entries.get?_cons, ih]
    by_cases same : key = name
    · subst same
      rw [if_pos rfl, if_pos rfl]
      rfl
    · rw [if_neg same, if_neg same]

/-- Whatever a value decodes to is well formed, as a tree and as a list of trees. -/
def DecodesWell (value : Value) : Prop :=
  ∀ place, (∀ node, decodeAt place value = .ok node → node.WellFormed) ∧
    ∀ nodes, decodeList place value = .ok nodes → AllWellFormed nodes

mutual

private theorem decodesWell (value : Value) : DecodesWell value := by
  match value with
  | .object ref entries =>
    intro place
    refine ⟨fun node decoded => ?_, fun nodes decoded => by cases decoded⟩
    rw [decodeAt] at decoded
    split at decoded
    · refine Fields.shape_wellFormed ?_ decoded
      intro name reading found
      rw [get?_readFields] at found
      obtain ⟨entry, member, rfl⟩ := Option.map_eq_some_iff.mp found
      exact decodesWell_entries entries _ (Entries.mem_of_get? member) (.key name :: place)
    · cases decoded
  | .array ref items =>
    intro place
    refine ⟨?_, fun nodes decoded => decodeItems_wellFormed items decoded⟩
    intro node decoded
    cases decoded
  | .undefined | .null | .bool _ | .number _ | .text _ | .function _ =>
    intro place
    constructor <;> intro read decoded <;> cases decoded

private theorem decodesWell_entries (entries : List (String × Value)) :
    ∀ entry ∈ entries, DecodesWell entry.2 := by
  match entries with
  | [] => simp
  | (key, value) :: rest =>
    intro entry member
    rcases List.mem_cons.mp member with same | later
    · rw [same]
      exact decodesWell value
    · exact decodesWell_entries rest entry later

private theorem decodeItems_wellFormed (items : List Value) {place : Place} {i : Nat}
    {nodes : List Node}
    (decoded : decodeItems place i items = .ok nodes) : AllWellFormed nodes := by
  match items with
  | [] =>
    cases decoded
    exact trivial
  | item :: rest =>
    rw [decodeItems] at decoded
    obtain ⟨first, one, decoded⟩ := exists_of_bind_eq_ok decoded
    obtain ⟨others, more, last⟩ := exists_of_bind_eq_ok decoded
    cases last
    exact ⟨(decodesWell item _).1 first one, decodeItems_wellFormed rest more⟩

end

theorem decode_wellFormed {value : Value} {node : Node} (decoded : decode value = .ok node) :
    node.WellFormed :=
  (decodesWell value []).1 node decoded

end Node

end ExprTree
