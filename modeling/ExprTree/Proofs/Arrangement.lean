import ExprTree.Operator.Binary
import ExprTree.Operator.Unary
import ExprTree.Proofs.Entries
import ExprTree.Value.Member

/-!
Values with the keys of every object in ascending order and their containers under other
identities. No operation of the expression language can tell such a value from the one it was made
of, as long as different containers stay different.
-/
namespace ExprTree

namespace Value

mutual

/-- The value with sorted keys throughout, its containers known under moved identities. -/
def sorted (move : Ref → Ref) : Value → Value
  | object ref entries => object (move ref) (Entries.sorted (sortedEntries move entries))
  | array ref items => array (move ref) (sortedItems move items)
  | other => other

def sortedEntries (move : Ref → Ref) : List (String × Value) → List (String × Value)
  | [] => []
  | (key, value) :: rest => (key, sorted move value) :: sortedEntries move rest

def sortedItems (move : Ref → Ref) : List Value → List Value
  | [] => []
  | value :: rest => sorted move value :: sortedItems move rest

end

mutual

/-- Data throughout: no functions, no repeated keys, and only containers that are `known`. -/
def IsData (known : Ref → Prop) : Value → Prop
  | object ref entries => known ref ∧ (Entries.keys entries).Nodup ∧ AreDataEntries known entries
  | array ref items => known ref ∧ AreData known items
  | function _ => False
  | _ => True

def AreDataEntries (known : Ref → Prop) : List (String × Value) → Prop
  | [] => True
  | (_, value) :: rest => IsData known value ∧ AreDataEntries known rest

def AreData (known : Ref → Prop) : List Value → Prop
  | [] => True
  | value :: rest => IsData known value ∧ AreData known rest

end

theorem sortedEntries_eq_map (move : Ref → Ref) (entries : List (String × Value)) :
    sortedEntries move entries = entries.map fun entry => (entry.1, sorted move entry.2) := by
  induction entries with
  | nil => rfl
  | cons entry rest ih => rw [sortedEntries, ih]; rfl

theorem sortedItems_eq_map (move : Ref → Ref) (items : List Value) :
    sortedItems move items = items.map (sorted move) := by
  induction items with
  | nil => rfl
  | cons item rest ih => rw [sortedItems, ih]; rfl

theorem areDataEntries_iff {known : Ref → Prop} {entries : List (String × Value)} :
    AreDataEntries known entries ↔ ∀ entry ∈ entries, IsData known entry.2 := by
  induction entries with
  | nil => simp [AreDataEntries]
  | cons entry rest ih => simp [AreDataEntries, ih]

theorem areData_iff {known : Ref → Prop} {items : List Value} :
    AreData known items ↔ ∀ item ∈ items, IsData known item := by
  induction items with
  | nil => simp [AreData]
  | cons item rest ih => simp [AreData, ih]

variable {known : Ref → Prop} {move : Ref → Ref}

/-- Containers that are known stay apart when they are moved. -/
def KeepsApart (known : Ref → Prop) (move : Ref → Ref) : Prop :=
  ∀ first second, known first → known second → move first = move second → first = second

/-- A key stands for the sorted form of what it stood for. -/
theorem get?_sortedEntries {entries : List (String × Value)}
    (distinct : (Entries.keys entries).Nodup) (name : String) :
    Entries.get? (Entries.sorted (sortedEntries move entries)) name =
      (Entries.get? entries name).map (sorted move) := by
  rw [sortedEntries_eq_map, Entries.get?_sorted, Entries.get?_map]
  rw [Entries.keys_map]
  exact distinct

theorem IsData.get? {ref : Ref} {entries : List (String × Value)} {name : String} {value : Value}
    (data : IsData known (object ref entries)) (found : Entries.get? entries name = some value) :
    IsData known value :=
  areDataEntries_iff.mp data.2.2 _ (Entries.mem_of_get? found)

private theorem IsData.getD_get? {ref : Ref} {entries : List (String × Value)}
    (data : IsData known (object ref entries)) (name : String) :
    IsData known ((Entries.get? entries name).getD undefined) := by
  cases found : Entries.get? entries name with
  | none => exact trivial
  | some value => exact data.get? found

@[simp] theorem kind_sorted (v : Value) : (v.sorted move).kind = v.kind := by
  cases v <;> rfl

@[simp] theorem typeName_sorted (v : Value) : (v.sorted move).typeName = v.typeName := by
  cases v <;> rfl

@[simp] theorem isNullish_sorted (v : Value) : (v.sorted move).isNullish = v.isNullish := by
  cases v <;> rfl

@[simp] theorem isReference_sorted (v : Value) :
    (v.sorted move).isReference = v.isReference := by
  cases v <;> rfl

@[simp] theorem truthy_sorted (v : Value) : (v.sorted move).truthy = v.truthy := by
  cases v <;> rfl

/-- Values without identity have nothing to sort. -/
theorem sorted_of_not_reference {v : Value} (plain : v.isReference = false) :
    v.sorted move = v := by
  cases v <;> first | rfl | cases plain

mutual

@[simp] theorem toText_sorted (v : Value) : (v.sorted move).toText = v.toText := by
  match v with
  | array ref items => simp only [sorted, toText, itemTexts_sorted items]
  | object .. | undefined | null | bool _ | number _ | text _ | function _ => rfl

private theorem itemTexts_sorted (items : List Value) :
    itemTexts (sortedItems move items) = itemTexts items := by
  match items with
  | [] => rfl
  | item :: rest =>
    simp only [sortedItems, itemTexts, isNullish_sorted, toText_sorted item,
      itemTexts_sorted rest]

end

@[simp] theorem toPrimitive_sorted (v : Value) :
    (v.sorted move).toPrimitive = v.toPrimitive := by
  unfold toPrimitive
  rw [isReference_sorted, toText_sorted]
  split
  · rfl
  · rename_i plain
    exact sorted_of_not_reference (by simpa using plain)

@[simp] theorem toNumber_sorted (v : Value) : (v.sorted move).toNumber = v.toNumber := by
  cases v with
  | array ref items => exact congrArg textNumber (toText_sorted (array ref items))
  | _ => rfl

@[simp] theorem toInt32_sorted (v : Value) : (v.sorted move).toInt32 = v.toInt32 := by
  simp only [toInt32, toNumber_sorted]

@[simp] theorem toUInt32_sorted (v : Value) : (v.sorted move).toUInt32 = v.toUInt32 := by
  simp only [toUInt32, toNumber_sorted]

theorem eq_text_of_kind {v : Value} (known : v.kind = .string) : ∃ s, v = text s := by
  cases v with
  | text s => exact ⟨s, rfl⟩
  | _ => cases known

/-- Loose equality in closed form: what is left after the cases of equal kinds, of null and
undefined, and of two references compares as texts or else as numbers. -/
theorem looseEquals_eq (a b : Value) :
    looseEquals a b =
      if a.kind = b.kind then strictEquals a b
      else if a.isNullish || b.isNullish then a.isNullish && b.isNullish
      else if a.isReference && b.isReference then false
      else
        match a.toPrimitive, b.toPrimitive with
        | text s, text t => s == t
        | p, q => p.toNumber.eq q.toNumber := by
  cases a <;> cases b <;>
    simp [looseEquals, kind, isNullish, isReference, toPrimitive, toNumber, strictEquals]

section Operators

variable (apart : KeepsApart known move)
include apart

private theorem KeepsApart.beq {first second : Ref} (one : known first) (two : known second) :
    (move first == move second) = (first == second) := by
  apply Bool.eq_iff_iff.mpr
  simp only [beq_iff_eq]
  exact ⟨apart first second one two, congrArg move⟩

private theorem strictEquals_sorted {a b : Value} (left : a.IsData known) (right : b.IsData known) :
    strictEquals (a.sorted move) (b.sorted move) = strictEquals a b := by
  cases a <;> cases b <;> try rfl
  · exact apart.beq left.1 right.1
  · exact apart.beq left.1 right.1

private theorem looseEquals_sorted {a b : Value} (left : a.IsData known) (right : b.IsData known) :
    looseEquals (a.sorted move) (b.sorted move) = looseEquals a b := by
  rw [looseEquals_eq, looseEquals_eq a b]
  simp only [kind_sorted, isNullish_sorted, isReference_sorted, toPrimitive_sorted,
    strictEquals_sorted apart left right]

end Operators

end Value

open Value

variable {known : Ref → Prop} {move : Ref → Ref}

private theorem BinaryOperator.apply_sorted (apart : KeepsApart known move) (op : BinaryOperator)
    {a b : Value} (left : a.IsData known) (right : b.IsData known) :
    op.apply (a.sorted move) (b.sorted move) = (op.apply a b).sorted move := by
  cases op with
  | add =>
    simp only [apply, sum, toPrimitive_sorted]
    split <;> rfl
  | looseEqual | looseUnequal => simp only [apply, looseEquals_sorted apart left right, sorted]
  | strictEqual | strictUnequal => simp only [apply, strictEquals_sorted apart left right, sorted]
  | and | or =>
    simp only [apply, truthy_sorted]
    split <;> rfl
  | less | lessEqual | greater | greaterEqual =>
    simp only [apply, ordered, order?, toPrimitive_sorted, sorted]
  | _ =>
    simp only [apply, arithmetic, ofInt32, shiftCount, toNumber_sorted, toInt32_sorted,
      toUInt32_sorted, sorted]

private theorem BinaryOperator.apply_isData (op : BinaryOperator) {a b : Value}
    (left : a.IsData known)
    (right : b.IsData known) : (op.apply a b).IsData known := by
  cases op with
  | add =>
    simp only [apply, sum]
    split <;> trivial
  | and | or =>
    simp only [apply]
    split <;> assumption
  | _ => trivial

theorem applyBinary_sorted (apart : KeepsApart known move) (symbol : String) {a b : Value}
    (left : a.IsData known) (right : b.IsData known) :
    applyBinary symbol (a.sorted move) (b.sorted move) =
      (applyBinary symbol a b).map (sorted move) := by
  unfold applyBinary
  split
  · simp only [BinaryOperator.apply_sorted apart _ left right, Except.map]
  · rfl

theorem applyBinary_isData {symbol : String} {a b result : Value} (left : a.IsData known)
    (right : b.IsData known) (applied : applyBinary symbol a b = .ok result) :
    result.IsData known := by
  unfold applyBinary at applied
  split at applied
  · rename_i op _
    cases applied
    exact op.apply_isData left right
  · cases applied

private theorem UnaryOperator.apply_sorted (op : UnaryOperator) (v : Value) :
    op.apply (v.sorted move) = (op.apply v).sorted move := by
  cases op <;> simp only [apply, toNumber_sorted, toInt32_sorted, truthy_sorted, typeName_sorted,
    sorted]

theorem applyUnary_sorted (symbol : String) (v : Value) :
    applyUnary symbol (v.sorted move) = (applyUnary symbol v).map (sorted move) := by
  unfold applyUnary
  split
  · simp only [UnaryOperator.apply_sorted, Except.map]
  · rfl

theorem applyUnary_isData {symbol : String} {v result : Value}
    (applied : applyUnary symbol v = .ok result) : result.IsData known := by
  unfold applyUnary at applied
  split at applied
  · rename_i op _
    cases applied
    cases op <;> trivial
  · cases applied

namespace Value

private theorem memberNamed_sorted {base : Value} (data : base.IsData known) (name : String) :
    (base.sorted move).memberNamed name = (base.memberNamed name).map (sorted move) := by
  cases base with
  | object ref entries =>
    simp only [sorted, memberNamed, get?_sortedEntries data.2.1, Except.map]
    cases Entries.get? entries name <;> rfl
  | array ref items =>
    simp only [sorted, memberNamed, sortedItems_eq_map, List.length_map, List.getElem?_map]
    split
    · rfl
    · cases arrayIndex? name with
      | none => rfl
      | some place =>
        simp only [Option.bind_some]
        cases items[place]? <;> rfl
  | text s =>
    simp only [sorted, memberNamed]
    split
    · rfl
    · cases (arrayIndex? name).bind fun place => (Text.units s)[place]? <;> rfl
  | _ => rfl

theorem member_sorted {base : Value} (data : base.IsData known) (key : Value) :
    (base.sorted move).member (key.sorted move) = (base.member key).map (sorted move) := by
  unfold member
  rw [toText_sorted, memberNamed_sorted data]

theorem member_isData {base key result : Value} (data : base.IsData known)
    (found : base.member key = .ok result) : result.IsData known := by
  unfold member memberNamed at found
  split at found
  · cases found
  · cases found
  · cases found
    exact data.getD_get? _
  · rename_i ref items
    split at found
    · cases found
      exact trivial
    · cases found
      cases arrayIndex? key.toText with
      | none => exact trivial
      | some place =>
        simp only [Option.bind_some]
        cases here : items[place]? with
        | none => exact trivial
        | some item => exact areData_iff.mp data.2 item (List.mem_of_getElem? here)
  · split at found
    · cases found
      exact trivial
    · cases found
      cases (arrayIndex? key.toText).bind fun place => (Text.units _)[place]? <;> exact trivial
  · cases found
    exact trivial

end Value

end ExprTree
