import ExprTree.Proofs.WireForm

/-!
What can be got at from a value through the entries of objects and the items of arrays. The
operations of the expression language make no container and no function of their own: whatever
they return with an identity was an operand or can be reached from one.
-/
namespace ExprTree

namespace Value

/-- A value that can be got at from another by reading own entries and items, in any number of
steps. -/
inductive Reaches : Value → Value → Prop where
  | self (v : Value) : Reaches v v
  | entry {ref : Ref} {entries : List (String × Value)} {name : String} {inner target : Value}
      (found : Entries.get? entries name = some inner) (below : inner.Reaches target) :
      (object ref entries).Reaches target
  | item {ref : Ref} {items : List Value} {inner target : Value} (member : inner ∈ items)
      (below : inner.Reaches target) : (array ref items).Reaches target

theorem Reaches.trans {first second third : Value} (start : first.Reaches second)
    (rest : second.Reaches third) : first.Reaches third := by
  induction start with
  | self => exact rest
  | entry found _ ih => exact .entry found (ih rest)
  | item member _ ih => exact .item member (ih rest)

/-- Only what has an identity leads anywhere. -/
theorem Reaches.eq_or_isReference {v target : Value} (reached : v.Reaches target) :
    target = v ∨ v.isReference = true := by
  cases reached with
  | self => exact .inl rfl
  | entry => exact .inr rfl
  | item => exact .inr rfl

/-- What stands for something absent has no identity. -/
theorem eq_some_of_isReference {found : Option Value}
    (reference : (found.getD undefined).isReference = true) :
    found = some (found.getD undefined) := by
  cases found with
  | none => cases reference
  | some v => rfl

theorem member_reaches {base key result : Value} (found : base.member key = .ok result)
    (reference : result.isReference = true) : base.Reaches result := by
  unfold member memberNamed at found
  split at found
  · cases found
  · cases found
  · cases found
    exact .entry (eq_some_of_isReference reference) (.self _)
  · split at found
    · cases found
      cases reference
    · cases found
      obtain ⟨place, _, present⟩ := Option.bind_eq_some_iff.mp (eq_some_of_isReference reference)
      exact .item (List.mem_of_getElem? present) (.self _)
  · rename_i s
    split at found
    · cases found
      cases reference
    · cases found
      -- A unit of a text is a text again, and no unit is undefined.
      generalize (arrayIndex? key.toText).bind (fun place => (Text.units s)[place]?) = unit
        at reference
      cases unit <;> cases reference
  · cases found
    cases reference

end Value

/-- An operator returns one of its operands or a value without identity. -/
theorem applyBinary_eq_operand {symbol : String} {left right result : Value}
    (applied : applyBinary symbol left right = .ok result)
    (reference : result.isReference = true) : result = left ∨ result = right := by
  unfold applyBinary at applied
  split at applied
  · rename_i op _
    cases applied
    cases op with
    | add =>
      simp only [BinaryOperator.apply, BinaryOperator.sum] at reference
      split at reference <;> cases reference
    | and =>
      simp only [BinaryOperator.apply]
      split
      · exact .inr rfl
      · exact .inl rfl
    | or =>
      simp only [BinaryOperator.apply]
      split
      · exact .inl rfl
      · exact .inr rfl
    | _ => cases reference
  · cases applied

theorem applyUnary_not_reference {symbol : String} {argument result : Value}
    (applied : applyUnary symbol argument = .ok result) : result.isReference = false := by
  unfold applyUnary at applied
  split at applied
  · rename_i op _
    cases applied
    cases op <;> rfl
  · cases applied

namespace Value

/-- A value that came in from outside, as a document or as a message of the binary protocol. -/
inductive IsReceived : Value → Prop where
  | document (root : Ref) (datum : Datum) : IsReceived (ofDatum root datum)
  | message (root : Ref) (wire : Wire) : IsReceived (ofWire root wire)

/-- What an unset field of a message is read as. -/
theorem IsReceived.undefined : IsReceived undefined :=
  .message (Ref.ofOrigin 0) .unset

private theorem exists_of_mem_ofDatumItems {ref : Ref} {place : Nat} {items : List Datum}
    {inner : Value}
    (member : inner ∈ ofDatumItems ref place items) : ∃ root item, inner = ofDatum root item := by
  induction items generalizing place with
  | nil => cases member
  | cons item rest ih =>
    rcases List.mem_cons.mp member with here | later
    · exact ⟨_, item, here⟩
    · exact ih later

private theorem exists_of_mem_ofWireItems {ref : Ref} {place : Nat} {items : List Wire}
    {inner : Value}
    (member : inner ∈ ofWireItems ref place items) : ∃ root item, inner = ofWire root item := by
  induction items generalizing place with
  | nil => cases member
  | cons item rest ih =>
    rcases List.mem_cons.mp member with here | later
    · exact ⟨_, item, here⟩
    · exact ih later

private theorem exists_of_mem_ofWireFields {ref : Ref} {fields : List (String × Wire)}
    {name : String}
    {inner : Value} (member : (name, inner) ∈ ofWireFields ref fields) :
    ∃ root item, inner = ofWire root item := by
  induction fields with
  | nil => cases member
  | cons field rest ih =>
    obtain ⟨key, item⟩ := field
    rcases List.mem_cons.mp member with here | later
    · exact ⟨_, item, (Prod.mk.inj here).2⟩
    · exact ih later

theorem IsReceived.entry {ref : Ref} {entries : List (String × Value)} {name : String}
    {inner : Value} (received : (object ref entries).IsReceived)
    (found : Entries.get? entries name = some inner) : inner.IsReceived := by
  generalize whole : object ref entries = v at received
  cases received with
  | document root datum =>
    cases datum with
    | record fields =>
      cases whole
      rw [get?_ofDatumEntries] at found
      obtain ⟨item, _, rfl⟩ := Option.map_eq_some_iff.mp found
      exact .document _ item
    | _ => cases whole
  | message root wire =>
    cases wire with
    | struct fields =>
      cases whole
      have member := (Entries.sorted_perm _).mem_iff.mp (Entries.mem_of_get? found)
      obtain ⟨below, item, rfl⟩ := exists_of_mem_ofWireFields member
      exact .message below item
    | _ => cases whole

theorem IsReceived.item {ref : Ref} {items : List Value} {inner : Value}
    (received : (array ref items).IsReceived) (member : inner ∈ items) : inner.IsReceived := by
  generalize whole : array ref items = v at received
  cases received with
  | document root datum =>
    cases datum with
    | list data =>
      cases whole
      obtain ⟨below, item, rfl⟩ := exists_of_mem_ofDatumItems member
      exact .document below item
    | _ => cases whole
  | message root wire =>
    cases wire with
    | list wires =>
      cases whole
      obtain ⟨below, item, rfl⟩ := exists_of_mem_ofWireItems member
      exact .message below item
    | _ => cases whole

/-- Whatever is got at from a received value was received with it. -/
theorem IsReceived.of_reaches {v target : Value} (reached : v.Reaches target)
    (received : v.IsReceived) : target.IsReceived := by
  induction reached with
  | self => exact received
  | entry found _ ih => exact ih (received.entry found)
  | item member _ ih => exact ih (received.item member)

/-- Neither documents nor messages can carry a function. -/
theorem IsReceived.not_reaches_function {v : Value} (received : v.IsReceived)
    (callable : Callable) : ¬ v.Reaches (function callable) := by
  intro reached
  generalize same : function callable = target at reached
  cases IsReceived.of_reaches reached received with
  | document root datum => cases datum <;> cases same
  | message root wire => cases wire <;> cases same

end Value

end ExprTree
