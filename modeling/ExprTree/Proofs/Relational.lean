import ExprTree.Operator.Binary
import ExprTree.Proofs.NumberOrder
import ExprTree.Proofs.TextOrder

/-!
The relational operators. Two values compare by their texts or by the ranks of their numbers, and do
not compare with NaN. Main statement: turning the operands around turns the operators around, values
that compare are less, greater or tied, and between simple values ties are what loose equality holds
of.
-/
namespace ExprTree

namespace Value

variable {a b : Value}

private theorem toNumber_toPrimitive (v : Value) : v.toPrimitive.toNumber = v.toNumber := by
  cases v <;> rfl

/-- Two values that do not compare: they are not both texts, and one of them is no number. -/
def Unordered (a b : Value) : Prop :=
  ¬ (a.toPrimitive.kind = .string ∧ b.toPrimitive.kind = .string) ∧
    (a.toPrimitive.toNumber = .nan ∨ b.toPrimitive.toNumber = .nan)

/-- Booleans, numbers and texts. -/
def IsSimple (v : Value) : Prop :=
  v.kind = .boolean ∨ v.kind = .number ∨ v.kind = .string

private theorem IsSimple.toPrimitive_eq (simple : a.IsSimple) : a.toPrimitive = a := by
  cases a <;> first | rfl | simp [IsSimple, kind] at simple

/-- Unless both are texts, simple values are loosely equal if their numbers are equal. -/
theorem looseEquals_numbers (left : a.IsSimple) (right : b.IsSimple)
    (apart : ¬ (a.kind = .string ∧ b.kind = .string)) :
    looseEquals a b = a.toNumber.eq b.toNumber := by
  have truths : ∀ p q : Bool, strictEquals (bool p) (bool q) =
      (bool p).toNumber.eq (bool q).toNumber := by decide +kernel
  by_cases bools : ∃ p q, a = bool p ∧ b = bool q
  · obtain ⟨p, q, rfl, rfl⟩ := bools
    rw [looseEquals_eq, if_pos (by rfl), truths]
  · rw [looseEquals_eq]
    cases a <;> cases b <;>
      simp_all [IsSimple, kind, isNullish, isReference, toPrimitive, strictEquals, toNumber]

end Value

namespace BinaryOperator

open Value

variable {a b : Value}

/-- How numbers compare: by rank, and not at all with NaN. -/
def compareNumbers? (x y : Double) : Option Ordering :=
  if x = .nan ∨ y = .nan then none else some (Ord.compare x.rank y.rank)

private theorem order?_texts {s t : String} (left : a.toPrimitive = .text s)
    (right : b.toPrimitive = .text t) :
    order? a b = some (Text.compare s t) := by
  rw [order?, left, right]

private theorem order?_numbers
    (apart : ¬ (a.toPrimitive.kind = .string ∧ b.toPrimitive.kind = .string)) :
    order? a b = compareNumbers? a.toNumber b.toNumber := by
  unfold order? compareNumbers?
  split
  · rename_i left right
    rw [left, right] at apart
    exact absurd ⟨rfl, rfl⟩ apart
  · simp only [toNumber_toPrimitive, Bool.or_eq_true, Double.isNaN_iff]
    split
    · rfl
    · rename_i numbers
      rw [not_or] at numbers
      simp only [Double.lt_iff_rank, ne_eq, numbers, not_false_eq_true, true_and]
      rw [Int.compare_eq_ite_lt]
      split
      · rfl
      · split <;> rfl

private theorem compareNumbers?_swap (x y : Double) :
    compareNumbers? y x = (compareNumbers? x y).map Ordering.swap := by
  unfold compareNumbers?
  by_cases none : x = .nan ∨ y = .nan
  · rw [if_pos none, if_pos none.symm]
    rfl
  · rw [if_neg none, if_neg (Or.comm.not.mp none)]
    exact congrArg some Std.OrientedCmp.eq_swap

/-- Turning the operands around turns their order around. -/
theorem order?_swap (a b : Value) : order? b a = (order? a b).map Ordering.swap := by
  by_cases texts : a.toPrimitive.kind = .string ∧ b.toPrimitive.kind = .string
  · obtain ⟨s, left⟩ := eq_text_of_kind texts.1
    obtain ⟨t, right⟩ := eq_text_of_kind texts.2
    rw [order?_texts left right, order?_texts right left]
    exact congrArg some Std.OrientedCmp.eq_swap
  · rw [order?_numbers texts, order?_numbers (And.comm.not.mp texts), compareNumbers?_swap]

private theorem order?_eq_none_iff : order? a b = none ↔ Unordered a b := by
  unfold Unordered
  by_cases texts : a.toPrimitive.kind = .string ∧ b.toPrimitive.kind = .string
  · obtain ⟨s, left⟩ := eq_text_of_kind texts.1
    obtain ⟨t, right⟩ := eq_text_of_kind texts.2
    rw [order?_texts left right]
    simp [texts]
  · rw [order?_numbers texts, compareNumbers?]
    simp only [ite_eq_left_iff, reduceCtorEq, imp_false, not_not, texts, not_false_eq_true, true_and,
      toNumber_toPrimitive]

/-- Simple values tie exactly if they are loosely equal. -/
theorem order?_eq_tie_iff (left : a.IsSimple) (right : b.IsSimple) :
    order? a b = some .eq ↔ looseEquals a b = true := by
  by_cases texts : a.kind = .string ∧ b.kind = .string
  · obtain ⟨s, rfl⟩ := eq_text_of_kind texts.1
    obtain ⟨t, rfl⟩ := eq_text_of_kind texts.2
    rw [order?_texts rfl rfl, looseEquals_eq, if_pos (by rfl), Option.some_inj]
    exact Std.LawfulEqCmp.compare_eq_iff_eq.trans beq_iff_eq.symm
  · rw [looseEquals_numbers left right texts, Double.eq_iff_rank, order?_numbers, compareNumbers?]
    · simp [not_or, and_assoc]
    · rwa [left.toPrimitive_eq, right.toPrimitive_eq]

end BinaryOperator

/-- An operator, named by its symbol, answers true. -/
def Holds (symbol : String) (left right : Value) : Prop :=
  applyBinary symbol left right = .ok (.bool true)

/-- One of three statements holds and the other two do not. -/
def ExactlyOne (p q r : Prop) : Prop :=
  p ∧ ¬ q ∧ ¬ r ∨ ¬ p ∧ q ∧ ¬ r ∨ ¬ p ∧ ¬ q ∧ r

section Answers

open Value BinaryOperator

variable {a b : Value}

/-- The relational operators and the orders of their operands for which they answer true. -/
def relations : List (String × (Ordering → Bool)) :=
  [("<", (· == .lt)), ("<=", (· != .gt)), (">", (· == .gt)), (">=", (· != .lt))]

/-- The relational operators test how their operands compare. -/
theorem applyBinary_relation {symbol : String} {test : Ordering → Bool}
    (relation : (symbol, test) ∈ relations) (a b : Value) :
    applyBinary symbol a b = .ok (.bool ((order? a b).any test)) := by
  simp only [relations, List.mem_cons, Prod.mk.injEq, List.not_mem_nil, or_false] at relation
  rcases relation with ⟨rfl, rfl⟩ | ⟨rfl, rfl⟩ | ⟨rfl, rfl⟩ | ⟨rfl, rfl⟩ <;> rfl

private theorem holds_relation_iff {symbol : String} {test : Ordering → Bool}
    (relation : (symbol, test) ∈ relations) :
    Holds symbol a b ↔ ∃ order, order? a b = some order ∧ test order = true := by
  rw [Holds, applyBinary_relation relation]
  simp [Option.any_eq_true]

private theorem holds_less_iff : Holds "<" a b ↔ order? a b = some .lt := by
  rw [holds_relation_iff (.head _)]
  simp

private theorem holds_lessEqual_iff :
    Holds "<=" a b ↔ order? a b = some .lt ∨ order? a b = some .eq := by
  rw [holds_relation_iff (.tail _ (.head _))]
  constructor
  · rintro ⟨order, same, test⟩
    cases order with
    | lt => exact .inl same
    | eq => exact .inr same
    | gt => cases test
  · rintro (same | same)
    · exact ⟨_, same, rfl⟩
    · exact ⟨_, same, rfl⟩

private theorem holds_equal_iff : Holds "==" a b ↔ looseEquals a b = true := by
  have answer : applyBinary "==" a b = .ok (.bool (looseEquals a b)) := rfl
  rw [Holds, answer]
  simp

end Answers

open Value BinaryOperator

/-- The relational operators are coherent. Turning the operands around turns `<` into `>` and `<=`
into `>=`. Operands of which one is no number all operators answer false for, unless both are texts;
other operands are less, greater or tied, and `<=` denies `<` of the operands turned around. Simple
operands are tied exactly when they are loosely equal, and the order of texts is transitive. -/
theorem relational_operators_coherent (a b : Value) :
    applyBinary "<" a b = applyBinary ">" b a ∧
    applyBinary "<=" a b = applyBinary ">=" b a ∧
    (Unordered a b → ∀ symbol ∈ ["<", "<=", ">", ">="], applyBinary symbol a b = .ok (.bool false)) ∧
    (¬ Unordered a b →
      ExactlyOne (Holds "<" a b) (Holds "<" b a) (Holds "<=" a b ∧ Holds "<=" b a) ∧
      ∃ less, applyBinary "<" b a = .ok (.bool less) ∧ applyBinary "<=" a b = .ok (.bool !less)) ∧
    (a.IsSimple → b.IsSimple → (Holds "<=" a b ↔ Holds "<" a b ∨ Holds "==" a b)) ∧
    ∀ c, (∀ v ∈ [a, b, c], v.toPrimitive.kind = .string) →
      Holds "<" a b → Holds "<" b c → Holds "<" a c := by
  refine ⟨?_, ?_, ?_, ?_, ?_, ?_⟩
  · rw [applyBinary_relation (.head _), applyBinary_relation (.tail _ (.tail _ (.head _))),
      order?_swap a b]
    rcases order? a b with _ | _ | _ | _ <;> rfl
  · rw [applyBinary_relation (.tail _ (.head _)),
      applyBinary_relation (.tail _ (.tail _ (.tail _ (.head _)))), order?_swap a b]
    rcases order? a b with _ | _ | _ | _ <;> rfl
  · intro unordered symbol listed
    obtain ⟨⟨_, test⟩, relation, rfl⟩ : ∃ entry ∈ relations, symbol = entry.1 := by
      simpa [relations] using listed
    rw [applyBinary_relation relation, order?_eq_none_iff.mpr unordered]
    rfl
  · intro ordered
    rw [← order?_eq_none_iff, ← ne_eq, Option.ne_none_iff_exists'] at ordered
    obtain ⟨order, compared⟩ := ordered
    have turned := order?_swap a b
    rw [compared, Option.map_some] at turned
    refine ⟨?_, ?_⟩
    · rw [holds_less_iff, holds_less_iff, holds_lessEqual_iff, holds_lessEqual_iff, compared, turned,
        ExactlyOne]
      cases order <;> simp
    · rw [applyBinary_relation (.head _), applyBinary_relation (.tail _ (.head _)), compared, turned]
      refine ⟨_, rfl, ?_⟩
      cases order <;> rfl
  · intro left right
    rw [holds_lessEqual_iff, holds_less_iff, holds_equal_iff, order?_eq_tie_iff left right]
  · intro c texts
    obtain ⟨s, first⟩ := eq_text_of_kind (texts a (by simp))
    obtain ⟨t, second⟩ := eq_text_of_kind (texts b (by simp))
    obtain ⟨u, third⟩ := eq_text_of_kind (texts c (by simp))
    simp only [holds_less_iff, order?_texts first second, order?_texts second third,
      order?_texts first third, Option.some_inj]
    exact Std.TransCmp.lt_trans

/-- Digits in an array and in a text compare as texts; a truth value and a text that spells it tie. -/
theorem relational_operators_coherent_mixed :
    (Unordered (.text "x") (.bool true) ∧
        applyBinary ">=" (.text "x") (.bool true) = .ok (.bool false)) ∧
      (Holds "<" (.array (.ofOrigin 0) [.text "10"]) (.text "9") ∧ Holds "<" (.text "9") (.text "😀") ∧
        Holds "<" (.array (.ofOrigin 0) [.text "10"]) (.text "😀")) ∧
      ¬ Unordered (.bool true) (.text " 0x1 ") ∧ ¬ Holds "<" (.bool true) (.text " 0x1 ") ∧
      Holds "==" (.bool true) (.text " 0x1 ") ∧ Holds "<=" (.bool true) (.text " 0x1 ") ∧
      applyBinary "<" (.text " 0x1 ") (.bool true) = .ok (.bool false) := by
  obtain ⟨-, -, none, -⟩ := relational_operators_coherent (.text "x") (.bool true)
  obtain ⟨-, -, -, -, -, transitive⟩ :=
    relational_operators_coherent (.array (.ofOrigin 0) [.text "10"]) (.text "9")
  obtain ⟨-, -, -, some, simple, -⟩ := relational_operators_coherent (.bool true) (.text " 0x1 ")
  have unordered : Unordered (.text "x") (.bool true) :=
    ⟨by simp [toPrimitive, isReference, kind], .inl (by decide +kernel)⟩
  have ordered : ¬ Unordered (.bool true) (.text " 0x1 ") := by
    rintro ⟨-, one | two⟩
    · revert one
      decide +kernel
    · revert two
      decide +kernel
  have equal : Holds "==" (.bool true) (.text " 0x1 ") := by
    rw [holds_equal_iff, looseEquals_eq]
    decide +kernel
  have first : Holds "<" (.array (.ofOrigin 0) [.text "10"]) (.text "9") :=
    holds_less_iff.mpr (by decide +kernel)
  have second : Holds "<" (.text "9") (.text "😀") := holds_less_iff.mpr (by decide +kernel)
  have tied := (simple (.inl rfl) (.inr (.inr rfl))).mpr (.inr equal)
  obtain ⟨-, less, turned, denied⟩ := some ordered
  refine ⟨⟨unordered, none unordered _ (by simp)⟩, ⟨first, second, ?_⟩, ordered, ?_, equal, tied, ?_⟩
  · exact transitive _ (by simp [toPrimitive, isReference, kind]) first second
  · rw [holds_less_iff]
    decide +kernel
  · rw [Holds, denied] at tied
    cases less with
    | false => exact turned
    | true => cases tied

end ExprTree
