import ExprTree.Proofs.Arrangement
import ExprTree.Proofs.NumberText

/-!
The three equalities of values. Values are the same when they have the same identity, which keeps
the sign of zero and the content of containers out; strict equality only leaves NaN out of this.
Loose equality converts its operands first. Its rules are stated as a relation, one for each
conversion, and answer every pair of values; from the closed form follow its symmetry and that it
extends strict equality.
-/
namespace ExprTree

namespace Double

variable {x y : Double}

private theorem unsignedZero_finite (negative : Bool) {units : Nat} (fits : Representable units) :
    unsignedZero (.finite negative units fits) =
      if units = 0 then zero false else .finite negative units fits := by
  by_cases none : units = 0 <;> simp [unsignedZero, isZero, none]

/-- Numbers are equal when they differ at most in the sign of zero, but for NaN. -/
theorem eq_iff : x.eq y = true ↔ x.unsignedZero = y.unsignedZero ∧ x ≠ .nan := by
  cases x with
  | nan => simp [eq]
  | infinite s =>
    cases y with
    | nan => simp [eq, unsignedZero, isZero]
    | infinite t => simp [eq, unsignedZero, isZero]
    | finite t b fits =>
      rw [unsignedZero_finite]
      by_cases none : b = 0 <;> simp [eq, unsignedZero, isZero, zero, none]
  | finite s a first =>
    cases y with
    | nan =>
      rw [unsignedZero_finite]
      by_cases none : a = 0 <;> simp [eq, unsignedZero, isZero, zero, none]
    | infinite t =>
      rw [unsignedZero_finite]
      by_cases none : a = 0 <;> simp [eq, unsignedZero, isZero, zero, none]
    | finite t b second =>
      rw [unsignedZero_finite, unsignedZero_finite]
      simp only [eq, beq_iff_eq, ne_eq, reduceCtorEq, not_false_eq_true, and_true]
      by_cases none : a = 0 <;> by_cases other : b = 0 <;>
        cases s <;> cases t <;> simp [signed, zero, none, other] <;> omega

private theorem unsignedZero_eq_nan_iff : x.unsignedZero = .nan ↔ x = .nan := by
  unfold unsignedZero
  split
  · rename_i none
    constructor
    · intro same
      cases same
    · rintro rfl
      cases none
  · rfl

theorem isNaN_iff : x.isNaN = true ↔ x = .nan := by
  cases x <;> simp [isNaN]

end Double

namespace Value

/-- What the sameness of values looks at. -/
inductive Identity where
  | undefined
  | null
  | bool (b : Bool)
  | number (x : Double)
  | text (s : String)
  | object (ref : Ref)
  | array (ref : Ref)
  | function (code : Code)

def identity : Value → Identity
  | undefined => .undefined
  | null => .null
  | bool b => .bool b
  | number x => .number x.unsignedZero
  | text s => .text s
  | object ref _ => .object ref
  | array ref _ => .array ref
  | function f => .function f.code

variable {a b : Value}

/-- Strict equality is having the same identity, but for NaN. -/
theorem strictEquals_iff :
    strictEquals a b = true ↔ a.identity = b.identity ∧ a.identity ≠ .number .nan := by
  cases a <;> cases b <;>
    simp [strictEquals, identity, Double.eq_iff, Double.unsignedZero_eq_nan_iff]

/-- Values are the same when they have the same identity, NaN included. -/
theorem same_iff : same a b = true ↔ a.identity = b.identity := by
  by_cases numbers : ∃ x y, a = number x ∧ b = number y
  · obtain ⟨x, y, rfl, rfl⟩ := numbers
    simp only [same, identity, Identity.number.injEq, Bool.or_eq_true, Bool.and_eq_true,
      Double.isNaN_iff, Double.eq_iff]
    constructor
    · rintro (⟨rfl, rfl⟩ | ⟨equal, -⟩)
      · rfl
      · exact equal
    · intro equal
      by_cases none : x = .nan
      · subst none
        exact .inl ⟨rfl, Double.unsignedZero_eq_nan_iff.mp equal.symm⟩
      · exact .inr ⟨equal, none⟩
  · have strict : same a b = strictEquals a b := by
      unfold same
      split
      · rename_i x y
        exact absurd ⟨x, y, rfl, rfl⟩ numbers
      · rfl
    rw [strict, strictEquals_iff]
    refine ⟨And.left, fun equal => ⟨equal, fun none => numbers ?_⟩⟩
    rw [none] at equal
    cases a <;> cases b <;> simp_all [identity]

private theorem same_equivalence : Equivalence fun a b : Value => same a b = true where
  refl _ := same_iff.mpr rfl
  symm equal := same_iff.mpr (same_iff.mp equal).symm
  trans first second := same_iff.mpr ((same_iff.mp first).trans (same_iff.mp second))

private theorem strictEquals_comm (a b : Value) : strictEquals a b = strictEquals b a := by
  rw [Bool.eq_iff_iff, strictEquals_iff, strictEquals_iff]
  constructor
  · rintro ⟨equal, number⟩
    exact ⟨equal.symm, equal ▸ number⟩
  · rintro ⟨equal, number⟩
    exact ⟨equal.symm, equal ▸ number⟩

private theorem kind_eq_of_strictEquals (equal : strictEquals a b = true) : a.kind = b.kind := by
  cases a <;> cases b <;> first | rfl | cases equal

private theorem looseEquals_of_strictEquals (equal : strictEquals a b = true) :
    looseEquals a b = true := by
  rw [looseEquals_eq, if_pos (kind_eq_of_strictEquals equal), equal]

private theorem looseEquals_comm (a b : Value) : looseEquals a b = looseEquals b a := by
  have numbers : ∀ x y : Double, x.eq y = y.eq x := fun x y =>
    strictEquals_comm (number x) (number y)
  rw [looseEquals_eq, looseEquals_eq b a]
  by_cases alike : a.kind = b.kind
  · rw [if_pos alike, if_pos alike.symm, strictEquals_comm]
  · rw [if_neg alike, if_neg (Ne.symm alike), Bool.or_comm, Bool.and_comm, Bool.and_comm a.isReference]
    -- What is left compares two texts, or two numbers.
    cases a.toPrimitive <;> cases b.toPrimitive <;> simp only [numbers, BEq.comm]

/-- The rules of loose equality. Unless the kinds are equal or one side is null or undefined, one
operand is converted after the other: a boolean to its number first, then a container to its
text. -/
inductive Compares : Value → Value → Bool → Prop where
  | alike {a b : Value} (same : a.kind = b.kind) : Compares a b (strictEquals a b)
  | nullish {a b : Value} (apart : a.kind ≠ b.kind) (either : (a.isNullish || b.isNullish) = true) :
      Compares a b (a.isNullish && b.isNullish)
  | numberText (x : Double) (s : String) : Compares (number x) (text s) (x.eq (textNumber s))
  | textNumber (s : String) (x : Double) : Compares (text s) (number x) ((textNumber s).eq x)
  | boolLeft {p : Bool} {b : Value} {answer : Bool} (apart : b.kind ≠ .boolean)
      (some : b.isNullish = false) (rest : Compares (number (bool p).toNumber) b answer) :
      Compares (bool p) b answer
  | boolRight {a : Value} {q : Bool} {answer : Bool} (apart : a.kind ≠ .boolean)
      (some : a.isNullish = false) (rest : Compares a (number (bool q).toNumber) answer) :
      Compares a (bool q) answer
  | containerLeft {a b : Value} {answer : Bool} (reference : a.isReference = true)
      (simple : b.kind = .number ∨ b.kind = .string) (rest : Compares a.toPrimitive b answer) :
      Compares a b answer
  | containerRight {a b : Value} {answer : Bool} (simple : a.kind = .number ∨ a.kind = .string)
      (reference : b.isReference = true) (rest : Compares a b.toPrimitive answer) :
      Compares a b answer
  | containers {a b : Value} (apart : a.kind ≠ b.kind) (left : a.isReference = true)
      (right : b.isReference = true) : Compares a b false

private theorem isNullish_of_isReference {v : Value} (reference : v.isReference = true) :
    v.isNullish = false := by
  cases v <;> first | rfl | cases reference

private theorem simple_of_not_reference {v : Value} (some : v.isNullish = false)
    (plain : v.isReference = false) (other : ∀ p, v ≠ bool p) :
    v.kind = .number ∨ v.kind = .string := by
  cases v with
  | bool p => exact absurd rfl (other p)
  | number x => exact .inl rfl
  | text s => exact .inr rfl
  | undefined | null => cases some
  | object | array | function => cases plain

/-- The rules answer every pair of values. -/
theorem compares_looseEquals (a b : Value) : Compares a b (looseEquals a b) := by
  fun_induction looseEquals a b with
  | case1 a b alike => exact .alike alike
  | case2 a b apart either => exact .nullish apart either
  | case3 x s => exact .numberText x s
  | case4 s x => exact .textNumber s x
  | case5 p b apart neither ih =>
    exact .boolLeft (Ne.symm apart) (by simpa [isNullish] using neither) ih
  | case6 a q other apart neither ih =>
    exact .boolRight apart (by simpa [isNullish] using neither) ih
  | case7 a b _ _ _ other container apart neither ih =>
    rw [Bool.and_eq_true, Bool.not_eq_true'] at container
    rw [Bool.not_eq_true, Bool.or_eq_false_iff] at neither
    exact .containerLeft container.1 (simple_of_not_reference neither.2 container.2 other) ih
  | case8 a b _ _ other _ _ container apart neither ih =>
    rw [Bool.and_eq_true, Bool.not_eq_true'] at container
    rw [Bool.not_eq_true, Bool.or_eq_false_iff] at neither
    exact .containerRight (simple_of_not_reference neither.1 container.2 other) container.1 ih
  | case9 a b numberText textNumber notBool notBool' left right apart neither =>
    rw [Bool.not_eq_true, Bool.or_eq_false_iff] at neither
    have equal : a.isReference = b.isReference := by
      cases first : a.isReference <;> cases second : b.isReference <;> simp_all
    cases reference : a.isReference with
    | true => exact .containers apart reference (equal ▸ reference)
    | false =>
      -- Two simple values of different kinds are a number and a text.
      rcases simple_of_not_reference neither.1 reference notBool with first | first <;>
        rcases simple_of_not_reference neither.2 (equal ▸ reference) notBool' with second | second
      · exact absurd (first.trans second.symm) apart
      · cases a <;> cases first
        cases b <;> cases second
        exact (numberText _ _ rfl rfl).elim
      · cases a <;> cases first
        cases b <;> cases second
        exact (textNumber _ _ rfl rfl).elim
      · exact absurd (first.trans second.symm) apart

/-- Each rule answers as loose equality does. -/
theorem Compares.eq {answer : Bool} (compares : Compares a b answer) : answer = looseEquals a b := by
  induction compares with
  | alike same => rw [looseEquals_eq, if_pos same]
  | nullish apart either => rw [looseEquals_eq, if_neg apart, if_pos either]
  | numberText x s => simp [looseEquals, kind, isNullish]
  | textNumber s x => simp [looseEquals, kind, isNullish]
  | @boolLeft p b answer apart some rest ih =>
    have other : (bool p).kind ≠ b.kind := Ne.symm apart
    have neither : ((bool p).isNullish || b.isNullish) = false := some
    rw [ih, looseEquals.eq_def (bool p), if_neg other, if_neg (Bool.eq_false_iff.mp neither)]
  | @boolRight a q answer apart some rest ih =>
    have other : a.kind ≠ (bool q).kind := apart
    have neither : (a.isNullish || (bool q).isNullish) = false := by
      rw [some]
      rfl
    rw [ih, looseEquals.eq_def a (bool q), if_neg other, if_neg (Bool.eq_false_iff.mp neither)]
    cases a with
    | bool p => exact absurd rfl apart
    | _ => rfl
  | @containerLeft a b answer reference simple rest ih =>
    rw [ih, looseEquals.eq_def a b]
    cases a <;> cases b <;> simp_all [kind, isNullish, isReference]
  | @containerRight a b answer simple reference rest ih =>
    rw [ih, looseEquals.eq_def a b]
    cases a <;> cases b <;> simp_all [kind, isNullish, isReference]
  | @containers a b apart left right =>
    have neither : (a.isNullish || b.isNullish) = false := by
      rw [isNullish_of_isReference left, isNullish_of_isReference right]
      rfl
    rw [looseEquals_eq, if_neg apart, if_neg (Bool.eq_false_iff.mp neither),
      if_pos (Bool.and_eq_true_iff.mpr ⟨left, right⟩)]

end Value

open Value

/-- Loose equality answers every pair of values as its rules do, is symmetric, extends strict
equality and has a closed form, in which numbers are compared up to the sign of zero and NaN equals
nothing. Sameness is an equivalence on all values that extends strict equality. -/
theorem loose_equality (a b : Value) :
    (∀ answer, Compares a b answer ↔ answer = looseEquals a b) ∧
      looseEquals a b = looseEquals b a ∧
      (strictEquals a b = true → looseEquals a b = true) ∧
      (looseEquals a b =
        if a.kind = b.kind then strictEquals a b
        else if a.isNullish || b.isNullish then a.isNullish && b.isNullish
        else if a.isReference && b.isReference then false
        else
          match a.toPrimitive, b.toPrimitive with
          | text s, text t => s == t
          | p, q => p.toNumber.eq q.toNumber) ∧
      (∀ x y : Double, x.eq y = true ↔ x.unsignedZero = y.unsignedZero ∧ x ≠ .nan) ∧
      (Equivalence fun a b : Value => same a b = true) ∧
      (strictEquals a b = true → same a b = true) := by
  refine ⟨fun answer => ⟨Compares.eq, ?_⟩, looseEquals_comm a b, looseEquals_of_strictEquals,
    looseEquals_eq a b, fun x y => Double.eq_iff, same_equivalence, ?_⟩
  · rintro rfl
    exact compares_looseEquals a b
  · intro equal
    exact same_iff.mpr (strictEquals_iff.mp equal).1

/-- The two zeros are strictly equal, and a boolean is compared with an array through the numbers of
both. -/
theorem loose_equality_coerced :
    (strictEquals (number (.zero true)) (number (.zero false)) = true ∧
        looseEquals (number (.zero true)) (number (.zero false)) = true ∧
        same (number (.zero true)) (number (.zero false)) = true) ∧
      looseEquals (bool true) (array (.ofOrigin 0) [text " 0x1 "]) = true ∧
      looseEquals (array (.ofOrigin 0) [text " 0x1 "]) (bool true) = true := by
  obtain ⟨-, -, loose, -, -, -, alike⟩ :=
    loose_equality (number (.zero true)) (number (.zero false))
  obtain ⟨-, symmetric, -, closed, -⟩ :=
    loose_equality (bool true) (array (.ofOrigin 0) [text " 0x1 "])
  have zeros : strictEquals (number (.zero true)) (number (.zero false)) = true := rfl
  have coerced : looseEquals (bool true) (array (.ofOrigin 0) [text " 0x1 "]) = true := by
    rw [closed]
    decide +kernel
  exact ⟨⟨zeros, loose zeros, alike zeros⟩, coerced, symmetric ▸ coerced⟩

end ExprTree
