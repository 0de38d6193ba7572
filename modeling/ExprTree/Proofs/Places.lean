import ExprTree.Builtin.Call
import ExprTree.Proofs.Entries
import ExprTree.Proofs.IntegerText
import ExprTree.Proofs.RadixLiterals
import ExprTree.Value.Member

/-!
Keys and places. A key names a place of an array by the decimal numeral of the place, and a number
does so exactly if it is the place. Main statement: what numbers and texts stand for as keys of an
array, and that the keys and the values which are listed of an object or an array belong together
one by one.
-/
namespace ExprTree

open Double Numeral

/-- How many places keys can name. -/
def namedPlaces : Nat := 2 ^ 32 - 1

section ArrayIndex

variable {digits : List Char} {n : Nat}

/-- Only digits of the base are taken. -/
theorem digitValue_lt_of_accumulate {base bound sum : Nat}
    (read : accumulate base bound false sum digits = .ok n) :
    ∀ c ∈ digits, digitValue c < base := by
  induction digits generalizing sum with
  | nil => exact nofun
  | cons c rest ih =>
    rw [accumulate, Bool.false_and, if_neg Bool.false_ne_true] at read
    split at read
    · cases read
    · rename_i digit
      dsimp only at read
      split at read
      · cases read
      · exact List.forall_mem_cons.mpr ⟨Nat.lt_of_not_le digit, ih read⟩

/-- Decimal digits are read as their value. -/
theorem unsigned_eq_ok_iff {bound : Nat} (some : digits ≠ []) (room : 0 < bound) :
    unsigned 10 bound digits = .ok n ↔
      AllDigits digits ∧ valueOf 10 digits = n ∧ n < bound := by
  have read : unsigned 10 bound digits = accumulate 10 bound false 0 digits := by
    unfold unsigned
    rw [if_neg (by simpa using some), if_pos (by decide)]
  have whole : (∀ c ∈ digits, digitValue c < 10) → accumulate 10 bound false 0 digits =
      if valueOf 10 digits < bound then .ok (valueOf 10 digits) else .error .outOfRange :=
    fun all => accumulate_eq (by decide) all room
  rw [read]
  constructor
  · intro taken
    have all := digitValue_lt_of_accumulate taken
    rw [whole all] at taken
    split at taken
    · rename_i small
      cases taken
      exact ⟨fun c member => digitValue_lt_ten_iff.mp (all c member), rfl, small⟩
    · cases taken
  · rintro ⟨all, rfl, small⟩
    rw [whole fun c member => digitValue_lt_ten_iff.mpr (all c member), if_pos small]

private theorem arrayIndex?_of_toList {key : String} {c : Char} {rest : List Char} {place : Nat}
    (spelled : key.toList = c :: rest) :
    arrayIndex? key = some place ↔ (c = '0' → rest = []) ∧
      unsigned 10 (2 ^ 32) (c :: rest) = .ok place ∧ place ≠ 2 ^ 32 - 1 := by
  unfold arrayIndex?
  rw [spelled]
  simp only [Nat.pow_eq]
  by_cases padded : c = '0' ∧ rest ≠ []
  · rw [if_pos padded]
    exact ⟨nofun, fun ⟨plain, _⟩ => absurd (plain padded.1) padded.2⟩
  · have plain : c = '0' → rest = [] := fun zero => not_not.mp fun more => padded ⟨zero, more⟩
    rw [if_neg padded]
    cases unsigned 10 (2 ^ 32) (c :: rest) with
    | error fault => exact ⟨nofun, nofun⟩
    | ok value =>
      dsimp only
      by_cases top : value = 2 ^ 32 - 1
      · rw [if_pos top]
        refine ⟨nofun, fun ⟨_, same, below⟩ => absurd ?_ below⟩
        rw [← Except.ok.inj same, top]
      · rw [if_neg top]
        constructor
        · rintro ⟨⟩
          exact ⟨plain, rfl, top⟩
        · rintro ⟨-, ⟨⟩, -⟩
          rfl

/-- A key names a place exactly if it is the numeral of the place. -/
theorem arrayIndex?_eq_some_iff {key : String} {place : Nat} :
    arrayIndex? key = some place ↔ key = Nat.repr place ∧ place < namedPlaces := by
  rw [← String.toList_inj, Nat.toList_repr, namedPlaces]
  cases spelled : key.toList with
  | nil =>
    have nothing : arrayIndex? key = none := by
      unfold arrayIndex?
      rw [spelled]
    rw [nothing]
    exact ⟨nofun, fun ⟨same, _⟩ => absurd same.symm Nat.toDigits_ne_nil⟩
  | cons c rest =>
    rw [arrayIndex?_of_toList spelled,
      unsigned_eq_ok_iff (List.cons_ne_nil c rest) (Nat.two_pow_pos 32), eq_toDigits_iff,
      isNumeral_cons]
    constructor
    · rintro ⟨plain, ⟨all, value, small⟩, below⟩
      exact ⟨⟨⟨all, plain⟩, value⟩, by omega⟩
    · rintro ⟨⟨⟨all, plain⟩, value⟩, small⟩
      exact ⟨plain, ⟨all, value, by omega⟩, by omega⟩

/-- A number names a place exactly if it is the place. -/
theorem arrayIndex?_toText {x : Double} {place : Nat} :
    arrayIndex? x.toText = some place ↔ x.IsNat place ∧ place < namedPlaces := by
  rw [arrayIndex?_eq_some_iff]
  constructor
  · rintro ⟨text, small⟩
    exact ⟨(toText_eq_repr_iff (small.trans (by decide))).mp text, small⟩
  · rintro ⟨integer, small⟩
    exact ⟨(toText_eq_repr_iff (small.trans (by decide))).mpr integer, small⟩

theorem toText_ne_length (x : Double) : x.toText ≠ "length" := by
  intro same
  cases x with
  | nan => exact absurd same (by decide)
  | infinite negative => cases negative <;> exact absurd same (by decide)
  | finite negative units fits =>
    obtain ⟨c, text, front, start⟩ := toText_front (x := .finite negative units fits) rfl
    rw [same] at front
    obtain ⟨rfl, -⟩ := List.cons.inj front
    exact absurd start (by decide)

private theorem repr_ne_length (n : Nat) : Nat.repr n ≠ "length" := by
  intro same
  have digits := allDigits_toDigits n
  rw [← Nat.toList_repr, same] at digits
  exact absurd (digits 'l' (by decide)) (by decide)

private theorem repr_injective : Function.Injective Nat.repr := by
  intro m n same
  rw [← String.toList_inj, Nat.toList_repr, Nat.toList_repr] at same
  rw [← valueOf_toDigits m, same, valueOf_toDigits]

end ArrayIndex

namespace Value

section Array

variable {ref : Ref} {items : List Value}

private theorem memberNamed_array {key : String} (other : key ≠ "length") :
    (array ref items).memberNamed key =
      .ok (((arrayIndex? key).bind fun place => items[place]?).getD undefined) := by
  rw [memberNamed, if_neg other]

/-- In an array whose places can all be named, what names a place stands for the item there. -/
theorem memberNamed_of_place (few : items.length ≤ namedPlaces) {key : String}
    (other : key ≠ "length") {place : Nat}
    (names : ∀ p, arrayIndex? key = some p ↔ p = place ∧ p < namedPlaces) :
    (array ref items).memberNamed key = .ok (items[place]?.getD undefined) := by
  rw [memberNamed_array other]
  rcases Nat.lt_or_ge place namedPlaces with named | beyond
  · rw [(names place).mpr ⟨rfl, named⟩, Option.bind_some]
  · have unnamed : arrayIndex? key = none := by
      refine Option.eq_none_iff_forall_ne_some.mpr fun p found => ?_
      obtain ⟨rfl, named⟩ := (names p).mp found
      omega
    have outside : items[place]? = none := List.getElem?_eq_none (few.trans beyond)
    rw [unnamed, outside]
    rfl

/-- What names no place stands for nothing. -/
theorem memberNamed_of_unnamed {key : String} (other : key ≠ "length")
    (unnamed : ∀ p, arrayIndex? key ≠ some p) :
    (array ref items).memberNamed key = .ok undefined := by
  rw [memberNamed_array other, Option.eq_none_iff_forall_ne_some.mpr unnamed]
  rfl

private theorem member_of_isNat (few : items.length ≤ namedPlaces) {x : Double} {place : Nat}
    (integer : x.IsNat place) :
    (array ref items).member (number x) = .ok (items[place]?.getD undefined) := by
  refine memberNamed_of_place few (toText_ne_length x) fun p => ?_
  have only : x.IsNat p ↔ p = place := by
    refine ⟨fun other => other.unique integer, ?_⟩
    rintro rfl
    exact integer
  exact arrayIndex?_toText.trans (and_congr_left' only)

private theorem member_of_not_isNat {x : Double} (fraction : ∀ place, ¬ x.IsNat place) :
    (array ref items).member (number x) = .ok undefined :=
  memberNamed_of_unnamed (toText_ne_length x) fun place found =>
    fraction place (arrayIndex?_toText.mp found).1

private theorem member_repr (few : items.length ≤ namedPlaces) (place : Nat) :
    (array ref items).member (text (Nat.repr place)) = .ok (items[place]?.getD undefined) := by
  refine memberNamed_of_place few (repr_ne_length place) fun p => ?_
  exact arrayIndex?_eq_some_iff.trans (and_congr_left' (repr_injective.eq_iff.trans eq_comm))

private theorem member_of_ne_repr {key : String} (other : key ≠ "length")
    (unnamed : ∀ place, key ≠ Nat.repr place) :
    (array ref items).member (text key) = .ok undefined :=
  memberNamed_of_unnamed other fun place found => unnamed place (arrayIndex?_eq_some_iff.mp found).1

end Array

/-- Keys and values of which the first stand for the second in a value, place by place, where no key
comes twice. -/
structure Enumerates (v : Value) (keys values : List Value) : Prop where
  length : keys.length = values.length
  distinct : keys.Nodup
  member : ∀ (place : Nat) key value, keys[place]? = some key → values[place]? = some value →
    v.member key = .ok value

private theorem text_injective : Function.Injective text := by
  rintro _ _ ⟨⟩
  rfl

/-- Entries that were set in turn are enumerated by their keys and their values. -/
theorem enumerates_object (ref : Ref) (pairs : List (String × Value)) :
    (object ref (Entries.ofPairs pairs)).Enumerates
      ((Entries.keys (Entries.ofPairs pairs)).map text)
      (Entries.values (Entries.ofPairs pairs)) := by
  have distinct := Entries.nodup_keys_ofPairs pairs
  generalize Entries.ofPairs pairs = entries at distinct
  refine ⟨by simp [Entries.keys, Entries.values], distinct.map text_injective, ?_⟩
  intro place key value named held
  rw [Entries.keys, List.map_map, List.getElem?_map, Option.map_eq_some_iff] at named
  rw [Entries.values, List.getElem?_map, Option.map_eq_some_iff] at held
  obtain ⟨entry, here, rfl⟩ := named
  obtain ⟨same, there, rfl⟩ := held
  obtain rfl := Option.some.inj (here.symm.trans there)
  have found := Entries.get?_of_mem distinct (List.mem_of_getElem? here)
  change Except.ok ((Entries.get? entries entry.1).getD undefined) = _
  rw [found]
  rfl

/-- The keys of an array are the numerals of its places. -/
theorem enumerates_array (ref : Ref) {items : List Value} (few : items.length ≤ namedPlaces) :
    (array ref items).Enumerates
      (((List.range items.length).map fun place => (Double.ofNat place).toText).map text)
      items := by
  have numerals : (List.range items.length).map (fun place => (Double.ofNat place).toText) =
      (List.range items.length).map Nat.repr := by
    refine List.map_congr_left fun place member => ?_
    have small : place < 2 ^ 53 :=
      (List.mem_range.mp member).trans_le (few.trans (by decide))
    exact (toText_eq_repr_iff small).mpr (isNat_ofNat small.le)
  rw [numerals]
  refine ⟨by simp, ?_, ?_⟩
  · exact (List.nodup_range.map repr_injective).map text_injective
  · intro place key value named held
    obtain ⟨present, rfl⟩ := List.getElem?_eq_some_iff.mp held
    have numeral : key = text (Nat.repr place) := by
      rw [List.map_map, List.getElem?_map, List.getElem?_range present, Option.map_some] at named
      exact (Option.some.inj named).symm
    rw [numeral, member_repr few, held]
    rfl

end Value

open Value

/-- Keys and places. In an array whose places can all be named, a number stands for the item at the
place that it is, and so does the numeral of a place, and only `length` and numerals stand for
anything at all among the texts. The keys and the values that are listed of an object or an array
belong together place by place. -/
theorem keys_stand_for_places (ref : Ref) (items : List Value)
    (few : items.length ≤ namedPlaces) :
    (∀ (x : Double) place, x.IsNat place →
      (array ref items).member (number x) = .ok (items[place]?.getD undefined)) ∧
    (∀ x : Double, (∀ place, ¬ x.IsNat place) →
      (array ref items).member (number x) = .ok undefined) ∧
    (∀ place, (array ref items).member (text (Nat.repr place)) =
      .ok (items[place]?.getD undefined)) ∧
    (∃ x : Double, x.IsNat items.length ∧
      (array ref items).member (text "length") = .ok (number x)) ∧
    (∀ key, key ≠ "length" → (∀ place, key ≠ Nat.repr place) →
      (array ref items).member (text key) = .ok undefined) ∧
    ∀ v, v = array ref items ∨ (∃ pairs, v = object ref (Entries.ofPairs pairs)) →
      ∀ first second more, ∃ keys values,
        Builtin.call first .objectKeys (v :: more) = .ok (array (.ofOrigin first) keys) ∧
        Builtin.call second .objectValues (v :: more) = .ok (array (.ofOrigin second) values) ∧
        v.Enumerates keys values := by
  refine ⟨fun x place => member_of_isNat few, fun x => member_of_not_isNat, member_repr few,
    ⟨Double.ofNat items.length, isNat_ofNat (few.trans (by decide)), rfl⟩,
    fun key => member_of_ne_repr, ?_⟩
  rintro v (rfl | ⟨pairs, rfl⟩) first second more
  · exact ⟨_, _, rfl, rfl, enumerates_array ref few⟩
  · exact ⟨_, _, rfl, rfl, enumerates_object ref pairs⟩

/-- Negative zero is a place, a number below it and a padded numeral are not, and a key that was set
twice is listed once. -/
theorem keys_stand_for_places_padded :
    let ref := Ref.ofOrigin 1
    let items : List Value := [text "a", null, bool true]
    let pairs : List (String × Value) := [("b", null), ("a", bool true), ("b", text "c")]
    items.length ≤ namedPlaces ∧ (Double.zero true).IsNat 0 ∧
      (array ref items).member (number (.zero true)) = .ok (text "a") ∧
      (∀ place, ¬ (Double.ofInt (-1)).IsNat place) ∧
      (array ref items).member (number (.ofInt (-1))) = .ok undefined ∧
      (array ref items).member (text "2") = .ok (bool true) ∧
      (∃ x : Double, x.IsNat 3 ∧ (array ref items).member (text "length") = .ok (number x)) ∧
      "01" ≠ "length" ∧ (∀ place, "01" ≠ Nat.repr place) ∧
      (array ref items).member (text "01") = .ok undefined ∧
      ∃ keys values, Builtin.call 2 .objectKeys [object ref (Entries.ofPairs pairs)] =
          .ok (array (.ofOrigin 2) keys) ∧
        Builtin.call 3 .objectValues [object ref (Entries.ofPairs pairs)] =
          .ok (array (.ofOrigin 3) values) ∧
        (object ref (Entries.ofPairs pairs)).Enumerates keys values := by
  intro ref items pairs
  have few : items.length ≤ namedPlaces := by decide
  obtain ⟨numbers, others, numerals, length, keys, listed⟩ := keys_stand_for_places ref items few
  have zero : (Double.zero true).IsNat 0 := ⟨rfl, (exact_of_isZero rfl).trans Nat.cast_zero.symm⟩
  have below : ∀ place, ¬ (Double.ofInt (-1)).IsNat place := by
    rintro place ⟨-, value⟩
    rw [(ofInt_small (by decide)).2.1] at value
    have same : (-1 : Int) = place := by exact_mod_cast value
    omega
  have padded : ∀ place, "01" ≠ Nat.repr place := by
    intro place same
    have numeral := isNumeral_toDigits place
    rw [← Nat.toList_repr, ← same] at numeral
    exact absurd ((isNumeral_cons.mp numeral).2 rfl) (by decide)
  exact ⟨few, zero, numbers _ 0 zero, below, others _ below, numerals 2, length, by decide, padded,
    keys "01" (by decide) padded, listed _ (.inr ⟨pairs, rfl⟩) 2 3 []⟩

end ExprTree
