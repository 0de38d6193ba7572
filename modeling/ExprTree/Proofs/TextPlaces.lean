import ExprTree.Operator.Binary
import ExprTree.Proofs.JsonToken
import ExprTree.Proofs.Places
import ExprTree.Proofs.TextOrder

/-!
Places of texts. A text is read by the units of its UTF-16 form, one at a place, and `+` puts these
forms one behind the other. Main statement: lengths and places of a joined text are those of its
parts, the places of a text of the basic plane spell it, and the halves of a pair cannot be read.
-/
namespace ExprTree

namespace Text

private theorem units_append (a b : String) : units (a ++ b) = units a ++ units b := by
  rw [units, String.toList_append, List.flatMap_append, units, units]

private theorem units_singleton (c : Char) : units (String.singleton c) = charUnits c := by
  rw [units, String.toList_singleton, List.flatMap_singleton]

/-- Half of a pair is no character. -/
theorem unitChar_of_surrogate {unit : Nat} (low : 0xD800 ≤ unit) (high : unit < 0xE000) :
    unitChar unit = Utf8.replacement := by
  have invalid : ¬ unit.isValidChar := by
    rintro (below | ⟨above, -⟩) <;> omega
  rw [unitChar, Utf8.scalar?, dif_neg invalid]
  rfl

/-- The units of a character outside of the basic plane are two halves. -/
theorem charUnits_of_astral {c : Char} (astral : 0x10000 ≤ c.toNat) :
    ∃ high low, charUnits c = [high, low] ∧ unitChar high = Utf8.replacement ∧
      unitChar low = Utf8.replacement := by
  have form : Utf16 [c] (charUnits c) := utf16_iff.mpr (List.flatMap_singleton ..).symm
  generalize charUnits c = units at form
  cases form with
  | basic plane => omega
  | pair first second _ more =>
    cases more
    exact ⟨_, _, rfl, unitChar_of_surrogate first.1 (by omega),
      unitChar_of_surrogate (by omega) second.2⟩

/-- In the basic plane units and characters are the same. -/
theorem map_unitChar_of_basic {text : List Char} (basic : ∀ c ∈ text, c.toNat < 0x10000) :
    (text.flatMap charUnits).map unitChar = text := by
  induction text with
  | nil => rfl
  | cons c rest ih =>
    obtain ⟨plane, later⟩ := List.forall_mem_cons.mp basic
    rw [List.flatMap_cons, charUnits_of_basic plane, List.map_append, ih later, List.map_singleton,
      Json.unitChar_toNat]
    rfl

end Text

open Text

namespace Value

/-- What the place of a unit reads as. -/
def ofUnit (unit : Nat) : Value :=
  text (String.singleton (unitChar unit))

variable {s : String}

private theorem member_length (s : String) :
    (text s).member (text "length") = .ok (number (Double.ofNat (units s).length)) :=
  rfl

private theorem member_place {place : Nat} (named : place < namedPlaces) :
    (text s).member (number (Double.ofNat place)) =
      .ok ((units s)[place]?.elim undefined ofUnit) := by
  have index : arrayIndex? (Double.ofNat place).toText = some place :=
    arrayIndex?_toText.mpr ⟨Double.isNat_ofNat (named.le.trans (by decide)), named⟩
  change memberNamed (text s) (Double.ofNat place).toText = _
  rw [memberNamed, if_neg (toText_ne_length _), index]
  rfl

/-- A place of a joined text is one of the first text, or one of the second counted from its
beginning. -/
theorem member_place_append (a b : String) {place : Nat} (named : place < namedPlaces) :
    (text (a ++ b)).member (number (Double.ofNat place)) =
      if place < (units a).length then (text a).member (number (Double.ofNat place))
      else (text b).member (number (Double.ofNat (place - (units a).length))) := by
  rw [member_place named, units_append]
  split
  · rename_i before
    rw [List.getElem?_append_left before, member_place named]
  · rename_i behind
    rw [List.getElem?_append_right (Nat.le_of_not_lt behind), member_place (by omega)]

private theorem concat_texts (a b : String) :
    applyBinary "+" (text a) (text b) = .ok (text (a ++ b)) :=
  rfl

/-- Lengths of texts are added without rounding. -/
theorem sum_lengths {m n : Nat} (small : m + n ≤ 2 ^ 53) :
    applyBinary "+" (number (Double.ofNat m)) (number (Double.ofNat n)) =
      .ok (number (Double.ofNat (m + n))) := by
  change Except.ok (number ((Double.ofNat m).add (Double.ofNat n))) = _
  rw [Double.ofNat_small (show m ≤ 2 ^ 53 by omega), Double.ofNat_small (show n ≤ 2 ^ 53 by omega),
    Double.add_finite, ← Nat.add_mul, Double.ofNat]

/-- The items of a value at its first places, put together with `+` from the empty text on. -/
def joinPlaces (v : Value) : Nat → Except Failure Value
  | 0 => .ok (text "")
  | count + 1 => do
    let front ← v.joinPlaces count
    let next ← v.member (number (Double.ofNat count))
    applyBinary "+" front next

private theorem joinPlaces_succ {v : Value} {count : Nat} {front next : String}
    (before : v.joinPlaces count = .ok (text front))
    (here : v.member (number (Double.ofNat count)) = .ok (text next)) :
    v.joinPlaces (count + 1) = .ok (text (front ++ next)) := by
  rw [joinPlaces, before, here]
  exact concat_texts front next

private theorem joinPlaces_text {count : Nat} (inside : count ≤ (units s).length)
    (named : count ≤ namedPlaces) :
    (text s).joinPlaces count =
      .ok (text (String.ofList (((units s).take count).map unitChar))) := by
  induction count with
  | zero => rfl
  | succ count ih =>
    have present : (units s)[count]? = some (units s)[count] := List.getElem?_eq_getElem inside
    have here : (text s).member (number (Double.ofNat count)) =
        .ok (text (String.singleton (unitChar (units s)[count]))) := by
      rw [member_place named, present]
      rfl
    have joined : String.ofList (((units s).take count).map unitChar) ++
        String.singleton (unitChar (units s)[count]) =
          String.ofList (((units s).take (count + 1)).map unitChar) := by
      rw [← String.toList_inj, String.toList_append, String.toList_singleton, String.toList_ofList,
        String.toList_ofList, List.take_add_one, present, List.map_append]
      rfl
    rw [joinPlaces_succ (ih (by omega) (by omega)) here, joined]

/-- A text of the basic plane has a place for each of its characters. -/
theorem length_units_of_basic (basic : ∀ c ∈ s.toList, c.toNat < 0x10000) :
    (units s).length = s.length := by
  have same := congrArg List.length (map_unitChar_of_basic basic)
  rwa [List.length_map, String.length_toList] at same

/-- The first places of a text of the basic plane spell its first characters. -/
theorem joinPlaces_of_basic (basic : ∀ c ∈ s.toList, c.toNat < 0x10000) {count : Nat}
    (inside : count ≤ s.length) (named : count ≤ namedPlaces) :
    (text s).joinPlaces count = .ok (text (String.ofList (s.toList.take count))) := by
  rw [joinPlaces_text (by rwa [length_units_of_basic basic]) named, List.map_take, units,
    map_unitChar_of_basic basic]

/-- The places of a pair inside of a text. -/
theorem member_of_astral {c : Char} (astral : 0x10000 ≤ c.toNat) (a b : String) {place : Nat}
    (half : place = (units a).length ∨ place = (units a).length + 1) (named : place < namedPlaces) :
    (text (a ++ String.singleton c ++ b)).member (number (Double.ofNat place)) =
      .ok (ofUnit 0xFFFD) := by
  obtain ⟨high, low, pair, first, second⟩ := charUnits_of_astral astral
  have whole : units (a ++ String.singleton c ++ b) = units a ++ high :: low :: units b := by
    rw [units_append, units_append, units_singleton, pair, List.append_assoc]
    rfl
  have read : ∀ unit, unitChar unit = Utf8.replacement → ofUnit unit = ofUnit 0xFFFD := by
    intro unit replaced
    rw [ofUnit, replaced]
    rfl
  rw [member_place named, whole]
  rcases half with rfl | rfl
  · rw [List.getElem?_append_right (Nat.le_refl _), Nat.sub_self, ← read high first]
    rfl
  · rw [List.getElem?_append_right (Nat.le_add_right _ 1), Nat.add_sub_cancel_left,
      ← read low second]
    rfl

end Value

open Value

/-- Texts are read by their units. A joined text is as long as its parts together, and as long as
keys can name all its places, each of them reads as the place of a part does. The places of a text
of the basic plane, put together, are the text, up to the last place that can be named. Both places
of any other character read as U+FFFD. -/
theorem joined_texts_read_by_parts :
    (∀ (a b : String) (u v : List Nat), Utf16 a.toList u → Utf16 b.toList v →
      u.length + v.length ≤ namedPlaces →
      applyBinary "+" (text a) (text b) = .ok (text (a ++ b)) ∧
      (text a).member (text "length") = .ok (number (Double.ofNat u.length)) ∧
      (text (a ++ b)).member (text "length") = (do
        let m ← (text a).member (text "length")
        let n ← (text b).member (text "length")
        applyBinary "+" m n) ∧
      ∀ place < u.length + v.length,
        (∃ c, (text (a ++ b)).member (number (Double.ofNat place)) =
          .ok (text (String.singleton c))) ∧
        (text (a ++ b)).member (number (Double.ofNat place)) =
          if place < u.length then (text a).member (number (Double.ofNat place))
          else (text b).member (number (Double.ofNat (place - u.length)))) ∧
    (∀ s : String, (∀ c ∈ s.toList, c.toNat < 0x10000) →
      (s.length ≤ namedPlaces → (text s).joinPlaces s.length = .ok (text s)) ∧
      ∀ count, count ≤ s.length → count ≤ namedPlaces →
        (text s).joinPlaces count = .ok (text (String.ofList (s.toList.take count)))) ∧
    (∀ (a b : String) (c : Char) (u : List Nat), Utf16 a.toList u → 0x10000 ≤ c.toNat →
      ∀ place < namedPlaces, place = u.length ∨ place = u.length + 1 →
        (text (a ++ String.singleton c ++ b)).member (number (Double.ofNat place)) =
          .ok (text "\uFFFD")) := by
  refine ⟨?_, ?_, ?_⟩
  · intro a b u v one two few
    rw [utf16_iff] at one two
    obtain rfl : u = units a := one
    obtain rfl : v = units b := two
    refine ⟨concat_texts a b, member_length a, ?_, fun place inside => ⟨?_, ?_⟩⟩
    · rw [member_length, member_length, member_length, units_append, List.length_append]
      exact (sum_lengths (few.trans (by decide))).symm
    · have total : place < (units (a ++ b)).length := by
        rwa [units_append, List.length_append]
      rw [member_place (inside.trans_le few), List.getElem?_eq_getElem total]
      exact ⟨_, rfl⟩
    · exact member_place_append a b (inside.trans_le few)
  · intro s basic
    refine ⟨fun few => ?_, fun count => joinPlaces_of_basic basic⟩
    rw [joinPlaces_of_basic basic (Nat.le_refl _) few, ← String.length_toList, List.take_length,
      String.ofList_toList]
  · intro a b c u form astral place named half
    obtain rfl : u = units a := utf16_iff.mp form
    exact member_of_astral astral a b half named

/-- A text with characters of one, two and three octets before a pair. -/
theorem joined_texts_read_by_parts_surrogates :
    let a := "aé"
    let b := "語😀"
    let u := [0x61, 0xE9]
    let v := [0x8A9E, 0xD83D, 0xDE00]
    Utf16 a.toList u ∧ Utf16 b.toList v ∧ u.length + v.length ≤ namedPlaces ∧
      (text (a ++ b)).member (number (Double.ofNat 2)) =
        (text b).member (number (Double.ofNat (2 - u.length))) ∧
      (∀ c ∈ "aé語".toList, c.toNat < 0x10000) ∧
      (text "aé語").joinPlaces 3 = .ok (text "aé語") ∧
      0x10000 ≤ '😀'.toNat ∧
      (text (a ++ String.singleton '😀' ++ b)).member (number (Double.ofNat 3)) =
        .ok (text "\uFFFD") := by
  intro a b u v
  obtain ⟨joined, spelled, halves⟩ := joined_texts_read_by_parts
  have one : Utf16 a.toList u := utf16_iff.mpr (by decide)
  have two : Utf16 b.toList v := utf16_iff.mpr (by decide)
  have few : u.length + v.length ≤ namedPlaces := by decide
  have basic : ∀ c ∈ "aé語".toList, c.toNat < 0x10000 := by simp
  have astral : 0x10000 ≤ '😀'.toNat := by decide
  obtain ⟨-, -, -, places⟩ := joined a b u v one two few
  have second := (places 2 (by decide)).2
  rw [if_neg (by decide)] at second
  exact ⟨one, two, few, second, basic, (spelled "aé語" basic).1 (by decide), astral,
    halves a b '😀' u one astral 3 (by decide) (.inr rfl)⟩

end ExprTree
