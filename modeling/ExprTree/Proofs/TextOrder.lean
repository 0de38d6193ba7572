import ExprTree.Proofs.Utf8
import ExprTree.Text.Units

/-!
The order of texts. The UTF-16 form is stated as a relation between characters and code units, under
which a text is determined by its units. Main statement: on either way of comparing them, texts
stand in the lexicographic order of their units, which is a total order; texts of one octet a
character stand in the order of their octets too.
-/
namespace ExprTree

namespace Text

/-- The UTF-16 form of a text: a character of the basic plane is its own unit, and any other is a
high and a low surrogate that share out its place behind the plane. -/
inductive Utf16 : List Char → List Nat → Prop where
  | nil : Utf16 [] []
  | basic {c : Char} {rest : List Char} {units : List Nat} (plane : c.toNat < 0x10000)
      (more : Utf16 rest units) : Utf16 (c :: rest) (c.toNat :: units)
  | pair {c : Char} {rest : List Char} {high low : Nat} {units : List Nat}
      (first : 0xD800 ≤ high ∧ high < 0xDC00) (second : 0xDC00 ≤ low ∧ low < 0xE000)
      (place : c.toNat = 0x10000 + (high - 0xD800) * 0x400 + (low - 0xDC00))
      (more : Utf16 rest units) : Utf16 (c :: rest) (high :: low :: units)

/-- A code point is no surrogate and lies in one of the seventeen planes. -/
theorem toNat_bounds (c : Char) :
    (c.toNat < 0xD800 ∨ 0xDFFF < c.toNat) ∧ c.toNat < 0x110000 := by
  rcases c.valid with low | ⟨above, high⟩
  · exact ⟨.inl low, Nat.lt_trans low (by decide)⟩
  · exact ⟨.inr above, high⟩

theorem charUnits_of_basic {c : Char} (plane : c.toNat < 0x10000) : charUnits c = [c.toNat] := by
  unfold charUnits
  exact if_pos plane

private theorem charUnits_of_pair {c : Char} {high low : Nat}
    (first : 0xD800 ≤ high ∧ high < 0xDC00)
    (second : 0xDC00 ≤ low ∧ low < 0xE000)
    (place : c.toNat = 0x10000 + (high - 0xD800) * 0x400 + (low - 0xDC00)) :
    charUnits c = [high, low] := by
  have upper : 0xD800 + (c.toNat - 0x10000) / 0x400 = high := by omega
  have lower : 0xDC00 + (c.toNat - 0x10000) % 0x400 = low := by omega
  unfold charUnits
  dsimp only
  rw [if_neg (by omega), upper, lower]

/-- Every text has one UTF-16 form. -/
theorem utf16_iff {text : List Char} {units : List Nat} :
    Utf16 text units ↔ units = text.flatMap charUnits := by
  constructor
  · intro form
    induction form with
    | nil => rfl
    | basic plane more ih =>
      rw [List.flatMap_cons, charUnits_of_basic plane, ← ih]
      rfl
    | pair first second place more ih =>
      rw [List.flatMap_cons, charUnits_of_pair first second place, ← ih]
      rfl
  · rintro rfl
    induction text with
    | nil => exact .nil
    | cons c rest ih =>
      rw [List.flatMap_cons]
      by_cases plane : c.toNat < 0x10000
      · rw [charUnits_of_basic plane]
        exact .basic plane ih
      · obtain ⟨-, bound⟩ := toNat_bounds c
        have first : 0xD800 ≤ 0xD800 + (c.toNat - 0x10000) / 0x400 ∧
            0xD800 + (c.toNat - 0x10000) / 0x400 < 0xDC00 := by omega
        have second : 0xDC00 ≤ 0xDC00 + (c.toNat - 0x10000) % 0x400 ∧
            0xDC00 + (c.toNat - 0x10000) % 0x400 < 0xE000 := by omega
        have place : c.toNat = 0x10000 + (0xD800 + (c.toNat - 0x10000) / 0x400 - 0xD800) * 0x400 +
            (0xDC00 + (c.toNat - 0x10000) % 0x400 - 0xDC00) := by omega
        rw [charUnits_of_pair first second place]
        exact .pair first second place ih

/-- A text is determined by its units: a unit that is a surrogate belongs to a pair. -/
theorem Utf16.injective {first second : List Char} {units others : List Nat}
    (one : Utf16 first units) (two : Utf16 second others) (same : units = others) :
    first = second := by
  induction one generalizing second others with
  | nil =>
    cases two with
    | nil => rfl
    | basic | pair => cases same
  | @basic c rest units plane more ih =>
    obtain ⟨apart, -⟩ := toNat_bounds c
    cases two with
    | nil => cases same
    | basic other later =>
      obtain ⟨code, tail⟩ := List.cons.inj same
      rw [Char.toNat_inj.mp code, ih later tail]
    | pair high =>
      obtain ⟨code, -⟩ := List.cons.inj same
      omega
  | @pair c rest high low units first second place more ih =>
    cases two with
    | nil => cases same
    | @basic d =>
      obtain ⟨apart, -⟩ := toNat_bounds d
      obtain ⟨code, -⟩ := List.cons.inj same
      omega
    | pair _ _ other later =>
      obtain ⟨rfl, behind⟩ := List.cons.inj same
      obtain ⟨rfl, tail⟩ := List.cons.inj behind
      rw [Char.toNat_inj.mp (place.trans other.symm), ih later tail]

private theorem units_injective {a b : String} (same : units a = units b) : a = b :=
  String.toList_inj.mp (Utf16.injective (utf16_iff.mpr rfl) (utf16_iff.mpr rfl) same)

/-- Codes are compared in the lexicographic order of lists. -/
theorem compareCodes_eq (first second : List Nat) :
    compareCodes first second = Ord.compare first second := by
  induction first generalizing second with
  | nil => cases second <;> rfl
  | cons m rest ih =>
    cases second with
    | nil => rfl
    | cons n others =>
      rw [compareCodes, List.compare_cons_cons, Nat.compare_eq_ite_lt, ih]
      split
      · rfl
      · split <;> rfl

/-- Comparing the images under a map that keeps the order is comparing what they come from. -/
theorem compare_map {α β γ : Type} [Ord β] [Ord γ] {f : α → β} {g : α → γ} {first second : List α}
    (kept : ∀ c ∈ first, ∀ d ∈ second, Ord.compare (f c) (f d) = Ord.compare (g c) (g d)) :
    Ord.compare (first.map f) (second.map f) = Ord.compare (first.map g) (second.map g) := by
  induction first generalizing second with
  | nil => cases second <;> rfl
  | cons c rest ih =>
    cases second with
    | nil => rfl
    | cons d others =>
      have tails := ih fun c one d two =>
        kept c (List.mem_cons_of_mem _ one) d (List.mem_cons_of_mem _ two)
      simp only [List.map_cons, List.compare_cons_cons, tails,
        kept c List.mem_cons_self d List.mem_cons_self]

section Ascii

variable {text : List Char} (ascii : ∀ c ∈ text, c.toNat < 0x80)
include ascii

private theorem units_of_ascii : text.flatMap charUnits = text.map Char.toNat := by
  induction text with
  | nil => rfl
  | cons c rest ih =>
    obtain ⟨small, later⟩ := List.forall_mem_cons.mp ascii
    rw [List.flatMap_cons, charUnits_of_basic (Nat.lt_trans small (by decide)), ih later]
    rfl

private theorem octets_of_ascii : Utf8.encode text = text.map fun c => UInt8.ofNat c.toNat := by
  induction text with
  | nil => rfl
  | cons c rest ih =>
    obtain ⟨small, later⟩ := List.forall_mem_cons.mp ascii
    have alone : String.utf8EncodeChar c = [UInt8.ofNat c.toNat] := by
      unfold String.utf8EncodeChar
      exact if_pos (Nat.le_of_lt_succ small)
    have front : Utf8.encode (c :: rest) = String.utf8EncodeChar c ++ Utf8.encode rest :=
      List.flatMap_cons ..
    rw [front, alone, ih later]
    rfl

end Ascii

private theorem isAscii_iff {text : String} :
    isAscii text = true ↔ ∀ c ∈ text.toList, c.toNat < 0x80 := by
  simp [isAscii]

/-- Texts are compared by their units on either way. -/
theorem compare_eq_units (a b : String) : compare a b = Ord.compare (units a) (units b) := by
  unfold compare
  split
  · rename_i ascii
    obtain ⟨one, two⟩ := Bool.and_eq_true_iff.mp ascii
    rw [compareCodes_eq, units, units, units_of_ascii (isAscii_iff.mp one),
      units_of_ascii (isAscii_iff.mp two)]
  · exact compareCodes_eq _ _

private theorem compare_octet (m n : UInt8) : Ord.compare m n = Ord.compare m.toNat n.toNat := by
  change compareOfLessAndEq m n = compareOfLessAndEq m.toNat n.toNat
  simp only [compareOfLessAndEq, UInt8.lt_iff_toNat_lt, UInt8.toNat_inj]

/-- Of characters of one octet, the octets are compared. -/
theorem compare_eq_octets {a b : String} (one : isAscii a = true) (two : isAscii b = true) :
    compare a b = Ord.compare (Utf8.encode a.toList) (Utf8.encode b.toList) := by
  rw [isAscii_iff] at one two
  rw [compare_eq_units, units, units, units_of_ascii one, units_of_ascii two, octets_of_ascii one,
    octets_of_ascii two]
  refine compare_map fun c first d second => ?_
  have small := Utf8.toNat_octet (Nat.lt_trans (one c first) (by decide))
  have other := Utf8.toNat_octet (Nat.lt_trans (two d second) (by decide))
  rw [compare_octet, small, other]

instance : Std.TransCmp compare where
  eq_swap := by
    intro a b
    rw [compare_eq_units, compare_eq_units b a]
    exact Std.OrientedCmp.eq_swap
  isLE_trans := by
    intro a b c
    simp only [compare_eq_units]
    exact Std.TransCmp.isLE_trans

instance : Std.LawfulEqCmp compare where
  compare_self := by
    intro a
    rw [compare_eq_units]
    exact Std.ReflCmp.compare_self
  eq_of_compare := by
    intro a b same
    rw [compare_eq_units] at same
    exact units_injective (Std.LawfulEqCmp.eq_of_compare same)

end Text

open Text

/-- The order of texts. Whichever way they are compared, texts stand in the lexicographic order of
the code units of their UTF-16 forms, and texts of one octet a character also in that of their
octets. The order is total: turned around it is reversed, it is transitive, and only a text is
equal to itself. -/
theorem texts_ordered_by_units (a b : String) :
    (∃ u v, (∀ units, Utf16 a.toList units ↔ units = u) ∧ (∀ units, Utf16 b.toList units ↔ units = v) ∧
      Text.compare a b = Ord.compare u v) ∧
    (isAscii a = true → isAscii b = true →
      Text.compare a b = Ord.compare (Utf8.encode a.toList) (Utf8.encode b.toList)) ∧
    Text.compare b a = (Text.compare a b).swap ∧
    (∀ c, (Text.compare a b).isLE → (Text.compare b c).isLE → (Text.compare a c).isLE) ∧
    (∀ c, Text.compare a b = .lt → Text.compare b c = .lt → Text.compare a c = .lt) ∧
    (Text.compare a b = .eq ↔ a = b) := by
  refine ⟨⟨units a, units b, fun _ => utf16_iff, fun _ => utf16_iff, compare_eq_units a b⟩,
    compare_eq_octets, Std.OrientedCmp.eq_swap, fun c => Std.TransCmp.isLE_trans,
    fun c => Std.TransCmp.lt_trans, Std.LawfulEqCmp.compare_eq_iff_eq⟩

/-- A pair of surrogates comes before the end of the basic plane, although its code point and its
octets come after. -/
theorem texts_ordered_by_units_surrogates :
    Text.compare "a" "😀" = .lt ∧ Text.compare "😀" "\uFFFD" = .lt ∧
      Text.compare "a" "\uFFFD" = .lt ∧ Text.compare "\uFFFD" "😀" = .gt ∧
      Text.compare "a" "ab" = Ord.compare (Utf8.encode ['a']) (Utf8.encode ['a', 'b']) := by
  obtain ⟨-, -, -, -, transitive, -⟩ := texts_ordered_by_units "a" "😀"
  obtain ⟨-, -, reversed, -⟩ := texts_ordered_by_units "😀" "\uFFFD"
  obtain ⟨-, octets, -⟩ := texts_ordered_by_units "a" "ab"
  have first : Text.compare "a" "😀" = .lt := by decide +kernel
  have second : Text.compare "😀" "\uFFFD" = .lt := by decide +kernel
  refine ⟨first, second, transitive _ first second, ?_, octets rfl rfl⟩
  rw [reversed, second]
  rfl

end ExprTree
