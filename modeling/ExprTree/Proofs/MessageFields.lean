import ExprTree.Proofs.Utf8
import ExprTree.Wire.Codec
import Mathlib.Tactic.Ring

/-!
Fields of a binary message, written and read back. Each field is taken off the front with its number
and payload, and a message is gone through field by field.
-/
namespace ExprTree

namespace Varint

/-- Numbers below this bound fit in ten octets. -/
def bound : Nat := Nat.pow 2 64

private theorem read?_encode {places n : Nat} (small : n < 2 ^ (7 * places + 1))
    (rest : List UInt8) :
    read? (places + 1) (encode n ++ rest) = some (n, rest) := by
  induction places generalizing n with
  | zero =>
    have bit : n < 2 := by simpa using small
    have octet := Utf8.toNat_octet (show n < 256 by omega)
    have last : UInt8.ofNat n < 128 := by
      rw [UInt8.lt_iff_toNat_lt, octet]
      exact Nat.lt_trans bit (by decide)
    have low : ¬ 1 < UInt8.ofNat n := by
      rw [UInt8.lt_iff_toNat_lt, octet]
      exact Nat.not_lt.mpr (Nat.le_of_lt_succ bit)
    rw [encode, if_pos (by omega), List.singleton_append, read?, if_pos last,
      if_neg fun both => low both.2, octet]
  | succ places ih =>
    rw [encode]
    by_cases short : n < 128
    · have octet := Utf8.toNat_octet (show n < 256 by omega)
      have last : UInt8.ofNat n < 128 := by
        rw [UInt8.lt_iff_toNat_lt, octet]
        exact short
      rw [if_pos short, List.singleton_append, read?, if_pos last, if_neg fun both => by omega,
        octet]
    · have octet := Utf8.toNat_octet (show n % 128 + 128 < 256 by omega)
      have more : ¬ UInt8.ofNat (n % 128 + 128) < 128 := by
        rw [UInt8.lt_iff_toNat_lt, octet]
        exact Nat.not_lt.mpr (Nat.le_add_left ..)
      have high : n / 128 < 2 ^ (7 * places + 1) := by
        apply Nat.div_lt_of_lt_mul
        calc n < 2 ^ (7 * (places + 1) + 1) := small
          _ = 128 * 2 ^ (7 * places + 1) := by ring
      have whole : (n % 128 + 128) % 128 + 128 * (n / 128) = n := by omega
      rw [if_neg short, List.cons_append, read?, if_neg more, ih high, octet]
      simp only [whole]

/-- A number is taken off the front with all its octets. -/
theorem decode?_encode {n : Nat} (small : n < bound) (rest : List UInt8) :
    decode? (encode n ++ rest) = some (n, rest) :=
  @read?_encode 9 n small rest

end Varint

namespace Wire

namespace Field

private theorem take?_append (content rest : List UInt8) :
    take? content.length (content ++ rest) = some (content, rest) := by
  rw [take?, if_neg (by simp), List.take_left, List.drop_left]

private theorem length_toLittleEndian (count n : Nat) :
    (toLittleEndian count n).length = count := by
  induction count generalizing n with
  | zero => rfl
  | succ count ih => rw [toLittleEndian, List.length_cons, ih]

private theorem ofLittleEndian_toLittleEndian {count n : Nat} (small : n < 256 ^ count) :
    ofLittleEndian (toLittleEndian count n) = n := by
  induction count generalizing n with
  | zero =>
    have zero : n = 0 := by simpa using small
    rw [zero]
    rfl
  | succ count ih =>
    have high : n / 256 < 256 ^ count := by
      apply Nat.div_lt_of_lt_mul
      calc n < 256 ^ (count + 1) := small
        _ = 256 * 256 ^ count := by ring
    rw [toLittleEndian, ofLittleEndian, ih high, Utf8.toNat_octet (Nat.mod_lt n (by decide)),
      Nat.mod_add_div]

/-- The first field of a message, once its mark and its payload are read. -/
theorem scan_of_payload? {octets rest left : List UInt8} {mark : Nat} {payload : Payload}
    (read : Varint.decode? octets = some (mark, rest))
    (known : mark / 8 ≠ 0 ∧ mark / 8 ≤ lastNumber)
    (taken : payload? (mark / 8) (mark % 8) rest = some (payload, left)) :
    scan octets = (⟨mark / 8, payload⟩ :: (scan left).1, (scan left).2) := by
  have some : ¬ octets.isEmpty := by
    intro empty
    rw [List.isEmpty_iff.mp empty] at read
    cases read
  rw [scan, if_neg some]
  split
  · rename_i none
    rw [read] at none
    cases none
  · rename_i mark' rest' read'
    rw [read] at read'
    cases read'
    rw [if_neg (by omega)]
    split
    · rename_i none
      rw [taken] at none
      cases none
    · rename_i payload' left' taken'
      rw [taken] at taken'
      cases taken'
      rfl

/-- A field whose mark is written in front of its payload is read as it was written. -/
theorem scan_marked {number form : Nat} (known : 0 < number) (few : number ≤ 6) (forms : form < 8)
    {payload : Payload} {octets rest : List UInt8}
    (taken : payload? number form octets = some (payload, rest)) :
    scan (Varint.encode (number * 8 + form) ++ octets) =
      (⟨number, payload⟩ :: (scan rest).1, (scan rest).2) := by
  have small : number * 8 + form < Varint.bound :=
    Nat.lt_of_lt_of_le (show number * 8 + form < 64 by omega) (by decide)
  have numbered : (number * 8 + form) / 8 = number := by omega
  have formed : (number * 8 + form) % 8 = form := by omega
  have last : number ≤ lastNumber := Nat.le_trans few (by decide)
  have here : payload? ((number * 8 + form) / 8) ((number * 8 + form) % 8) octets =
      some (payload, rest) := by rw [numbered, formed, taken]
  rw [scan_of_payload? (Varint.decode?_encode small octets) ⟨by omega, by omega⟩ here, numbered]

section Writing

variable {number : Nat} (known : 0 < number) (few : number ≤ 6) (rest : List UInt8)
include known few

theorem scan_writeOctets {content : List UInt8} (short : content.length < Varint.bound) :
    scan (writeOctets number content ++ rest) =
      (⟨number, .octets content⟩ :: (scan rest).1, (scan rest).2) := by
  have taken : payload? number 2 (Varint.encode content.length ++ (content ++ rest)) =
      some (.octets content, rest) := by
    simp only [payload?, plain?, takeCounted?, Varint.decode?_encode short, take?_append]
    rfl
  rw [writeOctets, List.append_assoc, List.append_assoc]
  exact scan_marked known few (by decide) taken

theorem scan_writeVarint {n : Nat} (small : n < Varint.bound) :
    scan (writeVarint number n ++ rest) =
      (⟨number, .varint n⟩ :: (scan rest).1, (scan rest).2) := by
  have taken : payload? number 0 (Varint.encode n ++ rest) = some (.varint n, rest) := by
    simp only [payload?, plain?, Varint.decode?_encode small]
    rfl
  rw [writeVarint, List.append_assoc]
  exact scan_marked known few (by decide) taken

theorem scan_writeFixed {bits : Nat} (small : bits < Varint.bound) :
    scan (writeFixed number bits ++ rest) =
      (⟨number, .fixed64 bits⟩ :: (scan rest).1, (scan rest).2) := by
  have taken : payload? number 1 (toLittleEndian 8 bits ++ rest) =
      some (.fixed64 bits, rest) := by
    have cut := take?_append (toLittleEndian 8 bits) rest
    rw [length_toLittleEndian] at cut
    simp only [payload?, plain?, cut]
    rw [Option.map_some, ofLittleEndian_toLittleEndian small]
    rfl
  rw [writeFixed, List.append_assoc]
  exact scan_marked known few (by decide) taken

end Writing

end Field

/-- Going through a message takes a step for its first field and goes on with the rest. -/
theorem foldFields_of_scan {step : α → Field → Except CodecFault α} {start next : α}
    {octets rest : List UInt8} {field : Field}
    (first : Field.scan octets = (field :: (Field.scan rest).1, (Field.scan rest).2))
    (stepped : step start field = .ok next) :
    foldFields step start octets = foldFields step next rest := by
  unfold foldFields
  rw [first]
  simp only [List.foldlM_cons, stepped]
  rfl

theorem foldFields_nil (step : α → Field → Except CodecFault α) (start : α) :
    foldFields step start [] = .ok start := by
  unfold foldFields
  rw [Field.scan]
  rfl

/-- A message of one field takes one step. -/
theorem foldFields_alone {step : α → Field → Except CodecFault α} {start last : α}
    {octets : List UInt8} {field : Field}
    (one : ∀ rest, Field.scan (octets ++ rest) =
      (field :: (Field.scan rest).1, (Field.scan rest).2))
    (stepped : step start field = .ok last) : foldFields step start octets = .ok last := by
  rw [← List.append_nil octets, foldFields_of_scan (one []) stepped, foldFields_nil]

end Wire

end ExprTree
