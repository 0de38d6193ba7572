import ExprTree.Text.Utf8

/-! Encoded text decodes to itself: every character is taken off the front with all its octets. -/
namespace ExprTree.Utf8

theorem scalar?_toNat (c : Char) : scalar? c.toNat = some c := by
  have valid : c.toNat.isValidChar := c.valid
  have same : Char.ofNatAux c.toNat valid = c := by
    have whole := Char.ofNat_toNat c
    rwa [Char.ofNat, dif_pos valid] at whole
  rw [scalar?, dif_pos valid, same]

theorem toNat_octet {n : Nat} (small : n < 256) : (UInt8.ofNat n).toNat = n := by
  simpa using Nat.mod_eq_of_lt small

theorem isTail_of_toNat {octet : UInt8} {n : Nat} (bits : octet.toNat = n % 64 + 0x80) :
    isTail octet = true := by
  simp only [isTail, UInt8.le_iff_toNat_le, UInt8.lt_iff_toNat_lt, Bool.and_eq_true,
    decide_eq_true_eq, bits, UInt8.reduceToNat]
  omega

private theorem tailBits_of_toNat {octet : UInt8} {n : Nat} (bits : octet.toNat = n % 64 + 0x80) :
    tailBits octet = n % 64 := by
  rw [tailBits, bits]
  omega

section First

variable {a b c d : UInt8} {char : Char} (rest : List UInt8) (long : ¬ a < 0x80)
include long

theorem first?_of_two (two : two? a b = some char) :
    first? (a :: b :: rest) = some (char, 1) := by
  match rest with
  | [] | [c] | c :: d :: more => simp [first?, long, two]

theorem first?_of_three (two : two? a b = none) (three : three? a b c = some char) :
    first? (a :: b :: c :: rest) = some (char, 2) := by
  match rest with
  | [] | d :: more => simp [first?, long, two, three]

theorem first?_of_four (two : two? a b = none) (three : three? a b c = none)
    (four : four? a b c d = some char) :
    first? (a :: b :: c :: d :: rest) = some (char, 3) := by
  simp [first?, long, two, three, four]

end First

section Octets

variable {x y z w : UInt8} {c : Char}

private theorem two?_eq_some (first : x.toNat = c.toNat / 64 % 0x20 + 0xc0)
    (second : y.toNat = c.toNat % 0x40 + 0x80) (least : 0x7f < c.toNat) (bound : c.toNat ≤ 0x7ff) :
    two? x y = some c := by
  have lead : (0xC2 ≤ x && x < 0xE0 && isTail y) = true := by
    simp only [UInt8.le_iff_toNat_le, UInt8.lt_iff_toNat_lt, isTail_of_toNat second, first,
      UInt8.reduceToNat, Bool.and_true, Bool.and_eq_true, decide_eq_true_eq]
    omega
  have code : (c.toNat / 64 % 0x20 + 0xc0) % 32 * 64 + c.toNat % 64 = c.toNat := by omega
  rw [two?, if_pos lead, first, tailBits_of_toNat second, code, scalar?_toNat]

private theorem two?_eq_none (wide : 0xe0 ≤ x.toNat) : two? x y = none := by
  rw [two?, if_neg]
  simp only [UInt8.lt_iff_toNat_lt, UInt8.reduceToNat, Bool.and_eq_true, decide_eq_true_eq]
  omega

private theorem three?_eq_some (first : x.toNat = c.toNat / 4096 % 0x10 + 0xe0)
    (second : y.toNat = c.toNat / 64 % 0x40 + 0x80) (third : z.toNat = c.toNat % 0x40 + 0x80)
    (least : 0x7ff < c.toNat) (bound : c.toNat ≤ 0xffff) : three? x y z = some c := by
  have code : ((c.toNat / 4096 % 0x10 + 0xe0) % 16 * 64 + c.toNat / 64 % 64) * 64 + c.toNat % 64 =
      c.toNat := by omega
  simp only [three?, first, tailBits_of_toNat second, tailBits_of_toNat third, code]
  rw [if_pos, scalar?_toNat]
  simp only [UInt8.le_iff_toNat_le, UInt8.lt_iff_toNat_lt, isTail_of_toNat second,
    isTail_of_toNat third, first, UInt8.reduceToNat, Bool.and_true, Bool.and_eq_true,
    decide_eq_true_eq]
  omega

private theorem three?_eq_none (wide : 0xf0 ≤ x.toNat) : three? x y z = none := by
  rw [three?, if_neg]
  simp only [UInt8.lt_iff_toNat_lt, UInt8.reduceToNat, Bool.and_eq_true, decide_eq_true_eq]
  omega

private theorem four?_eq_some (first : x.toNat = c.toNat / 262144 % 0x08 + 0xf0)
    (second : y.toNat = c.toNat / 4096 % 0x40 + 0x80)
    (third : z.toNat = c.toNat / 64 % 0x40 + 0x80) (fourth : w.toNat = c.toNat % 0x40 + 0x80)
    (least : 0xffff < c.toNat) : four? x y z w = some c := by
  have bound : c.toNat < 0x110000 := by
    rcases c.valid with low | high
    · exact Nat.lt_trans low (by decide)
    · exact high.2
  have code : (((c.toNat / 262144 % 0x08 + 0xf0) % 8 * 64 + c.toNat / 4096 % 64) * 64 +
      c.toNat / 64 % 64) * 64 + c.toNat % 64 = c.toNat := by omega
  simp only [four?, first, tailBits_of_toNat second, tailBits_of_toNat third,
    tailBits_of_toNat fourth, code]
  rw [if_pos, scalar?_toNat]
  simp only [UInt8.le_iff_toNat_le, UInt8.lt_iff_toNat_lt, isTail_of_toNat second,
    isTail_of_toNat third, isTail_of_toNat fourth, first, UInt8.reduceToNat, Bool.and_true,
    Bool.and_eq_true, decide_eq_true_eq]
  omega

end Octets

/-- The character at the front of its own octets. -/
theorem first?_utf8EncodeChar (c : Char) (rest : List UInt8) :
    first? (String.utf8EncodeChar c ++ rest) =
      some (c, (String.utf8EncodeChar c).length - 1) := by
  have code : c.val.toNat = c.toNat := rfl
  have long : ∀ {n : Nat}, 0x80 ≤ n → n < 256 → ¬ UInt8.ofNat n < 0x80 := by
    intro n least bound
    rw [UInt8.lt_iff_toNat_lt, toNat_octet bound]
    exact Nat.not_lt.mpr least
  unfold String.utf8EncodeChar
  simp only [code]
  split
  · rename_i small
    have octet := toNat_octet (show c.toNat < 256 by omega)
    have short : UInt8.ofNat c.toNat < 0x80 := by
      rw [UInt8.lt_iff_toNat_lt, octet]
      exact Nat.lt_succ_of_le small
    simp only [List.cons_append, first?, if_pos short, octet, scalar?_toNat]
    rfl
  · split
    · exact first?_of_two _ (long (by omega) (by omega))
        (two?_eq_some (toNat_octet (by omega)) (toNat_octet (by omega)) (by omega) (by omega))
    · split
      · refine first?_of_three _ (long (by omega) (by omega)) (two?_eq_none ?_)
          (three?_eq_some (toNat_octet (by omega)) (toNat_octet (by omega))
            (toNat_octet (by omega)) (by omega) (by omega))
        rw [toNat_octet (by omega)]
        omega
      · have wide : 0xf0 ≤ (UInt8.ofNat (c.toNat / 262144 % 0x08 + 0xf0)).toNat := by
          rw [toNat_octet (by omega)]
          omega
        exact first?_of_four _ (long (by omega) (by omega))
          (two?_eq_none (Nat.le_trans (by decide) wide)) (three?_eq_none wide)
          (four?_eq_some (toNat_octet (by omega)) (toNat_octet (by omega))
            (toNat_octet (by omega)) (toNat_octet (by omega)) (by omega))

theorem piecesAfter_append (passed rest : List UInt8) :
    piecesAfter passed.length (passed ++ rest) = piecesAfter 0 rest := by
  induction passed with
  | nil => rfl
  | cons octet more ih => exact ih

/-- Every character of an encoded text is found, and nothing else. -/
theorem pieces_encode (text : List Char) : pieces (encode text) = text.map some := by
  unfold pieces encode
  induction text with
  | nil => rfl
  | cons c text ih =>
    rw [List.flatMap_cons, List.map_cons, ← ih]
    have front := first?_utf8EncodeChar c (text.flatMap String.utf8EncodeChar)
    cases octets : String.utf8EncodeChar c with
    | nil => exact absurd octets String.utf8EncodeChar_ne_nil
    | cons octet others =>
      rw [octets, List.cons_append] at front
      rw [List.cons_append, piecesAfter, front]
      exact congrArg _ (piecesAfter_append others _)

theorem decode?_encode (text : List Char) : decode? (encode text) = some text := by
  rw [decode?, pieces_encode]
  induction text with
  | nil => rfl
  | cons c text ih => rw [List.map_cons, List.mapM_cons, ih]; rfl

/-- An encoded text decodes to itself. -/
theorem decodeLossy_encode (text : List Char) : decodeLossy (encode text) = text := by
  rw [decodeLossy, pieces_encode, List.map_map]
  exact List.map_id text

end ExprTree.Utf8
