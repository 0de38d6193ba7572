import ExprTree.Proofs.Utf8

/-!
Where characters stand in octets. Octets decode to a text exactly if they are its encoding, and an
encoded text comes apart only between two characters: before an octet that continues none.
-/
namespace ExprTree

/-- Whatever a table of characters is checked for holds of its members. -/
theorem forall_mem_of_all {p : Char → Prop} [DecidablePred p] {table : List Char}
    (checked : table.all (fun c => p c) = true) : ∀ c ∈ table, p c := by
  simpa using checked

section Items

variable {α β : Type} {read : α → Option β} {items : List α} {found : List β}

theorem mapM_eq_some_iff : items.mapM read = some found ↔ items.map read = found.map some := by
  induction items generalizing found with
  | nil => cases found <;> simp
  | cons item items ih =>
    cases found with
    | nil => simp [Option.bind_eq_some_iff]
    | cons first found => simp [Option.bind_eq_some_iff, ← ih]

theorem length_of_mapM (all : items.mapM read = some found) : items.length = found.length := by
  simpa using congrArg List.length (mapM_eq_some_iff.mp all)

/-- A list is read exactly if each of its items is. -/
theorem isSome_mapM_iff :
    (items.mapM read).isSome = true ↔ ∀ item ∈ items, (read item).isSome = true := by
  induction items with
  | nil => simp
  | cons item items ih =>
    rw [List.forall_mem_cons, ← ih, List.mapM_cons]
    cases read item with
    | none => simp
    | some first => cases items.mapM read <;> simp

end Items

namespace Utf8

private theorem toNat_of_scalar? {code : Nat} {c : Char} (found : scalar? code = some c) :
    c.toNat = code := by
  by_cases valid : code.isValidChar
  · rw [scalar?, dif_pos valid] at found
    cases found
    rfl
  · rw [scalar?, dif_neg valid] at found
    cases found

theorem scalar?_eq_ofNat {code : Nat} (valid : code.isValidChar) :
    scalar? code = some (Char.ofNat code) := by
  rw [scalar?, Char.ofNat, dif_pos valid, dif_pos valid]

private theorem isTail_iff {octet : UInt8} :
    isTail octet = true ↔ 0x80 ≤ octet.toNat ∧ octet.toNat < 0xC0 := by
  simp [isTail, UInt8.le_iff_toNat_le, UInt8.lt_iff_toNat_lt]

theorem ofNat_of_toNat (octet : UInt8) {n : Nat} (same : n = octet.toNat) :
    UInt8.ofNat n = octet := by
  rw [same, UInt8.ofNat_toNat]

section Found

variable {a b c d : UInt8} {char : Char}

private theorem utf8EncodeChar_of_two? (two : two? a b = some char) :
    String.utf8EncodeChar char = [a, b] := by
  unfold two? at two
  split at two
  · rename_i lead
    simp only [UInt8.le_iff_toNat_le, UInt8.lt_iff_toNat_lt, Bool.and_eq_true, decide_eq_true_eq,
      isTail_iff, UInt8.reduceToNat] at lead
    have code : char.val.toNat = _ := toNat_of_scalar? two
    unfold tailBits at code
    unfold String.utf8EncodeChar
    dsimp only
    rw [if_neg (by omega), if_pos (by omega), ofNat_of_toNat a (by omega),
      ofNat_of_toNat b (by omega)]
  · cases two

private theorem utf8EncodeChar_of_three? (three : three? a b c = some char) :
    String.utf8EncodeChar char = [a, b, c] := by
  unfold three? at three
  dsimp only at three
  split at three
  · rename_i lead
    simp only [UInt8.le_iff_toNat_le, UInt8.lt_iff_toNat_lt, Bool.and_eq_true, decide_eq_true_eq,
      isTail_iff, UInt8.reduceToNat] at lead
    have code : char.val.toNat = _ := toNat_of_scalar? three
    unfold tailBits at code lead
    unfold String.utf8EncodeChar
    dsimp only
    rw [if_neg (by omega), if_neg (by omega), if_pos (by omega), ofNat_of_toNat a (by omega),
      ofNat_of_toNat b (by omega), ofNat_of_toNat c (by omega)]
  · cases three

private theorem utf8EncodeChar_of_four? (four : four? a b c d = some char) :
    String.utf8EncodeChar char = [a, b, c, d] := by
  unfold four? at four
  dsimp only at four
  split at four
  · rename_i lead
    simp only [UInt8.le_iff_toNat_le, UInt8.lt_iff_toNat_lt, Bool.and_eq_true, decide_eq_true_eq,
      isTail_iff, UInt8.reduceToNat] at lead
    have code : char.val.toNat = _ := toNat_of_scalar? four
    unfold tailBits at code lead
    unfold String.utf8EncodeChar
    dsimp only
    rw [if_neg (by omega), if_neg (by omega), if_neg (by omega), ofNat_of_toNat a (by omega),
      ofNat_of_toNat b (by omega), ofNat_of_toNat c (by omega),
      ofNat_of_toNat d (by omega)]
  · cases four

theorem utf8EncodeChar_of_short (short : a < 0x80) (one : scalar? a.toNat = some char) :
    String.utf8EncodeChar char = [a] := by
  have code : char.val.toNat = _ := toNat_of_scalar? one
  simp only [UInt8.lt_iff_toNat_lt, UInt8.reduceToNat] at short
  unfold String.utf8EncodeChar
  dsimp only
  rw [if_pos (by omega), ofNat_of_toNat a code]

end Found

/-- A character found at the front stands there with all its octets. The forms are tried from the
shortest on, each only where the one before it fails. -/
theorem exists_of_first? {octets : List UInt8} {char : Char} {more : Nat}
    (found : first? octets = some (char, more)) :
    ∃ rest, octets = String.utf8EncodeChar char ++ rest ∧
      (String.utf8EncodeChar char).length = more + 1 := by
  cases octets with
  | nil => cases found
  | cons a rest =>
  by_cases short : a < 0x80
  · simp only [first?, if_pos short, Option.map_eq_some_iff, Prod.mk.injEq] at found
    obtain ⟨_, one, rfl, rfl⟩ := found
    exact ⟨rest, by simp [utf8EncodeChar_of_short short one]⟩
  cases rest with
  | nil => simp [first?, short] at found
  | cons b rest =>
  cases two : two? a b with
  | some =>
    cases (first?_of_two rest short two).symm.trans found
    exact ⟨rest, by simp [utf8EncodeChar_of_two? two]⟩
  | none =>
  cases rest with
  | nil => simp [first?, short, two] at found
  | cons c rest =>
  cases three : three? a b c with
  | some =>
    cases (first?_of_three rest short two three).symm.trans found
    exact ⟨rest, by simp [utf8EncodeChar_of_three? three]⟩
  | none =>
  cases rest with
  | nil => simp [first?, short, two, three] at found
  | cons d rest =>
  cases four : four? a b c d with
  | some =>
    cases (first?_of_four rest short two three four).symm.trans found
    exact ⟨rest, by simp [utf8EncodeChar_of_four? four]⟩
  | none => simp [first?, short, two, three, four] at found

theorem encode_cons (c : Char) (text : List Char) :
    encode (c :: text) = String.utf8EncodeChar c ++ encode text :=
  List.flatMap_cons

theorem encode_append (first second : List Char) :
    encode (first ++ second) = encode first ++ encode second :=
  List.flatMap_append

/-- Octets whose pieces are all characters encode these. -/
theorem eq_encode_of_pieces {octets : List UInt8} {text : List Char}
    (found : pieces octets = text.map some) : octets = encode text := by
  induction text generalizing octets with
  | nil =>
    cases octets with
    | nil => rfl
    | cons octet rest =>
      rw [pieces, piecesAfter] at found
      split at found <;> cases found
  | cons c text ih =>
    cases octets with
    | nil => cases found
    | cons octet rest =>
      rw [pieces, piecesAfter] at found
      split at found
      · rename_i char more front
        obtain ⟨same, later⟩ := List.cons.inj found
        cases same
        obtain ⟨tail, whole, size⟩ := exists_of_first? front
        cases own : String.utf8EncodeChar c with
        | nil => exact absurd own String.utf8EncodeChar_ne_nil
        | cons lead others =>
          rw [own, List.cons_append] at whole
          obtain ⟨rfl, passed⟩ := List.cons.inj whole
          obtain rfl : others.length = more := by simpa [own] using size
          rw [passed, piecesAfter_append] at later
          rw [encode_cons, own, ← ih later]
          exact whole
      · cases found

/-- A text is decoded from its encoding and from no other octets. -/
theorem decode?_eq_some_iff {octets : List UInt8} {text : List Char} :
    decode? octets = some text ↔ octets = encode text := by
  constructor
  · intro decoded
    apply eq_encode_of_pieces
    rw [decode?, mapM_eq_some_iff, List.map_id] at decoded
    exact decoded
  · rintro rfl
    exact decode?_encode text

/-- The first octet of a character continues none, and all the others do. -/
theorem utf8EncodeChar_tails (c : Char) :
    ∃ lead others, String.utf8EncodeChar c = lead :: others ∧ isTail lead = false ∧
      ∀ octet ∈ others, isTail octet = true := by
  have tail : ∀ n, isTail (UInt8.ofNat (n % 64 + 128)) = true := fun n =>
    isTail_of_toNat (toNat_octet (by omega))
  have head : ∀ n, n < 0x80 ∨ 0xC0 ≤ n → n < 256 → isTail (UInt8.ofNat n) = false := by
    intro n apart bound
    rw [Bool.eq_false_iff, Ne, isTail_iff, toNat_octet bound]
    omega
  unfold String.utf8EncodeChar
  dsimp only
  split
  · exact ⟨_, _, rfl, head _ (by omega) (by omega), by simp⟩
  · split
    · exact ⟨_, _, rfl, head _ (by omega) (by omega), by simp [tail, -UInt8.ofNat_add]⟩
    · split
      · exact ⟨_, _, rfl, head _ (by omega) (by omega), by simp [tail, -UInt8.ofNat_add]⟩
      · exact ⟨_, _, rfl, head _ (by omega) (by omega), by simp [tail, -UInt8.ofNat_add]⟩

/-- No character continues at the front of these octets. -/
def StartsFresh (octets : List UInt8) : Prop :=
  ∀ octet, octets.head? = some octet → isTail octet = false

theorem startsFresh_utf8EncodeChar (c : Char) (rest : List UInt8) :
    StartsFresh (String.utf8EncodeChar c ++ rest) := by
  obtain ⟨lead, others, own, fresh, -⟩ := utf8EncodeChar_tails c
  rw [own]
  rintro octet ⟨⟩
  exact fresh

/-- A character at the front of an encoded text is the first one of the text. -/
theorem encode_eq_append {c : Char} {back : List UInt8} {text : List Char}
    (joined : encode text = String.utf8EncodeChar c ++ back) :
    ∃ rest, text = c :: rest ∧ encode rest = back := by
  cases text with
  | nil =>
    obtain ⟨lead, others, own, -⟩ := utf8EncodeChar_tails c
    rw [own] at joined
    cases joined
  | cons d rest =>
    rw [encode_cons] at joined
    have front := congrArg first? joined
    rw [first?_utf8EncodeChar, first?_utf8EncodeChar] at front
    obtain rfl : d = c := by
      injection front with both
      exact congrArg Prod.fst both
    exact ⟨rest, rfl, List.append_cancel_left joined⟩

/-- An encoded text comes apart before an octet that continues no character, since a character that
went on behind the cut would put such an octet there. -/
theorem exists_of_encode_eq_append {front back : List UInt8} {text : List Char}
    (fresh : StartsFresh back) (joined : encode text = front ++ back) :
    ∃ first second, text = first ++ second ∧ encode first = front ∧ encode second = back := by
  induction text generalizing front with
  | nil =>
    obtain ⟨rfl, rfl⟩ := List.append_eq_nil_iff.mp joined.symm
    exact ⟨[], [], rfl, rfl, rfl⟩
  | cons c text ih =>
    cases front with
    | nil => exact ⟨[], c :: text, rfl, rfl, joined⟩
    | cons octet front =>
      obtain ⟨lead, others, own, -, tails⟩ := utf8EncodeChar_tails c
      rw [encode_cons, own] at joined
      obtain ⟨rfl, later⟩ := List.cons.inj joined
      have whole : ∃ more, front = others ++ more ∧ encode text = more ++ back := by
        rcases List.append_eq_append_iff.mp later with contained | ⟨cut, rfl, begun⟩
        · exact contained
        · cases cut with
          | nil => exact ⟨[], by simp, begun.symm⟩
          | cons octet cut =>
            have continued := tails octet (by simp)
            rw [fresh octet (by rw [begun]; rfl)] at continued
            cases continued
      obtain ⟨more, rfl, tail⟩ := whole
      obtain ⟨first, second, rfl, rfl, rfl⟩ := ih tail
      refine ⟨c :: first, second, rfl, ?_, rfl⟩
      rw [encode_cons, own, List.cons_append]

end Utf8

end ExprTree
