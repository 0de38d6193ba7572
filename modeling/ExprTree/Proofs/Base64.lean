import ExprTree.Proofs.OctetBoundaries
import ExprTree.Text.Base64

/-!
Texts in base64. Octets are written as letters of the alphabet and the padding that completes their
last group, and the letters alone give them back. Main statements: a text of octets reads back from
its letters, with or without padding and with blanks anywhere, and a text is read exactly if, blanks
apart, it is letters of the alphabet that leave no single letter over, with any padding behind them.
-/
namespace ExprTree.Base64

def alphabet : List Char :=
  "ABCDEFGHIJKLMNOPQRSTUVWXYZabcdefghijklmnopqrstuvwxyz0123456789+/".toList

/-- The white space that may stand anywhere. -/
def blanks : List Char :=
  [' ', '\t', '\n', '\x0c', '\r']

/-- A text with blanks put in anywhere. -/
inductive Spaced : List Char → List Char → Prop where
  | nil : Spaced [] []
  | keep {c : Char} {text spread : List Char} (more : Spaced text spread) :
      Spaced (c :: text) (c :: spread)
  | blank {b : Char} {text spread : List Char} (space : b ∈ blanks) (more : Spaced text spread) :
      Spaced text (b :: spread)

def padding (count : Nat) : List Char :=
  List.replicate count '='

/-- The padding that makes the last group of letters one of four: none, one or two. -/
def Completes (letters : List Char) (count : Nat) : Prop :=
  count ≤ 2 ∧ (letters.length + count) % 4 = 0

/-- Letters of the alphabet in groups of four, the last of which is no single letter. -/
def IsBody (letters : List Char) : Prop :=
  (∀ c ∈ letters, c ∈ alphabet) ∧ letters.length % 4 ≠ 1

/-- Letters without padding, or with exactly the one or two that complete them. -/
def Forgiving (text : List Char) : Prop :=
  ∃ letters count, text = letters ++ padding count ∧ IsBody letters ∧
    (count = 0 ∨ Completes letters count)

/-- Letters behind which there is padding that does not complete them. -/
def Mispadded (text : List Char) : Prop :=
  ∃ letters count, text = letters ++ padding count ∧ IsBody letters ∧
    count ≠ 0 ∧ ¬ Completes letters count

section Letters

private theorem letter_spec : ∀ n < 64, letter n ∈ alphabet ∧ value? (letter n) = some n := by
  decide +kernel

private theorem alphabet_spec : ∀ c ∈ alphabet, c ≠ '=' ∧ c ∉ blanks :=
  forall_mem_of_all (by decide +kernel)

private theorem toNat_of_value? {c : Char} {n : Nat} (found : value? c = some n) :
    c.toNat < 0x80 := by
  unfold value? at found
  split at found
  · rename_i upper
    exact Nat.lt_of_le_of_lt (show c.toNat ≤ 'Z'.toNat from upper.2) (by decide)
  split at found
  · rename_i lower
    exact Nat.lt_of_le_of_lt (show c.toNat ≤ 'z'.toNat from lower.2) (by decide)
  split at found
  · rename_i digit
    exact Nat.lt_of_le_of_lt (show c.toNat ≤ '9'.toNat from digit.2) (by decide)
  split at found
  · rename_i plus
    rw [plus]
    decide
  split at found
  · rename_i slash
    rw [slash]
    decide
  · cases found

private theorem isSome_value?_iff {c : Char} : (value? c).isSome = true ↔ c ∈ alphabet := by
  constructor
  · intro valued
    have table : ∀ code < 0x80, (value? (Char.ofNat code)).isSome = true →
        Char.ofNat code ∈ alphabet := by
      decide +kernel
    obtain ⟨n, found⟩ := Option.isSome_iff_exists.mp valued
    have member := table c.toNat (toNat_of_value? found)
    rw [Char.ofNat_toNat] at member
    exact member valued
  · have table : ∀ c ∈ alphabet, (value? c).isSome = true := forall_mem_of_all (by decide +kernel)
    exact table c

private theorem decode?_letters {values : List Nat} (small : ∀ v ∈ values, v < 64) :
    decode? (values.map letter) = octets? values := by
  have read : (values.map letter).mapM value? = some values := by
    rw [mapM_eq_some_iff, List.map_map]
    exact List.map_congr_left fun v member => (letter_spec v (small v member)).2
  rw [decode?, read, Option.bind_some]

/-- Letter values give octets unless a single one is left over. -/
theorem octets?_eq_none_iff (values : List Nat) :
    octets? values = none ↔ values.length % 4 = 1 := by
  fun_induction octets? values with
  | case1 | case2 | case3 | case4 => simp
  | case5 a b c d rest ih =>
    rw [Option.map_eq_none_iff, ih]
    simp only [List.length_cons]
    omega

private theorem isSome_decode?_iff {text : List Char} :
    (decode? text).isSome = true ↔ IsBody text := by
  have letters : (text.mapM value?).isSome = true ↔ ∀ c ∈ text, c ∈ alphabet :=
    isSome_mapM_iff.trans (forall₂_congr fun c _ => isSome_value?_iff)
  rw [decode?, IsBody, ← letters]
  cases read : text.mapM value? with
  | none => simp
  | some values =>
    rw [Option.bind_some, Option.isSome_iff_ne_none, Ne, octets?_eq_none_iff, length_of_mapM read]
    simp

/-- Octets are written as letters with the padding that completes them. -/
theorem exists_letters {octets : List Nat} (bounded : ∀ n ∈ octets, n < 256) :
    ∃ values count, encode octets = values.map letter ++ padding count ∧ (∀ v ∈ values, v < 64) ∧
      Completes (values.map letter) count ∧ octets? values = some octets := by
  fun_induction encode octets with
  | case1 => exact ⟨[], 0, rfl, nofun, ⟨by decide, rfl⟩, rfl⟩
  | case2 a =>
    have first := bounded a (by simp)
    have back : a / 4 * 4 + a % 4 * 16 / 16 = a := by omega
    refine ⟨[a / 4, a % 4 * 16], 2, rfl, ?_, ⟨by decide, by simp⟩, by simp only [octets?, back]⟩
    simp only [List.forall_mem_cons]
    exact ⟨by omega, by omega, nofun⟩
  | case3 a b =>
    have first := bounded a (by simp)
    have second := bounded b (by simp)
    have back : a / 4 * 4 + (a % 4 * 16 + b / 16) / 16 = a ∧
        (a % 4 * 16 + b / 16) % 16 * 16 + b % 16 * 4 / 4 = b := by omega
    refine ⟨[a / 4, a % 4 * 16 + b / 16, b % 16 * 4], 1, rfl, ?_, ⟨by decide, by simp⟩,
      by simp only [octets?, back]⟩
    simp only [List.forall_mem_cons]
    exact ⟨by omega, by omega, by omega, nofun⟩
  | case4 a b c rest ih =>
    have first := bounded a (by simp)
    have second := bounded b (by simp)
    have third := bounded c (by simp)
    have back : a / 4 * 4 + (a % 4 * 16 + b / 16) / 16 = a ∧
        (a % 4 * 16 + b / 16) % 16 * 16 + (b % 16 * 4 + c / 64) / 4 = b ∧
        (b % 16 * 4 + c / 64) % 4 * 64 + c % 64 = c := by omega
    obtain ⟨values, count, encoded, small, ⟨few, groups⟩, read⟩ :=
      ih fun n member => bounded n (by simp [member])
    refine ⟨a / 4 :: (a % 4 * 16 + b / 16) :: (b % 16 * 4 + c / 64) :: c % 64 :: values, count,
      by simp [encoded], ?_, ⟨few, ?_⟩, by simp only [octets?, read, Option.map_some, back]⟩
    · simp only [List.forall_mem_cons]
      exact ⟨by omega, by omega, by omega, by omega, small⟩
    · simp only [List.map_cons, List.length_cons] at groups ⊢
      omega

end Letters

section Padding

/-- The text up to the padding at its end. -/
def unpadded (text : List Char) : List Char :=
  (text.reverse.dropWhile (· == '=')).reverse

private theorem exists_padding (text : List Char) :
    ∃ count, text = unpadded text ++ padding count := by
  have all : ∀ c ∈ (text.reverse.takeWhile (· == '=')).reverse, c = '=' := by
    intro c member
    simpa using List.all_eq_true.mp List.all_takeWhile c (List.mem_reverse.mp member)
  refine ⟨(text.reverse.takeWhile (· == '=')).reverse.length, ?_⟩
  rw [padding, ← List.eq_replicate_of_mem all, unpadded, ← List.reverse_append,
    List.takeWhile_append_dropWhile, List.reverse_reverse]

private theorem unpadded_append {letters : List Char} (all : ∀ c ∈ letters, c ∈ alphabet)
    (count : Nat) :
    unpadded (letters ++ padding count) = letters := by
  have stop : letters.reverse.dropWhile (· == '=') = letters.reverse := by
    cases turned : letters.reverse with
    | nil => rfl
    | cons c rest =>
      have member : c ∈ letters := List.mem_reverse.mp (by simp [turned])
      simp [(alphabet_spec c (all c member)).1]
  rw [unpadded, padding, List.reverse_append, List.reverse_replicate,
    List.dropWhile_append_of_pos (by simp), stop, List.reverse_reverse]

/-- Letters and the number of padding signs behind them are determined by the text. -/
theorem padding_unique {letters others : List Char} {count number : Nat}
    (all : ∀ c ∈ letters, c ∈ alphabet) (each : ∀ c ∈ others, c ∈ alphabet)
    (same : letters ++ padding count = others ++ padding number) :
    letters = others ∧ count = number := by
  have bodies := congrArg unpadded same
  rw [unpadded_append all, unpadded_append each] at bodies
  subst bodies
  have sizes := congrArg List.length (List.append_cancel_left same)
  exact ⟨rfl, by simpa [padding] using sizes⟩

private theorem forgiving_or_mispadded_iff {text : List Char} :
    Forgiving text ∨ Mispadded text ↔ ∃ letters count, text = letters ++ padding count ∧
      IsBody letters := by
  constructor
  · rintro (⟨letters, count, whole, body, -⟩ | ⟨letters, count, whole, body, -⟩)
    · exact ⟨letters, count, whole, body⟩
    · exact ⟨letters, count, whole, body⟩
  · rintro ⟨letters, count, whole, body⟩
    by_cases fits : count = 0 ∨ Completes letters count
    · exact .inl ⟨letters, count, whole, body, fits⟩
    · exact .inr ⟨letters, count, whole, body, not_or.mp fits⟩

theorem Mispadded.not_forgiving {text : List Char} (wrong : Mispadded text) : ¬ Forgiving text := by
  obtain ⟨letters, count, rfl, body, some, incomplete⟩ := wrong
  rintro ⟨others, number, same, other, fits⟩
  obtain ⟨rfl, rfl⟩ := padding_unique body.1 other.1 same
  exact fits.elim some incomplete

end Padding

section Blanks

def withoutBlanks (text : List Char) : List Char :=
  text.filter fun c => c ∉ blanks

theorem isBlank_iff {c : Char} : isBlank c = true ↔ c ∈ blanks := by
  simp [isBlank, blanks, or_assoc]

private theorem withoutBlanks_eq (text : List Char) :
    withoutBlanks text = text.filter fun c => !isBlank c := by
  refine List.filter_congr fun c _ => ?_
  rw [Bool.eq_iff_iff]
  simp [← isBlank_iff]

private theorem Spaced.withoutBlanks_eq {text spread : List Char} (spaced : Spaced text spread) :
    withoutBlanks spread = withoutBlanks text := by
  induction spaced with
  | nil => rfl
  | keep more ih =>
    simp only [withoutBlanks, List.filter_cons] at ih ⊢
    rw [ih]
  | blank space more ih =>
    rw [← ih]
    simp [withoutBlanks, space]

theorem Spaced.refl (text : List Char) : Spaced text text := by
  induction text with
  | nil => exact .nil
  | cons c text ih => exact .keep ih

private theorem withoutBlanks_letters {letters : List Char} (all : ∀ c ∈ letters, c ∈ alphabet)
    (count : Nat) : withoutBlanks (letters ++ padding count) = letters ++ padding count := by
  refine List.filter_eq_self.mpr fun c member => decide_eq_true ?_
  rcases List.mem_append.mp member with letter | pad
  · exact (alphabet_spec c (all c letter)).2
  · rw [List.eq_of_mem_replicate pad]
    decide

end Blanks

section Texts

private theorem toText?_eq (text : String) :
    toText? text = (decode? (unpadded (withoutBlanks text.toList))).map fun octets =>
      String.ofList (octets.map Char.ofNat) := by
  rw [withoutBlanks_eq]
  rfl

/-- Which texts are read. -/
theorem isSome_toText?_iff {text : String} :
    (toText? text).isSome = true ↔
      Forgiving (withoutBlanks text.toList) ∨ Mispadded (withoutBlanks text.toList) := by
  rw [toText?_eq, Option.isSome_map, isSome_decode?_iff, forgiving_or_mispadded_iff]
  constructor
  · intro body
    obtain ⟨count, whole⟩ := exists_padding (withoutBlanks text.toList)
    exact ⟨_, count, whole, body⟩
  · rintro ⟨letters, count, whole, body⟩
    rw [whole, unpadded_append body.1]
    exact body

private theorem latin?_eq {text : String} (narrow : ∀ c ∈ text.toList, c.toNat ≤ 0xFF) :
    latin? text = some (text.toList.map Char.toNat) := by
  rw [latin?, mapM_eq_some_iff, List.map_map]
  exact List.map_congr_left fun c member => if_pos (narrow c member)

theorem isSome_ofText?_iff {text : String} :
    (ofText? text).isSome = true ↔ ∀ c ∈ text.toList, c.toNat ≤ 0xFF := by
  rw [ofText?, Option.isSome_map, latin?, isSome_mapM_iff]
  refine forall₂_congr fun c _ => ?_
  by_cases narrow : c.toNat ≤ 0xFF <;> simp [narrow]

/-- A text of octets is written as letters that, blanks and padding apart, are read as the text. -/
theorem exists_of_ofText? {text encoded : String} (written : ofText? text = some encoded) :
    ∃ letters count, encoded = String.ofList (letters ++ padding count) ∧
      (∀ c ∈ letters, c ∈ alphabet) ∧ Completes letters count ∧
      ∀ (number : Nat) (spread : String), Spaced (letters ++ padding number) spread.toList →
        toText? spread = some text := by
  have narrow := isSome_ofText?_iff.mp (Option.isSome_of_mem written)
  rw [ofText?, latin?_eq narrow] at written
  cases written
  have bounded : ∀ n ∈ text.toList.map Char.toNat, n < 256 := by
    rw [List.forall_mem_map]
    exact fun c member => Nat.lt_succ_of_le (narrow c member)
  obtain ⟨values, count, encoded, small, complete, read⟩ := exists_letters bounded
  have all : ∀ c ∈ values.map letter, c ∈ alphabet := by
    rw [List.forall_mem_map]
    exact fun v member => (letter_spec v (small v member)).1
  refine ⟨values.map letter, count, congrArg String.ofList encoded, all, complete, ?_⟩
  intro number spread spaced
  rw [toText?_eq, spaced.withoutBlanks_eq, withoutBlanks_letters all, unpadded_append all,
    decode?_letters small, read]
  simp [Function.comp_def]

end Texts

end ExprTree.Base64
