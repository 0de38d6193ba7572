import ExprTree.Proofs.Entries
import ExprTree.Text.Utf8

/-!
The order of keys. Texts compared by code points stand in the order of their octets, and entries in
strictly ascending order of keys are determined by what they hold: however a map is enumerated,
sorting gives the same entries.
-/
namespace ExprTree

namespace Utf8

private theorem cons_octet_lt {m n : Nat} {rest others : List UInt8} (bound : n < 256) (le : m ≤ n)
    (next : m = n → rest < others) : UInt8.ofNat m :: rest < UInt8.ofNat n :: others := by
  rw [List.cons_lt_cons_iff]
  by_cases same : m = n
  · exact .inr ⟨congrArg UInt8.ofNat same, next same⟩
  · left
    rw [UInt8.lt_iff_toNat_lt, UInt8.toNat_ofNat', UInt8.toNat_ofNat', Nat.mod_eq_of_lt bound,
      Nat.mod_eq_of_lt (Nat.lt_of_le_of_lt le bound)]
    omega

/-- The octets of a lower character come first, whatever follows them. -/
theorem utf8EncodeChar_append_lt {c d : Char} (less : c < d) (rest others : List UInt8) :
    String.utf8EncodeChar c ++ rest < String.utf8EncodeChar d ++ others := by
  have codes : c.val.toNat < d.val.toNat := less
  have valid : d.val.toNat < 0x110000 := by
    rcases d.valid with low | high
    · exact Nat.lt_trans low (by decide)
    · exact high.2
  unfold String.utf8EncodeChar
  dsimp only
  -- A lower character has no more octets than a higher one. With fewer octets the first one is
  -- lower; with as many, the first difference between them decides.
  split
  · split
    · exact cons_octet_lt (by omega) (by omega) fun same => by omega
    · split
      · exact cons_octet_lt (by omega) (by omega) fun same => by omega
      · split <;> exact cons_octet_lt (by omega) (by omega) fun same => by omega
  · rw [if_neg (show ¬ d.val.toNat ≤ 127 by omega)]
    split
    · split
      · exact cons_octet_lt (by omega) (by omega) fun _ =>
          cons_octet_lt (by omega) (by omega) fun same => by omega
      · split <;> exact cons_octet_lt (by omega) (by omega) fun same => by omega
    · rw [if_neg (show ¬ d.val.toNat ≤ 2047 by omega)]
      split
      · split
        · exact cons_octet_lt (by omega) (by omega) fun _ =>
            cons_octet_lt (by omega) (by omega) fun _ =>
              cons_octet_lt (by omega) (by omega) fun same => by omega
        · exact cons_octet_lt (by omega) (by omega) fun same => by omega
      · rw [if_neg (show ¬ d.val.toNat ≤ 65535 by omega)]
        exact cons_octet_lt (by omega) (by omega) fun _ =>
          cons_octet_lt (by omega) (by omega) fun _ =>
            cons_octet_lt (by omega) (by omega) fun _ =>
              cons_octet_lt (by omega) (by omega) fun same => by omega

/-- Texts in the order of their code points are in the order of their octets. -/
theorem encode_lt_encode {first second : List Char} (less : first < second) :
    encode first < encode second := by
  unfold encode
  induction first generalizing second with
  | nil =>
    cases second with
    | nil => exact absurd less (List.lt_irrefl _)
    | cons d others =>
      rw [List.flatMap_nil, List.flatMap_cons]
      cases octets : String.utf8EncodeChar d with
      | nil => exact absurd octets String.utf8EncodeChar_ne_nil
      | cons octet more => exact List.nil_lt_cons ..
  | cons c rest ih =>
    cases second with
    | nil => exact absurd less (List.not_lt_nil _)
    | cons d others =>
      rw [List.flatMap_cons, List.flatMap_cons]
      rcases List.cons_lt_cons_iff.mp less with lower | ⟨rfl, later⟩
      · exact utf8EncodeChar_append_lt lower _ _
      · exact List.append_left_lt (ih later)

end Utf8

namespace Entries

/-- Entries whose keys stand in strictly ascending order of their octets. -/
def Ascending (entries : Entries α) : Prop :=
  entries.Pairwise fun first second =>
    Utf8.encode first.1.toList < Utf8.encode second.1.toList

instance (entries : Entries α) : Decidable (Ascending entries) :=
  inferInstanceAs (Decidable (entries.Pairwise _))

private theorem ascending_of_lt {entries : Entries α}
    (ordered : entries.Pairwise fun first second => first.1 < second.1) : Ascending entries :=
  ordered.imp fun less => Utf8.encode_lt_encode (String.lt_iff.mp less)

/-- Entries in ascending order are known by what they hold. -/
theorem Ascending.eq_of_perm {first second : Entries α} (one : Ascending first)
    (two : Ascending second) (order : first.Perm second) : first = second := by
  refine order.eq_of_pairwise ?_ one two
  intro a b _ _ less greater
  exact absurd greater (List.lt_asymm less)

theorem Ascending.nodup_keys {entries : Entries α} (ascending : Ascending entries) :
    (keys entries).Nodup := by
  refine List.pairwise_map.mpr (ascending.imp ?_)
  intro first second less same
  rw [same] at less
  exact List.lt_irrefl _ less

private theorem insertSorted_pairwise {key : String} {value : α} {entries : Entries α}
    (ordered : entries.Pairwise fun first second => first.1 < second.1)
    (fresh : key ∉ keys entries) :
    (insertSorted key value entries).Pairwise fun first second => first.1 < second.1 := by
  induction entries with
  | nil => exact List.pairwise_singleton ..
  | cons entry rest ih =>
    obtain ⟨k, v⟩ := entry
    obtain ⟨least, others⟩ := List.pairwise_cons.mp ordered
    rw [insertSorted]
    split
    · rename_i less
      refine List.pairwise_cons.mpr ⟨?_, ordered⟩
      intro other member
      rcases List.mem_cons.mp member with rfl | later
      · exact less
      · exact String.lt_trans less (least other later)
    · rename_i notLess
      have different : k ≠ key := fun same => fresh (by simp [keys, same])
      have greater : k < key := by
        rcases Std.lt_trichotomy k key with less | same | less
        · exact less
        · exact absurd same different
        · exact absurd less notLess
      refine List.pairwise_cons.mpr
        ⟨?_, ih others fun member => fresh (List.mem_cons_of_mem _ member)⟩
      intro other member
      rcases List.mem_cons.mp ((insertSorted_perm key value rest).mem_iff.mp member)
        with rfl | later
      · exact greater
      · exact least other later

/-- Sorting puts distinct keys in strictly ascending order. -/
theorem sorted_ascending {entries : Entries α} (distinct : (keys entries).Nodup) :
    Ascending (sorted entries) := by
  refine ascending_of_lt ?_
  induction entries with
  | nil => exact .nil
  | cons entry rest ih =>
    obtain ⟨k, v⟩ := entry
    obtain ⟨fresh, others⟩ := List.nodup_cons.mp distinct
    refine insertSorted_pairwise (ih others) fun member => fresh ?_
    exact ((sorted_perm rest).map Prod.fst).mem_iff.mp member

/-- Sorting finds the ascending arrangement of entries, and there is only one. -/
theorem sorted_eq_of_ascending {entries arranged : Entries α} (order : entries.Perm arranged)
    (ascending : Ascending arranged) : sorted entries = arranged := by
  have distinct : (keys entries).Nodup :=
    (order.map Prod.fst).nodup_iff.mpr ascending.nodup_keys
  exact (sorted_ascending distinct).eq_of_perm ascending ((sorted_perm entries).trans order)

/-- The order in which entries are enumerated does not show once they are sorted. -/
theorem sorted_eq_of_perm {first second : Entries α} (order : first.Perm second)
    (distinct : (keys second).Nodup) : sorted first = sorted second :=
  sorted_eq_of_ascending (order.trans (sorted_perm second).symm) (sorted_ascending distinct)

end Entries

end ExprTree
