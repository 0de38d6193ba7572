/-! Natural numbers as octets of seven bits each, the lowest first; the high bit of an octet says
that another one follows. -/
namespace ExprTree.Varint

def encode (n : Nat) : List UInt8 :=
  if n < 128 then [UInt8.ofNat n] else UInt8.ofNat (n % 128 + 128) :: encode (n / 128)
termination_by n

/-- Reads a number from at most `places` octets, of which the tenth of ten may only hold one bit. -/
def read? : Nat → List UInt8 → Option (Nat × List UInt8)
  | 0, _ => none
  | _, [] => none
  | places + 1, octet :: rest =>
    if octet < 128 then
      if places = 0 ∧ 1 < octet then none else some (octet.toNat, rest)
    else
      match read? places rest with
      | some (high, rest) => some (octet.toNat % 128 + 128 * high, rest)
      | none => none

/-- Reads a number below `2^64` from the front. -/
def decode? (octets : List UInt8) : Option (Nat × List UInt8) :=
  read? 10 octets

theorem length_of_read? {places : Nat} {octets : List UInt8} {n : Nat} {rest : List UInt8}
    (found : read? places octets = some (n, rest)) : rest.length < octets.length := by
  fun_induction read? places octets generalizing n rest with
  | case1 => simp at found
  | case2 => simp at found
  | case3 => simp at found
  | case4 places octet tail _ _ =>
    obtain ⟨_, rfl⟩ := Prod.mk.injEq .. ▸ Option.some.inj found
    simp
  | case5 places octet tail _ high left read ih =>
    obtain ⟨_, rfl⟩ := Prod.mk.injEq .. ▸ Option.some.inj found
    have := ih read
    simp
    omega
  | case6 => simp at found

/-- Reading takes at least one octet. -/
theorem length_of_decode? {octets : List UInt8} {n : Nat} {rest : List UInt8}
    (found : decode? octets = some (n, rest)) : rest.length < octets.length :=
  length_of_read? found

end ExprTree.Varint
