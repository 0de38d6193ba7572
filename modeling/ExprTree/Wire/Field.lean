import ExprTree.Wire.Varint

/-!
Fields of a binary message: a number, a form, and a payload whose extent the form tells, so that a
message can be cut into its fields without knowing what they mean.
-/
namespace ExprTree.Wire

inductive Payload where
  | varint (n : Nat)
  | fixed64 (bits : Nat)
  | fixed32 (bits : Nat)
  | octets (content : List UInt8)
  /-- A run of fields between two marks, which no known field has. -/
  | group
  deriving DecidableEq, Repr

structure Field where
  number : Nat
  payload : Payload
  deriving DecidableEq, Repr

namespace Field

/-- The greatest number that a field of a message may have. -/
def lastNumber : Nat := Nat.pow 2 29 - 1

/-- The greatest number that a field inside a group may have. -/
def lastGroupNumber : Nat := Nat.pow 2 31 - 1

/-- How many groups may be open at once. -/
def groupLimit : Nat := 10001

/-- Takes a known number of octets off the front. -/
def take? (count : Nat) (octets : List UInt8) : Option (List UInt8 × List UInt8) :=
  if octets.length < count then none else some (octets.take count, octets.drop count)

/-- Takes counted octets off the front. -/
def takeCounted? (octets : List UInt8) : Option (List UInt8 × List UInt8) :=
  match Varint.decode? octets with
  | some (count, rest) => take? count rest
  | none => none

theorem length_of_take? {count : Nat} {octets content rest : List UInt8}
    (found : take? count octets = some (content, rest)) : rest.length ≤ octets.length := by
  unfold take? at found
  split at found
  · simp at found
  · obtain ⟨_, rfl⟩ := Prod.mk.injEq .. ▸ Option.some.inj found
    simp

theorem length_of_takeCounted? {octets content rest : List UInt8}
    (found : takeCounted? octets = some (content, rest)) : rest.length ≤ octets.length := by
  unfold takeCounted? at found
  split at found
  · rename_i count left read
    have := Varint.length_of_decode? read
    have := length_of_take? found
    omega
  · simp at found

/-- The number that octets spell, the lowest first. -/
def ofLittleEndian : List UInt8 → Nat
  | [] => 0
  | octet :: rest => octet.toNat + 256 * ofLittleEndian rest

/-- A number as so many octets, the lowest first. -/
def toLittleEndian : Nat → Nat → List UInt8
  | 0, _ => []
  | count + 1, n => UInt8.ofNat (n % 256) :: toLittleEndian count (n / 256)

/-- The payload of a form other than the group marks. -/
def plain? (form : Nat) (octets : List UInt8) : Option (Payload × List UInt8) :=
  match form with
  | 0 => (Varint.decode? octets).map fun (n, rest) => (.varint n, rest)
  | 1 => (take? 8 octets).map fun (content, rest) => (.fixed64 (ofLittleEndian content), rest)
  | 2 => (takeCounted? octets).map fun (content, rest) => (.octets content, rest)
  | 5 => (take? 4 octets).map fun (content, rest) => (.fixed32 (ofLittleEndian content), rest)
  | _ => none

theorem length_of_plain? {form : Nat} {octets rest : List UInt8} {payload : Payload}
    (found : plain? form octets = some (payload, rest)) : rest.length ≤ octets.length := by
  unfold plain? at found
  split at found <;> simp only [Option.map_eq_some_iff, Prod.mk.injEq, Prod.exists, reduceCtorEq]
    at found
  · obtain ⟨_, _, read, _, rfl⟩ := found
    exact Nat.le_of_lt (Varint.length_of_decode? read)
  · obtain ⟨_, _, read, _, rfl⟩ := found
    exact length_of_take? read
  · obtain ⟨_, _, read, _, rfl⟩ := found
    exact length_of_takeCounted? read
  · obtain ⟨_, _, read, _, rfl⟩ := found
    exact length_of_take? read

/-- What follows the open groups, whose numbers are given innermost first. Each has to be closed by
its own number. -/
def skipGroups (opened : List Nat) (octets : List UInt8) : Option (List UInt8) :=
  match opened with
  | [] => some octets
  | innermost :: outer =>
    match read : Varint.decode? octets with
    | none => none
    | some (mark, rest) =>
      have := Varint.length_of_decode? read
      if mark / 8 = 0 ∨ lastGroupNumber < mark / 8 then none
      else if mark % 8 = 4 then
        if mark / 8 = innermost then skipGroups outer rest else none
      else if mark % 8 = 3 then
        if opened.length < groupLimit then skipGroups (mark / 8 :: opened) rest else none
      else
        match taken : plain? (mark % 8) rest with
        | none => none
        | some (_, rest) =>
          have := length_of_plain? taken
          skipGroups opened rest
termination_by octets.length

/-- Skipping groups never adds octets. -/
theorem length_of_skipGroups {opened : List Nat} {octets rest : List UInt8}
    (found : skipGroups opened octets = some rest) : rest.length ≤ octets.length := by
  fun_induction skipGroups opened octets <;> grind

/-- The payload of a field by its number and form. -/
def payload? (number form : Nat) (octets : List UInt8) : Option (Payload × List UInt8) :=
  if form = 3 then (skipGroups [number] octets).map fun rest => (.group, rest)
  else plain? form octets

theorem length_of_payload? {number form : Nat} {octets rest : List UInt8} {payload : Payload}
    (found : payload? number form octets = some (payload, rest)) :
    rest.length ≤ octets.length := by
  unfold payload? at found
  split at found
  · simp only [Option.map_eq_some_iff, Prod.mk.injEq] at found
    obtain ⟨_, skipped, _, rfl⟩ := found
    exact length_of_skipGroups skipped
  · exact length_of_plain? found

/-- The fields of a message up to its end or to the first octets that are no field; the flag tells
whether the end was reached. -/
def scan (octets : List UInt8) : List Field × Bool :=
  if octets.isEmpty then ([], true)
  else
    match read : Varint.decode? octets with
    | none => ([], false)
    | some (mark, rest) =>
      have := Varint.length_of_decode? read
      if mark / 8 = 0 ∨ lastNumber < mark / 8 then ([], false)
      else
        match taken : payload? (mark / 8) (mark % 8) rest with
        | none => ([], false)
        | some (payload, rest) =>
          have := length_of_payload? taken
          let (fields, complete) := scan rest
          (⟨mark / 8, payload⟩ :: fields, complete)
termination_by octets.length

/-- A field of counted octets. -/
def writeOctets (number : Nat) (content : List UInt8) : List UInt8 :=
  Varint.encode (number * 8 + 2) ++ Varint.encode content.length ++ content

/-- A field of a number. -/
def writeVarint (number n : Nat) : List UInt8 :=
  Varint.encode (number * 8) ++ Varint.encode n

/-- A field of 64 bits. -/
def writeFixed (number bits : Nat) : List UInt8 :=
  Varint.encode (number * 8 + 1) ++ toLittleEndian 8 bits

end Field

end ExprTree.Wire
