import ExprTree.Deflate

/-!
Containers of packed octets. A gzip file is a row of members, each with a header and the cyclic
checksum and size of its content; a zlib stream has a short header and a checksum of two sums.
-/
namespace ExprTree.Deflate

/-- One octet in the cyclic checksum. -/
def cyclicStep (sum : UInt32) (octet : UInt8) : UInt32 :=
  (List.range 8).foldl
    (fun s _ => if s &&& 1 == 1 then (s >>> 1) ^^^ 0xEDB88320 else s >>> 1)
    (sum ^^^ octet.toUInt32)

/-- The cyclic checksum of octets. -/
def cyclicSum (octets : Array UInt8) : Nat :=
  (octets.foldl cyclicStep 0xFFFFFFFF ^^^ 0xFFFFFFFF).toNat

/-- The sum of octets and the sum of these sums, both modulo 65521, in one number. -/
def doubleSum (octets : Array UInt8) : Nat :=
  let (low, high) := octets.foldl
    (fun ((low, high) : Nat × Nat) octet =>
      let low := (low + octet.toNat) % 65521
      (low, (high + low) % 65521)) (1, 0)
  high * 65536 + low

/-- Passes a text that ends with a zero octet within so many octets. -/
def skipText : Nat → Read Unit
  | 0 => throw (.header "gzip")
  | fuel + 1 => do
    if (← bits 8) ≠ 0 then skipText fuel

/-- Passes the optional parts of the header of a member that starts at an octet. -/
def skipOptions (start flags : Nat) : Read Unit := do
  if flags / 4 % 2 = 1 then
    let size ← bits 16
    let _ ← verbatim size #[]
  if flags / 8 % 2 = 1 then skipText 512
  if flags / 16 % 2 = 1 then skipText 512
  if flags / 2 % 2 = 1 then
    let s ← get
    let sum := cyclicSum (s.octets.extract start (s.place / 8))
    if (← bits 16) ≠ sum % 65536 then throw (.header "gzip")

/-- One member of a gzip file. -/
def gzipMember : Read (Array UInt8) := do
  let start := (← get).place / 8
  let fields ← numbers 8 10
  if fields.take 3 ≠ [0x1F, 0x8B, 8] then throw (.header "gzip")
  skipOptions start (fields.getD 3 0)
  let out ← inflate
  let sum ← bits 32
  let size ← bits 32
  if sum ≠ cyclicSum out || size ≠ out.size % Nat.pow 2 32 then throw (.checksum "gzip")
  pure out

/-- The members that are left, one behind the other. -/
def gzipMembers : Nat → Array UInt8 → Read (Array UInt8)
  | 0, _ => throw .corrupt
  | fuel + 1, out => do
    let out := out ++ (← gzipMember)
    let s ← get
    if s.place / 8 < s.octets.size then gzipMembers fuel out else pure out

/-- The content of a zlib stream; what follows the stream is not looked at. -/
def zlibStream : Read (Array UInt8) := do
  let first ← bits 8
  let second ← bits 8
  if first % 16 ≠ 8 || 7 < first / 16 || (first * 256 + second) % 31 ≠ 0 then throw (.header "zlib")
  if second / 32 % 2 = 1 then
    let _ ← bits 32
    throw (.dictionary "zlib")
  let out ← inflate
  let sum ← numbers 8 4
  if sum.foldl (fun n octet => n * 256 + octet) 0 ≠ doubleSum out then throw (.checksum "zlib")
  pure out

def run (action : Read (Array UInt8)) (octets : List UInt8) : Except Fault (List UInt8) := do
  let (out, _) ← StateT.run action ⟨octets.toArray, 0⟩
  .ok out.toList

/-- The content of a gzip file. -/
def gunzip (octets : List UInt8) : Except Fault (List UInt8) :=
  if octets.isEmpty then .error .empty else run (gzipMembers (octets.length + 1) #[]) octets

/-- The content of a zlib stream. -/
def unzlib (octets : List UInt8) : Except Fault (List UInt8) := run zlibStream octets

end ExprTree.Deflate
