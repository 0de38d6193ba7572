/-!
Octets packed by the deflate method. A packed stream is a row of blocks: octets as they are, or
symbols of a prefix code that stand for single octets and for copies of earlier output.
-/
namespace ExprTree.Deflate

/-- Why octets cannot be unpacked. -/
inductive Fault where
  | corrupt
  | truncated
  /-- There is nothing to unpack. -/
  | empty
  | header (container : String)
  | checksum (container : String)
  | dictionary (container : String)
  | invalid (container : String)
  /-- Octets follow the end of the stream. -/
  | excess (container : String)
  deriving DecidableEq, Repr

def Fault.message : Fault → String
  | corrupt => "flate: corrupt input"
  | truncated => "unexpected EOF"
  | empty => "EOF"
  | header container => container ++ ": invalid header"
  | checksum container => container ++ ": invalid checksum"
  | dictionary container => container ++ ": invalid dictionary"
  | invalid container => container ++ ": invalid data"
  | excess container => container ++ ": excessive input"

/-- Packed octets and the number of bits already read. The bits of an octet come lowest first. -/
structure Bits where
  octets : Array UInt8
  place : Nat

abbrev Read := StateT Bits (Except Fault)

def bit : Read Nat := do
  let s ← get
  match s.octets[s.place / 8]? with
  | some octet =>
    set { s with place := s.place + 1 }
    pure (octet.toNat / Nat.pow 2 (s.place % 8) % 2)
  | none => throw .truncated

/-- A number of so many bits, lowest first. -/
def bits : Nat → Read Nat
  | 0 => pure 0
  | count + 1 => do
    let low ← bit
    pure (low + 2 * (← bits count))

/-- Moves on to the start of an octet. -/
def align : Read Unit :=
  modify fun s => { s with place := (s.place + 7) / 8 * 8 }

/-- Octets as they are. -/
def verbatim : Nat → Array UInt8 → Read (Array UInt8)
  | 0, out => pure out
  | count + 1, out => do
    let octet ← bits 8
    verbatim count (out.push (UInt8.ofNat octet))

/-- A prefix code in which longer codes follow shorter ones and symbols of one length are in order. -/
structure Code where
  /-- How many codes have the lengths 1, 2, ... 15. -/
  counts : List Nat
  /-- The symbols in the order of their codes. -/
  symbols : Array Nat

/-- The code that gives each symbol a length, zero for none. -/
def Code.ofLengths (lengths : List Nat) : Code :=
  let ofLength (length : Nat) : List Nat :=
    (lengths.zipIdx.filter fun entry => entry.1 == length).map Prod.snd
  let groups := (List.range 15).map fun n => ofLength (n + 1)
  ⟨groups.map List.length, groups.flatten.toArray⟩

/-- Whether every row of bits starts with a code. A code without symbols, and one with a single
symbol of one bit, are accepted too. -/
def Code.isComplete (code : Code) : Bool :=
  let filled := code.counts.zipIdx.foldl (fun sum entry => sum + entry.1 * Nat.pow 2 (14 - entry.2)) 0
  filled == Nat.pow 2 15 || code.symbols.isEmpty
    || (code.symbols.size == 1 && code.counts.head? == some 1)

/-- Reads a code bit by bit: `value` is what was read, `first` the first code of the length and
`index` the number of shorter codes. -/
def Code.symbolFrom (symbols : Array Nat) : List Nat → Nat → Nat → Nat → Read Nat
  | [], _, _, _ => throw .corrupt
  | count :: rest, value, first, index => do
    if count == 0 && rest.all (· == 0) then throw .corrupt
    let value := value + (← bit)
    if value < first + count then pure (symbols.getD (index + (value - first)) 0)
    else symbolFrom symbols rest (2 * value) (2 * (first + count)) (index + count)

def Code.symbol (code : Code) : Read Nat :=
  symbolFrom code.symbols code.counts 0 0 0

/-- The lengths of copies: the least of each symbol, and how many bits are added to it. -/
def copyLengths : List (Nat × Nat) :=
  [(3, 0), (4, 0), (5, 0), (6, 0), (7, 0), (8, 0), (9, 0), (10, 0), (11, 1), (13, 1), (15, 1), (17, 1),
    (19, 2), (23, 2), (27, 2), (31, 2), (35, 3), (43, 3), (51, 3), (59, 3), (67, 4), (83, 4), (99, 4),
    (115, 4), (131, 5), (163, 5), (195, 5), (227, 5), (258, 0)]

/-- The distances of copies, likewise. -/
def copyDistances : List (Nat × Nat) :=
  [(1, 0), (2, 0), (3, 0), (4, 0), (5, 1), (7, 1), (9, 2), (13, 2), (17, 3), (25, 3), (33, 4), (49, 4),
    (65, 5), (97, 5), (129, 6), (193, 6), (257, 7), (385, 7), (513, 8), (769, 8), (1025, 9), (1537, 9),
    (2049, 10), (3073, 10), (4097, 11), (6145, 11), (8193, 12), (12289, 12), (16385, 13), (24577, 13)]

/-- The size that a symbol of a table stands for. -/
def sizeOf (table : List (Nat × Nat)) (symbol : Nat) : Read Nat := do
  match table[symbol]? with
  | some (least, more) => pure (least + (← bits more))
  | none => throw .corrupt

/-- Copies octets from a distance behind the end, which the copy itself moves on. -/
def copyBack (distance : Nat) : Nat → Array UInt8 → Array UInt8
  | 0, out => out
  | count + 1, out => copyBack distance count (out.push (out.getD (out.size - distance) 0))

/-- The symbols of a block up to the one that ends it. -/
def symbols (literals distances : Code) : Nat → Array UInt8 → Read (Array UInt8)
  | 0, _ => throw .corrupt
  | fuel + 1, out => do
    let symbol ← literals.symbol
    if symbol < 256 then symbols literals distances fuel (out.push (UInt8.ofNat symbol))
    else if symbol = 256 then pure out
    else
      let length ← sizeOf copyLengths (symbol - 257)
      let distance ← sizeOf copyDistances (← distances.symbol)
      if out.size < distance then throw .corrupt
      symbols literals distances fuel (copyBack distance length out)

/-- The codes of a block that brings none. -/
def fixedCodes : Code × Code :=
  (Code.ofLengths (List.replicate 144 8 ++ List.replicate 112 9 ++ List.replicate 24 7
      ++ List.replicate 8 8),
    Code.ofLengths (List.replicate 32 5))

/-- The order in which a block gives the lengths of the code for lengths. -/
def lengthOrder : List Nat :=
  [16, 17, 18, 0, 8, 7, 9, 6, 10, 5, 11, 4, 12, 3, 13, 2, 14, 1, 15]

/-- Several numbers of so many bits. -/
def numbers (width : Nat) : Nat → Read (List Nat)
  | 0 => pure []
  | count + 1 => do
    let first ← bits width
    pure (first :: (← numbers width count))

/-- Reads lengths until there are `total` of them: one by one, or the last one or zero repeated. -/
def lengths (code : Code) (total : Nat) : Nat → List Nat → Read (List Nat)
  | 0, _ => throw .corrupt
  | fuel + 1, done => do
    if done.length = total then pure done.reverse
    else
      let symbol ← code.symbol
      let (value, count) ←
        if symbol < 16 then pure (symbol, 1)
        else if symbol = 16 then
          match done with
          | last :: _ => do pure (last, 3 + (← bits 2))
          | [] => throw .corrupt
        else if symbol = 17 then do pure (0, 3 + (← bits 3))
        else do pure (0, 11 + (← bits 7))
      if total < done.length + count then throw .corrupt
      lengths code total fuel (List.replicate count value ++ done)

/-- The codes that a block brings itself. -/
def ownCodes : Read (Code × Code) := do
  let literalCount := 257 + (← bits 5)
  let distanceCount := 1 + (← bits 5)
  let lengthCount := 4 + (← bits 4)
  if 286 < literalCount || 30 < distanceCount then throw .corrupt
  let given := lengthOrder.zip (← numbers 3 lengthCount)
  let code := Code.ofLengths ((List.range 19).map fun symbol => (given.lookup symbol).getD 0)
  if !code.isComplete then throw .corrupt
  let total := literalCount + distanceCount
  let all ← lengths code total (total + 1) []
  let literals := Code.ofLengths (all.take literalCount)
  let distances := Code.ofLengths (all.drop literalCount)
  if !literals.isComplete || !distances.isComplete then throw .corrupt
  pure (literals, distances)

/-- A block of octets as they are, with their number and its complement in front. -/
def storedBlock (out : Array UInt8) : Read (Array UInt8) := do
  align
  let count ← bits 16
  let complement ← bits 16
  if count + complement ≠ 65535 then throw .corrupt
  verbatim count out

/-- The blocks up to the last one. -/
def blocks : Nat → Array UInt8 → Read (Array UInt8)
  | 0, _ => throw .corrupt
  | fuel + 1, out => do
    let last ← bit
    let kind ← bits 2
    let out ←
      match kind with
      | 0 => storedBlock out
      | 1 => symbols fixedCodes.1 fixedCodes.2 (fuel + 1) out
      | 2 => do
        let (literals, distances) ← ownCodes
        symbols literals distances (fuel + 1) out
      | _ => throw .corrupt
    if last = 1 then pure out else blocks fuel out

/-- Unpacks a stream and stops at the octet behind it. Each block and each symbol takes a bit. -/
def inflate : Read (Array UInt8) := do
  let s ← get
  let out ← blocks (8 * s.octets.size + 1) #[]
  align
  pure out

end ExprTree.Deflate
