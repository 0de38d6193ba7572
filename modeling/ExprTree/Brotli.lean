import ExprTree.Brotli.Context
import ExprTree.Brotli.Dictionary

/-!
Octets packed by the brotli method. A stream is a row of parts: octets as they are, data to skip, or
commands. A command puts out literals and then copies earlier output or a word of the dictionary.
What a stream put out before it breaks off is kept.
-/
namespace ExprTree.Brotli

open Deflate (Fault Bits Read Code bit bits)

/-- Lengths of blocks: the least of each symbol, and how many bits are added to it. -/
def blockSizes : List (Nat × Nat) :=
  [(1, 2), (5, 2), (9, 2), (13, 2), (17, 3), (25, 3), (33, 3), (41, 3), (49, 4), (65, 4), (81, 4),
    (97, 4), (113, 5), (145, 5), (177, 5), (209, 5), (241, 6), (305, 6), (369, 7), (497, 8),
    (753, 9), (1265, 10), (2289, 11), (4337, 12), (8433, 13), (16625, 24)]

/-- Numbers of literals, likewise. -/
def insertSizes : List (Nat × Nat) :=
  [(0, 0), (1, 0), (2, 0), (3, 0), (4, 0), (5, 0), (6, 1), (8, 1), (10, 2), (14, 2), (18, 3),
    (26, 3), (34, 4), (50, 4), (66, 5), (98, 5), (130, 6), (194, 7), (322, 8), (578, 9), (1090, 10),
    (2114, 12), (6210, 14), (22594, 24)]

/-- Lengths of copies, likewise. -/
def copySizes : List (Nat × Nat) :=
  [(2, 0), (3, 0), (4, 0), (5, 0), (6, 0), (7, 0), (8, 0), (9, 0), (10, 1), (12, 1), (14, 2),
    (18, 2), (22, 3), (30, 3), (38, 4), (54, 4), (70, 5), (102, 5), (134, 6), (198, 7), (326, 8),
    (582, 9), (1094, 10), (2118, 24)]

/-- The blocks of one kind of symbols: each block has a type and a number of symbols. -/
structure Blocks where
  types : Nat
  typeCode : Code
  sizeCode : Code
  current : Nat
  previous : Nat
  /-- The number of symbols left in the block. -/
  left : Nat

/-- The blocks of a kind at their start. With a single type there is no change of blocks. -/
def Blocks.read : Read Blocks := do
  let types := (← smallNumber) + 1
  if types = 1 then pure ⟨1, ⟨[], #[]⟩, ⟨[], #[]⟩, 0, 1, Nat.pow 2 24⟩
  else
    let typeCode ← readCode (types + 2)
    let sizeCode ← readCode blockSizes.length
    pure ⟨types, typeCode, sizeCode, 0, 1, ← Deflate.sizeOf blockSizes (← symbol sizeCode)⟩

/-- The blocks with a symbol left. The type of a new block is that of the block before the current
one, the type after the current one, or any other. -/
def Blocks.ready (blocks : Blocks) : Read Blocks := do
  if 0 < blocks.left then pure blocks
  else
    let next ← symbol blocks.typeCode
    let left ← Deflate.sizeOf blockSizes (← symbol blocks.sizeCode)
    let type :=
      match next with
      | 0 => blocks.previous
      | 1 => blocks.current + 1
      | other + 2 => other
    let type := if blocks.types ≤ type then type - blocks.types else type
    pure { blocks with current := type, previous := blocks.current, left }

def Blocks.used (blocks : Blocks) : Blocks := { blocks with left := blocks.left - 1 }

/-- How the commands of a part are written. -/
structure Plan where
  literals : Blocks
  commands : Blocks
  distances : Blocks
  /-- The number of lowest bits that a code for distances gives itself. -/
  lowBits : Nat
  /-- The number of distances with a code of their own. -/
  direct : Nat
  modes : Array Nat
  literalMap : Array Nat
  distanceMap : Array Nat
  literalCodes : Array Code
  commandCodes : Array Code
  distanceCodes : Array Code

def Plan.read : Read Plan := do
  let literals ← Blocks.read
  let commands ← Blocks.read
  let distances ← Blocks.read
  let lowBits ← bits 2
  let direct := (← bits 4) * Nat.pow 2 lowBits
  let modes ← Deflate.numbers 2 literals.types
  let (literalCount, literalMap) ← contextMap (64 * literals.types)
  let (distanceCount, distanceMap) ← contextMap (4 * distances.types)
  let literalCodes ← readCodes 256 literalCount
  let commandCodes ← readCodes 704 commands.types
  let distanceCodes ← readCodes (16 + direct + 48 * Nat.pow 2 lowBits) distanceCount
  pure
    { literals, commands, distances, lowBits, direct, literalMap, distanceMap
      modes := modes.toArray
      literalCodes := literalCodes.toArray
      commandCodes := commandCodes.toArray
      distanceCodes := distanceCodes.toArray }

/-- The code of a literal behind two octets. -/
def Plan.literalCode (plan : Plan) (type last beforeLast : Nat) : Code :=
  let context := literalContext (plan.modes.getD type 0) last beforeLast
  plan.literalCodes.getD (plan.literalMap.getD (64 * type + context) 0) ⟨[], #[]⟩

/-- The code of the distance of a copy. -/
def Plan.distanceCode (plan : Plan) (type length : Nat) : Code :=
  plan.distanceCodes.getD (plan.distanceMap.getD (4 * type + distanceContext length) 0) ⟨[], #[]⟩

/-- Literals to put out, and a copy behind them. -/
structure Command where
  insert : Nat
  copy : Nat
  /-- The copy has the distance of the last one. -/
  again : Bool

/-- The first number of literals and the first length of each group of 64 commands. -/
def commandGroups : List (Nat × Nat) :=
  [(0, 0), (0, 8), (0, 0), (0, 8), (8, 0), (8, 8), (0, 16), (16, 0), (8, 16), (16, 8), (16, 16)]

def Command.read (code : Code) : Read Command := do
  let next ← symbol code
  let (insert, copy) := commandGroups.getD (next / 64) (0, 0)
  let insert ← Deflate.sizeOf insertSizes (insert + next / 8 % 8)
  let copy ← Deflate.sizeOf copySizes (copy + next % 8)
  pure ⟨insert, copy, next < 128⟩

/-- The distances near recent ones: which of those it is, and what is added. -/
def nearDistances : List (Nat × Int) :=
  [(0, 0), (1, 0), (2, 0), (3, 0), (0, -1), (0, 1), (0, -2), (0, 2), (0, -3), (0, 3), (1, -1),
    (1, 1), (1, -2), (1, 2), (1, -3), (1, 3)]

/-- The distance of a symbol. After recent and direct distances come ranges, two for each number of
bits to add. -/
def Plan.distance (plan : Plan) (recent : List Nat) (next : Nat) : Read Nat := do
  match nearDistances[next]? with
  | some (index, more) =>
    let distance := (recent.getD index 0 : Int) + more
    if distance ≤ 0 then throw invalid
    pure distance.toNat
  | none =>
    if next - 16 < plan.direct then pure (next - 15)
    else
      let scale := Nat.pow 2 plan.lowBits
      let rest := next - 16 - plan.direct
      let range := rest / scale
      let width := range / 2 + 1
      let least := (2 + range % 2) * Nat.pow 2 width - 4
      pure ((least + (← bits width)) * scale + rest % scale + plan.direct + 1)

/-- A stream that is being unpacked. -/
structure Session where
  bits : Bits
  out : Array UInt8
  /-- The last four distances of copies, the latest in front. -/
  recent : List Nat

/-- A failure leaves what was put out before it. -/
abbrev Unpack := ExceptT Fault (StateM Session)

/-- Reads from the stream. -/
def reading (action : Read α) : Unpack α := do
  match action.run (← get).bits with
  | .ok (value, bits) =>
    modify fun s => { s with bits }
    pure value
  | .error fault => throw fault

def put (octet : UInt8) : Unpack Unit := modify fun s => { s with out := s.out.push octet }

/-- The octet so far behind the end, and zero before the start. -/
def Session.behind (s : Session) (distance : Nat) : Nat :=
  if s.out.size < distance then 0 else (s.out.getD (s.out.size - distance) 0).toNat

/-- Literals, and the blocks behind them. -/
def literals (plan : Plan) : Nat → Blocks → Unpack Blocks
  | 0, blocks => pure blocks
  | count + 1, blocks => do
    let blocks ← reading blocks.ready
    let (last, beforeLast) := (fun (s : Session) => (s.behind 1, s.behind 2)) (← get)
    let octet ← reading (symbol (plan.literalCode blocks.current last beforeLast))
    put (UInt8.ofNat octet)
    literals plan count blocks.used

/-- Copies at most `left` octets from a distance and gives their number. A distance that reaches
farther back than the output and the window stands for a word. The distance of a copy is remembered,
unless it is that of the last one. -/
def copy (window left length distance : Nat) (again : Bool) : Unpack Nat := do
  let reach := min (← get).out.size window
  if reach < distance then
    match changedWord? length (distance - reach - 1) with
    | none => throw invalid
    | some octets =>
      if left < octets.length then throw invalid
      modify fun s => { s with out := octets.foldl Array.push s.out }
      pure octets.length
  else
    if left < length then throw invalid
    modify fun s =>
      { s with
        out := Deflate.copyBack distance length s.out
        recent := if again then s.recent else distance :: s.recent.take 3 }
    pure length

/-- Commands until `left` octets are put out. Each of them takes a bit or puts out an octet. -/
def commands (window : Nat) : Nat → Plan → Nat → Unpack Unit
  | 0, _, _ => throw invalid
  | fuel + 1, plan, left => do
    let ready ← reading plan.commands.ready
    let command ← reading (Command.read (plan.commandCodes.getD ready.current ⟨[], #[]⟩))
    if left < command.insert then throw invalid
    let plan := { plan with
      commands := ready.used
      literals := ← literals plan command.insert plan.literals }
    let left := left - command.insert
    if left = 0 then pure ()
    else
      let recent := (← get).recent
      let (plan, next) ←
        if command.again then pure (plan, 0)
        else do
          let ready ← reading plan.distances.ready
          let next ← reading (symbol (plan.distanceCode ready.current command.copy))
          pure ({ plan with distances := ready.used }, next)
      let distance ← reading (plan.distance recent next)
      let made ← copy window left command.copy distance (next = 0)
      if made = left then pure () else commands window fuel plan (left - made)

/-- What a part of a stream holds, with its size. -/
inductive Part where
  | nothing
  | skipped (size : Nat)
  | stored (size : Nat)
  | packed (size : Nat)

/-- A size in `count` digits of so many bits, lowest first, which give the number below it. With more
than `least` digits the last one is not zero. -/
def partSize (width least count : Nat) : Read Nat := do
  let digits ← Deflate.numbers width count
  if least < count && digits.getLast? = some 0 then throw invalid
  pure (digits.foldr (fun digit rest => digit + Nat.pow 2 width * rest) 0 + 1)

/-- The bit of an option, which is read only where the option is possible. -/
def option (possible : Bool) : Read Bool := do
  if possible then pure ((← bit) == 1) else pure false

/-- The header of a part, and whether it is the last one. -/
def header : Read (Bool × Part) := do
  let last := (← bit) == 1
  if ← option last then pure (last, .nothing)
  else
    match ← bits 2 with
    | 3 =>
      if (← bit) = 1 then throw invalid
      let count ← bits 2
      let size ← if count = 0 then pure 0 else partSize 8 1 count
      closeOctet
      pure (last, .skipped size)
    | more =>
      let size ← partSize 4 4 (4 + more)
      if ← option !last then
        closeOctet
        pure (last, .stored size)
      else pure (last, .packed size)

def skip : Nat → Read Unit
  | 0 => pure ()
  | count + 1 => do
    let _ ← bits 8
    skip count

/-- Octets as they are. -/
def verbatim : Nat → Unpack Unit
  | 0 => pure ()
  | count + 1 => do
    put (UInt8.ofNat (← reading (bits 8)))
    verbatim count

/-- The parts up to the last one, whose last octet is filled with zeros. -/
def parts (window : Nat) : Nat → Unpack Unit
  | 0 => throw invalid
  | fuel + 1 => do
    let (last, part) ← reading header
    match part with
    | .nothing => pure ()
    | .skipped size => reading (skip size)
    | .stored size => verbatim size
    | .packed size =>
      let plan ← reading Plan.read
      commands window (size + fuel + 1) plan size
    if last then reading closeOctet else parts window fuel

/-- The size of the window, as a power of two. -/
def windowBits : Read Nat := do
  if (← bit) = 0 then pure 16
  else
    match ← bits 3 with
    | 0 =>
      match ← bits 3 with
      | 0 => pure 17
      | 1 => throw invalid
      | more => pure (8 + more)
    | more => pure (17 + more)

/-- Unpacks a stream. The last 16 octets of the window are out of reach. Each part takes a bit. -/
def stream : Unpack Unit := do
  let width ← reading windowBits
  parts (Nat.pow 2 width - 16) (8 * (← get).bits.octets.size + 1)

/-- The content of octets. A stream that breaks off is at fault only if it put out nothing, and no
octets are no content. -/
def unpack (octets : List UInt8) : Except Fault (List UInt8) :=
  if octets.isEmpty then .ok []
  else
    match stream.run.run ⟨⟨octets.toArray, 0⟩, #[], [4, 11, 15, 16]⟩ with
    | (.ok (), s) =>
      if s.bits.place / 8 < s.bits.octets.size then .error (.excess "brotli") else .ok s.out.toList
    | (.error .truncated, s) => if s.out.isEmpty then .error .truncated else .ok s.out.toList
    | (.error fault, _) => .error fault

end ExprTree.Brotli
