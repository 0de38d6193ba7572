import ExprTree.Deflate

/-!
Numbers and prefix codes in the headers of brotli streams. A code lists up to four symbols, or gives
the length of every symbol in a code that stands in front of it.
-/
namespace ExprTree.Brotli

open Deflate (Fault Read Code bit bits)

def invalid : Fault := .invalid "brotli"

/-- The symbol that comes next. A code of one symbol takes no bits. -/
def symbol (code : Code) : Read Nat :=
  if code.symbols.size == 1 then pure (code.symbols.getD 0 0) else code.symbol

/-- A number below 256: zero in one bit, any other as its width and the bits below the highest. -/
def smallNumber : Read Nat := do
  if (← bit) = 0 then pure 0
  else
    let width ← bits 3
    pure (Nat.pow 2 width + (← bits width))

/-- Passes the bits up to the end of an octet, which have to be zero. -/
def closeOctet : Read Unit := do
  let place := (← get).place
  if (← bits ((8 - place % 8) % 8)) ≠ 0 then throw invalid

/-- The code of symbols with their lengths; it does not matter what length a single one has. -/
def codeOf (alphabet : Nat) (given : List (Nat × Nat)) : Code :=
  match given with
  | [(only, _)] => ⟨[], #[only]⟩
  | _ => Code.ofLengths ((List.range alphabet).map fun symbol => (given.lookup symbol).getD 0)

/-- Symbols of an alphabet, each in as many bits as the last one needs. -/
def listed (alphabet : Nat) : Nat → Read (List Nat)
  | 0 => pure []
  | count + 1 => do
    let symbol ← bits (Nat.log2 (alphabet - 1) + 1)
    if alphabet ≤ symbol then throw invalid
    pure (symbol :: (← listed alphabet count))

/-- A code that lists its symbols, the shorter ones first. Four of them have one of two shapes. -/
def listedCode (alphabet : Nat) : Read Code := do
  let symbols ← listed alphabet ((← bits 2) + 1)
  if symbols.eraseDups.length ≠ symbols.length then throw invalid
  let lengths ←
    match symbols.length with
    | 1 => pure [0]
    | 2 => pure [1, 1]
    | 3 => pure [1, 2, 2]
    | _ => do pure (if (← bit) = 0 then [2, 2, 2, 2] else [1, 2, 3, 3])
  pure (codeOf alphabet (symbols.zip lengths))

/-- The order in which a stream gives the lengths of the code for lengths. -/
def lengthOrder : List Nat := [1, 2, 3, 4, 0, 5, 17, 6, 16, 7, 8, 9, 10, 11, 12, 13, 14, 15]

/-- A length of the code for lengths, itself in a fixed code. -/
def shortLength : Read Nat := do
  match ← bits 2 with
  | 0 => pure 0
  | 1 => pure 4
  | 2 => pure 3
  | _ =>
    if (← bit) = 0 then pure 2
    else if (← bit) = 0 then pure 1
    else pure 5

/-- The share of all rows of `width` bits that start with a code of a length. -/
def share (width length : Nat) : Nat := Nat.pow 2 (width - length)

/-- The code for lengths. Its lengths end as soon as no row of bits is left without a code. -/
def shortLengths : List Nat → Nat → List (Nat × Nat) → Read (List (Nat × Nat))
  | [], filled, given => if given.length = 1 || filled = 32 then pure given else throw invalid
  | symbol :: rest, filled, given => do
    let length ← shortLength
    if length = 0 then shortLengths rest filled given
    else
      let filled := filled + share 5 length
      let given := (symbol, length) :: given
      if filled < 32 then shortLengths rest filled given
      else if filled = 32 then pure given
      else throw invalid

/-- What is known while the lengths of a code are read. -/
structure Lengths where
  /-- The lengths of the first symbols, the last one in front. -/
  done : List Nat
  count : Nat
  /-- The last length other than zero. -/
  last : Nat
  /-- A length that is being repeated, and how often it was. -/
  repeated : Nat
  run : Nat
  /-- How much of all rows of fifteen bits starts with a code. -/
  filled : Nat

def Lengths.initial : Lengths := ⟨[], 0, 8, 0, 0, 0⟩

def Lengths.add (s : Lengths) (count length : Nat) : Lengths :=
  { s with
    done := List.replicate count length ++ s.done
    count := s.count + count
    filled := if length = 0 then s.filled else s.filled + count * share 15 length }

/-- One length by itself, which ends a run. -/
def Lengths.single (s : Lengths) (length : Nat) : Lengths :=
  { s.add 1 length with run := 0, last := if length = 0 then s.last else length }

/-- A symbol that repeats a length. A second one for the same length makes the run longer as a
further digit makes a number. -/
def Lengths.repetition (s : Lengths) (alphabet length width digit : Nat) : Read Lengths := do
  let run := if s.repeated = length then s.run else 0
  let longer := (if run = 0 then 0 else (run - 2) * Nat.pow 2 width) + 3 + digit
  if alphabet < s.count + (longer - run) then throw invalid
  pure { s.add (longer - run) length with run := longer, repeated := length }

/-- Reads lengths until no row of bits is left without a code. Each step adds a length. -/
def lengths (code : Code) (alphabet : Nat) : Nat → Lengths → Read (List Nat)
  | 0, _ => throw invalid
  | fuel + 1, s => do
    if s.filled = Nat.pow 2 15 then pure s.done.reverse
    else if s.count = alphabet then throw invalid
    else
      let next ← symbol code
      if next < 16 then lengths code alphabet fuel (s.single next)
      else
        let (length, width) := if next = 16 then (s.last, 2) else (0, 3)
        lengths code alphabet fuel (← s.repetition alphabet length width (← bits width))

/-- A prefix code of an alphabet. -/
def readCode (alphabet : Nat) : Read Code := do
  let skipped ← bits 2
  if skipped = 1 then listedCode alphabet
  else
    let short := codeOf 18 (← shortLengths (lengthOrder.drop skipped) 0 [])
    pure (Code.ofLengths (← lengths short alphabet (alphabet + 1) .initial))

/-- Several prefix codes of one alphabet. -/
def readCodes (alphabet : Nat) : Nat → Read (List Code)
  | 0 => pure []
  | count + 1 => do
    let first ← readCode alphabet
    pure (first :: (← readCodes alphabet count))

end ExprTree.Brotli
