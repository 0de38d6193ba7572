import ExprTree.Yaml.Source
import ExprTree.Yaml.Token

/-!
The state in which a YAML stream is cut into tokens, and movement over its characters. The cursor
moves in a window of loaded characters. When the window runs short, it moves up to the cursor and
takes in the next portions. Behind the last character there are NULs, which no stream contains;
behind the last one that can be read there is failure.
-/
namespace ExprTree.Yaml

/-- A place that a later colon may turn into a mapping key. -/
structure SimpleKey where
  possible : Bool
  /-- It stands where a block mapping continues, so that it has to become one. -/
  required : Bool
  /-- The number of the token that starts it. -/
  number : Nat
  mark : Mark

structure Cursor where
  source : Source
  mark : Mark
  /-- The index of the first character of the window. -/
  front : Nat
  /-- How many characters are loaded, with the NULs behind the last one. -/
  loaded : Nat
  /-- The ends of the portions that are not loaded. -/
  portions : List Nat
  /-- Line breaks since the last character that is not blank. -/
  newlines : Nat
  started : Bool
  /-- Tokens that are cut but not taken, and how many were taken before them. -/
  queue : List Placed
  taken : Nat
  flowLevel : Nat
  indent : Int
  indents : List Int
  keyAllowed : Bool
  /-- The candidate keys of the flow levels, outermost first. -/
  keys : Array SimpleKey
  /-- The numbers of tokens that may turn out to start a key, each with the level whose candidate
  tells. -/
  undecided : List (Nat × Nat)

def Cursor.start (source : Source) : Cursor where
  source := source
  mark := ⟨0, 0, 0⟩
  front := 0
  loaded := 0
  portions := source.ends
  newlines := 0
  started := false
  queue := []
  taken := 0
  flowLevel := 0
  indent := -1
  indents := []
  keyAllowed := false
  keys := #[]
  undecided := []

/-- A movement of the cursor that may fail. -/
abbrev Scan := StateT Cursor Option

def isEnd (c : Char) : Bool := c == '\x00'

def isBlank (c : Char) : Bool := c == ' ' || c == '\t'

def isBreak (c : Char) : Bool :=
  c == '\r' || c == '\n' || c == '\u0085' || c == '\u2028' || c == '\u2029'

def isBreakOrEnd (c : Char) : Bool := isBreak c || isEnd c

def isBlankOrEnd (c : Char) : Bool := isBlank c || isBreakOrEnd c

/-- Letters of names: digits, Latin letters, dash and underscore. -/
def isNameChar (c : Char) : Bool :=
  c.isAlphanum || c == '-' || c == '_'

namespace Scan

/-- The character at a distance from the cursor. -/
def peek (distance : Nat) : Scan Char := do
  let s ← get
  pure (s.source.chars[s.mark.index + distance]?.getD '\x00')

/-- The first character of the window. -/
def windowFront : Scan Char := do
  let s ← get
  pure (s.source.chars[s.front]?.getD '\x00')

/-- Loads portions until a number of characters from the cursor on are there. Behind the last
portion it adds a single NUL. -/
def load (count : Nat) : List Nat → Scan Unit
  | [] => do
    if (← get).source.broken then failure
    modify fun s => { s with loaded := s.loaded + 1, portions := [] }
  | stop :: rest => do
    modify fun s => { s with loaded := stop, portions := rest }
    if stop < (← get).mark.index + count then load count rest

/-- Makes sure that a number of characters from the cursor on can be read. Where the window holds
fewer, it moves up to the cursor. -/
def need (count : Nat) : Scan Unit := do
  let s ← get
  if s.loaded < s.mark.index + count then
    set { s with front := s.mark.index }
    load count s.portions

/-- Passes one character. -/
def skip : Scan Unit := do
  let c ← peek 0
  modify fun s =>
    { s with
      mark := { s.mark with index := s.mark.index + 1, column := s.mark.column + 1 }
      newlines := if isBlank c then s.newlines else 0 }

/-- Passes several characters. -/
def skips : Nat → Scan Unit
  | 0 => pure ()
  | n + 1 => do
    skip
    skips n

/-- Passes one character and gives it. -/
def next : Scan Char := do
  let c ← peek 0
  skip
  pure c

/-- Passes a line break, where there is one, and gives it in its normal form. -/
def lineBreak : Scan (List Char) := do
  let c ← peek 0
  if !isBreak c then pure []
  else
    need 2
    let pair := c == '\r' && (← peek 1) == '\n'
    modify fun s =>
      { s with
        mark := ⟨s.mark.index + (if pair then 2 else 1), s.mark.line + 1, 0⟩
        newlines := s.newlines + 1 }
    pure (if c == '\u2028' || c == '\u2029' then [c] else ['\n'])

/-- More rounds than a loop over the remaining characters can take. -/
def rounds : Scan Nat := do
  let s ← get
  pure (s.source.chars.size - s.mark.index + 2)

/-- Repeats a step until it gives a result. -/
def iterate (step : α → Scan (α ⊕ β)) : Nat → α → Scan β
  | 0, _ => failure
  | fuel + 1, a => do
    match ← step a with
    | .inl a => iterate step fuel a
    | .inr b => pure b

/-- Passes characters that satisfy a test and gives them. -/
def takeWhile (test : Char → Bool) : Scan String := do
  iterate (fun (text : String) => do
    need 1
    if test (← peek 0) then pure (.inl (text.push (← next))) else pure (.inr text))
    (← rounds) ""

def skipWhile (test : Char → Bool) : Scan Unit := do
  let _ ← takeWhile test

/-- Whether the cursor stands at a line that separates documents, made of the given character. -/
def atIndicator (c : Char) : Scan Bool := do
  if (← get).mark.column ≠ 0 then pure false
  else if (← peek 0) ≠ c then pure false
  else if (← peek 1) ≠ c then pure false
  else if (← peek 2) ≠ c then pure false
  else pure (isBlankOrEnd (← peek 3))

/-- Whether the cursor stands at a line that starts or ends a document. -/
def atDocumentIndicator : Scan Bool := do
  if ← atIndicator '-' then pure true else atIndicator '.'

end Scan

end ExprTree.Yaml
