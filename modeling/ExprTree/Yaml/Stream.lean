import ExprTree.Yaml.Scalar

/-!
The stream of tokens. Block structure follows from indentation: a deeper column opens a block and a
lesser one closes blocks. A mapping key without its own mark is found out only by the colon behind
it, so its place is remembered and the tokens that open the mapping are put in later.
-/
namespace ExprTree.Yaml.Scan

/-- How deep flow collections, and blocks, may be nested. -/
def maxDepth : Nat := 10000

def push (token : Token) (mark : Mark) : Scan Unit :=
  modify fun s => { s with queue := s.queue ++ [⟨token, mark⟩] }

/-- Puts a token in front of the one with a number, or last if that one is taken already. -/
def pushBefore (number : Nat) (token : Token) (mark : Mark) : Scan Unit :=
  modify fun s =>
    let place := if number < s.taken then s.queue.length else number - s.taken
    { s with queue := s.queue.take place ++ ⟨token, mark⟩ :: s.queue.drop place }

/-- Replaces the candidate key of the innermost level. -/
def setKey (key : SimpleKey) : Scan Unit :=
  modify fun s => { s with keys := s.keys.pop.push key }

/-- Waits no longer for what becomes of a token. -/
def settle (number : Nat) : Scan Unit :=
  modify fun s => { s with undecided := s.undecided.filter fun u => u.1 ≠ number }

/-- Gives up the candidate key of the innermost level. -/
def dropKey : Scan Unit := do
  match (← get).keys.back? with
  | none => pure ()
  | some key =>
    if key.possible then
      if key.required then failure
      setKey { key with possible := false }
      settle key.number

/-- Remembers the cursor as a candidate key, where one may start. -/
def saveKey : Scan Unit := do
  let s ← get
  if s.keyAllowed then
    dropKey
    let number := s.taken + s.queue.length
    setKey
      { possible := true
        required := s.flowLevel = 0 && s.indent = (s.mark.column : Int)
        number := number
        mark := s.mark }
    settle number
    modify fun s => { s with undecided := (number, s.keys.size - 1) :: s.undecided }

/-- The candidate of a level if it can still become a key: on one line and within 1024 characters.
One that cannot is no candidate any more. -/
def validKey? (level : Nat) : Scan (Option SimpleKey) := do
  let s ← get
  match s.keys[level]? with
  | none => failure
  | some key =>
    if !key.possible then pure none
    else if key.mark.line < s.mark.line || key.mark.index + 1024 < s.mark.index then
      if key.required then failure
      set { s with keys := s.keys.setIfInBounds level { key with possible := false } }
      pure none
    else pure (some key)

/-- Opens a block at a column that is deeper than the blocks around it. -/
def openBlock (column : Nat) (number : Option Nat) (token : Token) (mark : Mark) : Scan Unit := do
  let s ← get
  if s.flowLevel = 0 && s.indent < (column : Int) then
    if maxDepth < s.indents.length + 1 then failure
    set { s with indents := s.indent :: s.indents, indent := (column : Int) }
    match number with
    | some number => pushBefore number token mark
    | none => push token mark

/-- The blocks that end before a column: how many, and what is left. -/
def endedBlocks (column : Int) : Int → List Int → Nat × Int × List Int
  | indent, [] => (0, indent, [])
  | indent, outer :: rest =>
    if column < indent then
      let (count, left) := endedBlocks column outer rest
      (count + 1, left)
    else (0, indent, outer :: rest)

/-- Closes the blocks that a column ends. -/
def closeBlocks (column : Int) : Scan Unit := do
  let s ← get
  if s.flowLevel = 0 then
    let (count, indent, indents) := endedBlocks column s.indent s.indents
    let ends : List Placed := List.replicate count ⟨.blockEnd, s.mark⟩
    set { s with indent := indent, indents := indents, queue := s.queue ++ ends }

def allowKey (allowed : Bool) : Scan Unit :=
  modify fun s => { s with keyAllowed := allowed }

/-- Moves on to the character with an index. -/
def skipTo (index : Nat) : Scan Unit := do
  iterate (fun (_ : Unit) => do
    if index ≤ (← get).mark.index then pure (.inr ())
    else if isBreak (← peek 0) then
      let _ ← lineBreak
      pure (.inl ())
    else
      skip
      pure (.inl ())) (← rounds) ()

/-- How far ahead a comment is looked for. -/
def commentReach : Nat := 512

/-- The distance of a comment, from a distance on, on the same line. -/
def commentBehind : Nat → Nat → Scan (Option Nat)
  | 0, _ => pure none
  | fuel + 1, distance => do
    need (distance + 1)
    let c ← peek distance
    if isBlank c then commentBehind fuel (distance + 1)
    else pure (if c == '#' then some distance else none)

/-- The distance of a comment, from a distance on, on this line or below. The look goes on only
behind an ASCII character. -/
def commentBelow : Nat → Nat → Scan (Option Nat)
  | 0, _ => pure none
  | fuel + 1, distance => do
    need (distance + 1)
    let c ← peek distance
    if (← peek (distance - 1)).toNat ≥ 0x80 then pure none
    else if isBlank c || isBreak c then commentBelow fuel (distance + 1)
    else pure (if c == '#' then some distance else none)

/-- Passes a comment and the comments in the lines below it. -/
def comments : Scan Unit := do
  iterate (fun (_ : Unit) => do
    skipWhile fun c => !isBreakOrEnd c
    match ← commentBelow (commentReach - 1) 1 with
    | some distance =>
      skipTo ((← get).mark.index + distance)
      pure (.inl ())
    | none => pure (.inr ())) (← rounds) ()

/-- Passes a comment behind a token on the same line. -/
def lineComment : Scan Unit := do
  if (← get).newlines = 0 then
    match ← commentBehind commentReach 0 with
    | some distance =>
      skips distance
      skipWhile fun c => !isBreakOrEnd c
    | none => pure ()

/-- Passes blanks, comments and line breaks. While the window starts with a byte order mark, a line
loses its first character. In block context a tab may not stand where a key may start, and a new
line lets a key start. -/
def toNextToken : Scan Unit := do
  iterate (fun (_ : Unit) => do
    need 1
    if (← get).mark.column = 0 && (← windowFront) == '\uFEFF' then skip
    let s ← get
    let tabs := s.flowLevel ≠ 0 || !s.keyAllowed
    skipWhile fun c => c == ' ' || (tabs && c == '\t')
    if (← peek 0) == '#' then comments
    if isBreak (← peek 0) then
      let _ ← lineBreak
      if (← get).flowLevel = 0 then allowKey true
      pure (.inl ())
    else pure (.inr ())) (← rounds) ()

/-- A number of a version: one or two digits. -/
def versionNumber : Scan Nat := do
  let digits := (← takeWhile Char.isDigit).toList
  if digits.isEmpty || 2 < digits.length then failure
  pure (Numeral.valueOf 10 digits)

/-- A tag handle: an exclamation mark, letters and, in its full form, another mark. A directive
needs the full form or the mark alone. -/
def tagHandle (directive : Bool) : Scan String := do
  need 1
  if (← peek 0) ≠ '!' then failure
  skip
  let name ← takeWhile isNameChar
  if (← peek 0) == '!' then
    skip
    pure ("!" ++ name ++ "!")
  else if directive && name ≠ "" then failure
  else pure ("!" ++ name)

/-- Characters of a tag besides escapes. -/
def isTagChar (c : Char) : Bool :=
  isNameChar c || c ∈ [';', '/', '?', ':', '@', '&', '=', '+', '$', ',', '.', '!', '~', '*', '\'',
    '(', ')', '[', ']']

/-- One escaped octet of a tag. -/
def tagOctet : Scan UInt8 := do
  need 3
  if (← peek 0) ≠ '%' then failure
  skip
  pure (UInt8.ofNat (← hexDigits 2 0))

/-- An escaped character of a tag; all of its octets have to be there. -/
def tagEscape : Scan (List UInt8) := do
  let first ← tagOctet
  match utf8Size? first with
  | none => failure
  | some size => do
    let rec more : Nat → Scan (List UInt8)
      | 0 => pure []
      | n + 1 => do
        let octet ← tagOctet
        if !Utf8.isTail octet then failure
        pure (octet :: (← more n))
    pure (first :: (← more (size - 1)))

/-- The body of a tag after what has been read of it. Something has to be there in all. -/
def tagBody (head : String) : Scan String := do
  let (text, found) ← iterate (fun ((text, found) : String × Bool) => do
    need 1
    let c ← peek 0
    if c == '%' then pure (.inl (append text (Utf8.decodeLossy (← tagEscape)), true))
    else if isTagChar c then pure (.inl (text.push (← next), true))
    else pure (.inr (text, found))) (← rounds) (String.ofList (head.toList.drop 1), head != "")
  if found then pure text else failure

/-- A directive line, from its percent sign to the line break. -/
def directive : Scan Token := do
  skip
  let name ← takeWhile isNameChar
  if name = "" || !isBlankOrEnd (← peek 0) then failure
  let token ←
    if name = "YAML" then do
      skipWhile isBlank
      let major ← versionNumber
      if (← next) ≠ '.' then failure
      pure (Token.versionDirective major (← versionNumber))
    else if name = "TAG" then do
      skipWhile isBlank
      let handle ← tagHandle true
      if !isBlank (← peek 0) then failure
      skipWhile isBlank
      let expansion ← tagBody ""
      if !isBlankOrEnd (← peek 0) then failure
      pure (Token.tagDirective handle expansion)
    else failure
  restOfLine
  pure token

/-- The name behind the mark of an anchor or alias. -/
def anchorName : Scan String := do
  skip
  let name ← takeWhile isNameChar
  let c ← peek 0
  if name = "" || !(isBlankOrEnd c || c ∈ ['?', ':', ',', ']', '}', '%', '@', '`']) then failure
  pure name

/-- A tag: by its full name between angle brackets, or by a handle and the rest. -/
def tagToken : Scan Token := do
  need 2
  let token ←
    if (← peek 1) == '<' then do
      skips 2
      let name ← tagBody ""
      if (← next) ≠ '>' then failure
      pure (Token.tag "" name)
    else do
      let handle ← tagHandle false
      if 1 < handle.length && handle.endsWith "!" then pure (Token.tag handle (← tagBody ""))
      else
        let suffix ← tagBody handle
        pure (if suffix = "" then Token.tag "" handle else Token.tag "!" suffix)
  need 1
  if isBlankOrEnd (← peek 0) then pure token else failure

/-- Cuts off an indicator of one or more characters. -/
def indicator (width : Nat) (token : Token) : Scan Unit := do
  let mark := (← get).mark
  skips width
  push token mark

def openFlow (token : Token) : Scan Unit := do
  saveKey
  let s ← get
  if maxDepth < s.flowLevel + 1 then failure
  let vacant : SimpleKey := ⟨false, false, s.taken + s.queue.length, s.mark⟩
  set { s with keys := s.keys.push vacant, flowLevel := s.flowLevel + 1 }
  allowKey true
  indicator 1 token

/-- Closes a flow level. The token that opened it counts as decided if nothing in it was a
candidate. -/
def closeFlow (token : Token) : Scan Unit := do
  dropKey
  let s ← get
  if s.flowLevel ≠ 0 then
    match s.keys.back? with
    | some key => settle key.number
    | none => pure ()
    modify fun s => { s with keys := s.keys.pop, flowLevel := s.flowLevel - 1 }
  allowKey false
  indicator 1 token

def flowEntry : Scan Unit := do
  dropKey
  allowKey true
  indicator 1 .flowEntry

def blockEntry : Scan Unit := do
  let s ← get
  if s.flowLevel = 0 then
    if !s.keyAllowed then failure
    openBlock s.mark.column none .blockSequenceStart s.mark
  dropKey
  allowKey true
  indicator 1 .blockEntry

def keyMark : Scan Unit := do
  let s ← get
  if s.flowLevel = 0 then
    if !s.keyAllowed then failure
    openBlock s.mark.column none .blockMappingStart s.mark
  dropKey
  allowKey (s.flowLevel = 0)
  indicator 1 .key

/-- A colon: behind a candidate it makes a key of it, and else it has to follow a marked key. -/
def valueMark : Scan Unit := do
  let s ← get
  match ← validKey? (s.keys.size - 1) with
  | some key =>
    pushBefore key.number .key key.mark
    openBlock key.mark.column (some key.number) .blockMappingStart key.mark
    setKey { key with possible := false }
    settle key.number
    allowKey false
  | none =>
    if s.flowLevel = 0 then
      if !s.keyAllowed then failure
      openBlock s.mark.column none .blockMappingStart s.mark
    allowKey (s.flowLevel = 0)
  indicator 1 .value

/-- Cuts off a token that may start a key. -/
def candidate (scan : Scan Token) : Scan Unit := do
  saveKey
  allowKey false
  let mark := (← get).mark
  let token ← scan
  push token mark

def blockText (literal : Bool) : Scan Unit := do
  dropKey
  allowKey true
  let mark := (← get).mark
  let text ← blockScalar literal
  push (.scalar text false) mark

/-- What ends every block: a directive, a document mark or the end. -/
def endAll : Scan Unit := do
  closeBlocks (-1)
  dropKey
  allowKey false

def streamEnd : Scan Unit := do
  modify fun s =>
    if s.mark.column = 0 then s
    else { s with mark := { s.mark with column := 0, line := s.mark.line + 1 } }
  endAll
  push .streamEnd (← get).mark

/-- Whether a plain scalar may start with a character that another follows. -/
def startsPlain (inFlow : Bool) (c after : Char) : Bool :=
  !(isBlankOrEnd c || c ∈ ['-', '?', ':', ',', '[', ']', '{', '}', '#', '&', '*', '!', '|', '>',
      '\'', '"', '%', '@', '`'])
    || (c == '-' && !isBlank after)
    || (!inFlow && (c == '?' || c == ':') && !isBlankOrEnd after)

/-- Cuts off the token at the cursor, inside a document. -/
def contentToken : Scan Unit := do
  let c ← peek 0
  let after ← peek 1
  let inFlow := (← get).flowLevel ≠ 0
  if c == '[' then openFlow .flowSequenceStart
  else if c == '{' then openFlow .flowMappingStart
  else if c == ']' then closeFlow .flowSequenceEnd
  else if c == '}' then closeFlow .flowMappingEnd
  else if c == ',' then flowEntry
  else if c == '-' && isBlankOrEnd after then blockEntry
  else if c == '?' && (inFlow || isBlankOrEnd after) then keyMark
  else if c == ':' && (inFlow || isBlankOrEnd after) then valueMark
  else if c == '*' then candidate (Token.alias <$> anchorName)
  else if c == '&' then candidate (Token.anchor <$> anchorName)
  else if c == '!' then candidate tagToken
  else if c == '|' && !inFlow then blockText true
  else if c == '>' && !inFlow then blockText false
  else if c == '\'' || c == '"' then candidate do pure (.scalar (← quotedScalar c) false)
  else if startsPlain inFlow c after then candidate do pure (.scalar (← plainScalar) true)
  else failure

/-- Cuts off at least one more token. -/
def fetch : Scan Unit := do
  need 1
  if !(← get).started then
    modify fun s =>
      { s with started := true, keyAllowed := true, keys := #[⟨false, false, 0, s.mark⟩] }
    push .streamStart (← get).mark
  else
    toNextToken
    closeBlocks (← get).mark.column
    need 4
    if isEnd (← peek 0) then streamEnd
    else if (← get).mark.column = 0 && (← peek 0) == '%' then
      endAll
      let mark := (← get).mark
      let token ← directive
      push token mark
    else if ← atIndicator '-' then
      endAll
      indicator 3 .documentStart
    else if ← atIndicator '.' then
      endAll
      indicator 3 .documentEnd
    else
      contentToken
      match (← get).queue.getLast? with
      | some ⟨.blockEntry, _⟩ => pure ()
      | _ => lineComment

/-- Whether the next token may still turn out to start a key. -/
def headUndecided : Scan Bool := do
  let s ← get
  match s.undecided.find? fun u => u.1 == s.taken with
  | some (_, level) => pure (← validKey? level).isSome
  | none => pure false

/-- The next token. Two more are always cut behind it, and as many as it takes to know that the
next one starts no key. -/
def peekToken : Scan Placed := do
  iterate (fun (_ : Unit) => do
    let s ← get
    match s.queue with
    | first :: _ :: _ :: _ =>
      if ← headUndecided then
        fetch
        pure (.inl ())
      else pure (.inr first)
    | _ =>
      fetch
      pure (.inl ())) ((← rounds) + 4) ()

/-- Takes the next token. -/
def takeToken : Scan Unit := do
  let _ ← peekToken
  modify fun s =>
    { s with
      queue := s.queue.drop 1
      taken := s.taken + 1
      undecided := s.undecided.filter fun u => s.taken < u.1 }

end ExprTree.Yaml.Scan
