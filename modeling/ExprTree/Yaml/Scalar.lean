import ExprTree.Numeral
import ExprTree.Yaml.Cursor

/-!
The text of scalars: plain, quoted and in blocks. Line breaks inside the first two are folded, a
single one to a space and more to one less; block text is folded or kept as it is.
-/
namespace ExprTree.Yaml.Scan

/-- What a run of blanks and line breaks leaves in the text. -/
structure Gap where
  /-- Blanks in front of the first line break. -/
  blanks : List Char
  lead : List Char
  trail : List Char
  /-- Whether there was a line break. -/
  broken : Bool

def Gap.none : Gap := ⟨[], [], [], false⟩

/-- The folded form of a gap. -/
def Gap.text (gap : Gap) : List Char :=
  if !gap.broken then gap.blanks
  else if gap.lead.head? == some '\n' then
    if gap.trail.isEmpty then [' '] else gap.trail
  else gap.lead ++ gap.trail

def append (text : String) (chars : List Char) : String :=
  chars.foldl String.push text

/-- Passes blanks and line breaks. A tab in front of the least column of a new line is refused. -/
def scanGap (leastColumn : Option Int) (gap : Gap) : Scan Gap := do
  iterate (fun (gap : Gap) => do
    need 1
    let c ← peek 0
    if isBlank c then
      let column := (← get).mark.column
      if gap.broken && c == '\t' && leastColumn.any fun least => (column : Int) < least then failure
      skip
      if gap.broken then pure (.inl gap) else pure (.inl { gap with blanks := gap.blanks ++ [c] })
    else if isBreak c then
      let read ← lineBreak
      if gap.broken then pure (.inl { gap with trail := gap.trail ++ read })
      else pure (.inl { gap with blanks := [], lead := gap.lead ++ read, broken := true })
    else pure (.inr gap)) (← rounds) gap

/-- Whether a plain scalar ends at the cursor, which stands at no blank. -/
def endsPlain (c : Char) : Scan Bool := do
  if c == ':' then pure (isBlankOrEnd (← peek 1))
  else
    let inFlow := (← get).flowLevel ≠ 0
    pure (inFlow && (c == ',' || c == '?' || c == '[' || c == ']' || c == '{' || c == '}'))

/-- Passes characters of a plain scalar up to a blank or an indicator. The gap in front of them is
only written when a character follows. -/
def plainWord (text : String) (gap : Gap) : Scan (String × Gap) := do
  iterate (fun ((text, gap) : String × Gap) => do
    let c ← peek 0
    if isBlankOrEnd c then pure (.inr (text, gap))
    else if ← endsPlain c then pure (.inr (text, gap))
    else
      skip
      need 2
      pure (.inl ((append text gap.text).push c, Gap.none))) (← rounds) (text, gap)

/-- A plain scalar. It may go on in lines that are indented more than the block around it; after one
that ended with a line break a key may start. -/
def plainScalar : Scan String := do
  let least := (← get).indent + 1
  let (text, gap) ← iterate (fun ((text, gap) : String × Gap) => do
    need 4
    if ← atDocumentIndicator then pure (.inr (text, gap))
    else if (← peek 0) == '#' then pure (.inr (text, gap))
    else
      let (text, gap) ← plainWord text gap
      let c ← peek 0
      if !(isBlank c || isBreak c) then pure (.inr (text, gap))
      else
        let gap ← scanGap (some least) gap
        let s ← get
        if s.flowLevel = 0 && (s.mark.column : Int) < least then pure (.inr (text, gap))
        else pure (.inl (text, gap))) (← rounds) ("", Gap.none)
  if gap.broken then modify fun s => { s with keyAllowed := true }
  pure text

/-- The character of an escape of one letter. -/
def escape? (c : Char) : Option Char :=
  match c with
  | '0' => some '\x00'
  | 'a' => some '\x07'
  | 'b' => some '\x08'
  | 't' => some '\t'
  | '\t' => some '\t'
  | 'n' => some '\n'
  | 'v' => some '\x0b'
  | 'f' => some '\x0c'
  | 'r' => some '\r'
  | 'e' => some '\x1b'
  | ' ' => some ' '
  | '"' => some '"'
  | '\'' => some '\''
  | '\\' => some '\\'
  | 'N' => some '\u0085'
  | '_' => some '\u00a0'
  | 'L' => some '\u2028'
  | 'P' => some '\u2029'
  | _ => none

/-- How many digits follow an escape by number. -/
def escapeDigits? (c : Char) : Option Nat :=
  match c with
  | 'x' => some 2
  | 'u' => some 4
  | 'U' => some 8
  | _ => none

/-- Reads a number of hexadecimal digits. -/
def hexDigits : Nat → Nat → Scan Nat
  | 0, code => pure code
  | count + 1, code => do
    let digit := Numeral.digitValue (← next)
    if digit < 16 then hexDigits count (code * 16 + digit) else failure

/-- The character of an escape, with the cursor at the backslash. -/
def escaped : Scan Char := do
  skip
  let mark ← next
  match escape? mark, escapeDigits? mark with
  | some c, _ => pure c
  | none, some count => do
    need count
    let code ← hexDigits count 0
    match Utf8.scalar? code with
    | some c => pure c
    | none => failure
  | none, none => failure

/-- Passes the characters of a quoted scalar up to a blank or the closing quote. An escaped line
break starts a gap that leaves nothing. -/
def quotedWord (quote : Char) (text : String) : Scan (String × Gap) := do
  iterate (fun (text : String) => do
    let c ← peek 0
    if isBlankOrEnd c then pure (.inr (text, Gap.none))
    else if c == quote then
      if quote == '\'' && (← peek 1) == '\'' then
        skips 2
        need 2
        pure (.inl (text.push '\''))
      else pure (.inr (text, Gap.none))
    else if quote == '"' && c == '\\' then
      if isBreak (← peek 1) then
        need 3
        skip
        let _ ← lineBreak
        pure (.inr (text, { Gap.none with broken := true }))
      else
        let c ← escaped
        need 2
        pure (.inl (text.push c))
    else
      skip
      need 2
      pure (.inl (text.push c))) (← rounds) text

/-- A scalar between quotes. -/
def quotedScalar (quote : Char) : Scan String := do
  skip
  iterate (fun (text : String) => do
    need 4
    if ← atDocumentIndicator then failure
    if isEnd (← peek 0) then failure
    let (text, gap) ← quotedWord quote text
    need 1
    if (← peek 0) == quote then
      skip
      pure (.inr text)
    else
      let gap ← scanGap none gap
      pure (.inl (append text gap.text))) (← rounds) ""

/-- What becomes of the line breaks at the end of a block scalar. -/
inductive Chomping where
  | strip
  | clip
  | keep
  deriving DecidableEq, Repr

def chomping? (c : Char) : Option Chomping :=
  if c == '+' then some .keep else if c == '-' then some .strip else none

/-- An indentation indicator; zero is refused. -/
def indentation? : Scan (Option Nat) := do
  need 1
  let c ← peek 0
  if !c.isDigit then pure none
  else if c == '0' then failure
  else
    skip
    pure (some (Numeral.digitValue c))

/-- The indicators behind the mark of a block scalar, in either order. -/
def blockIndicators : Scan (Chomping × Option Nat) := do
  need 1
  match chomping? (← peek 0) with
  | some chomping =>
    skip
    pure (chomping, ← indentation?)
  | none =>
    match ← indentation? with
    | none => pure (.clip, none)
    | some width =>
      need 1
      match chomping? (← peek 0) with
      | some chomping =>
        skip
        pure (chomping, some width)
      | none => pure (.clip, some width)

/-- Passes the rest of a line that may only hold a comment. -/
def restOfLine : Scan Unit := do
  skipWhile isBlank
  if (← peek 0) == '#' then skipWhile fun c => !isBreakOrEnd c
  if !isBreakOrEnd (← peek 0) then failure
  let _ ← lineBreak

/-- Passes empty lines and indentation in a block scalar. Indent 0 means that it is not known yet,
and then the widest of these lines decides. -/
def blockBreaks (indent : Nat) : Scan (Nat × List Char) := do
  let (breaks, widest) ← iterate (fun ((breaks, widest) : List Char × Nat) => do
    let _ ← iterate (fun (_ : Unit) => do
      need 1
      let column := (← get).mark.column
      if (indent = 0 ∨ column < indent) ∧ (← peek 0) == ' ' then
        skip
        pure (.inl ())
      else pure (.inr ())) (← rounds) ()
    let column := (← get).mark.column
    let widest := max widest column
    let c ← peek 0
    if (indent = 0 ∨ column < indent) ∧ c == '\t' then failure
    else if !isBreak c then pure (.inr (breaks, widest))
    else pure (.inl (breaks ++ (← lineBreak), widest))) (← rounds) ([], 0)
  if indent ≠ 0 then pure (indent, breaks)
  else
    let around := ((← get).indent + 1).toNat
    pure (max (max widest around) 1, breaks)

/-- A block scalar so far. -/
structure Block where
  text : String
  lead : List Char
  breaks : List Char
  /-- Whether the last line started with a blank, which keeps the break behind it. -/
  indented : Bool

/-- A block scalar, literal or folded. -/
def blockScalar (literal : Bool) : Scan String := do
  skip
  let (chomping, width) ← blockIndicators
  restOfLine
  let around := (← get).indent
  let given := match width with
    | some width => if 0 ≤ around then around.toNat + width else width
    | none => 0
  let (indent, breaks) ← blockBreaks given
  let last ← iterate (fun (b : Block) => do
    let c ← peek 0
    if (← get).mark.column ≠ indent || isEnd c then pure (.inr b)
    else
      let fold := !literal && !b.indented && !isBlank c && b.lead.head? == some '\n'
      let join := if !fold then b.lead else if b.breaks.isEmpty then [' '] else []
      let line ← takeWhile fun c => !isBreakOrEnd c
      need 2
      let lead ← lineBreak
      let (_, breaks) ← blockBreaks indent
      pure (.inl ⟨append b.text (join ++ b.breaks) ++ line, lead, breaks, isBlank c⟩))
    (← rounds) ⟨"", [], breaks, false⟩
  match chomping with
  | .strip => pure last.text
  | .clip => pure (append last.text last.lead)
  | .keep => pure (append last.text (last.lead ++ last.breaks))

end ExprTree.Yaml.Scan
