import ExprTree.Entries
import ExprTree.Yaml.Stream

/-!
The nodes of a YAML document, read from the token stream by recursive descent. Each function takes
the number of calls that may still be nested in it; a document cannot nest more than it has tokens.
-/
namespace ExprTree.Yaml

/-- A node with the line where it starts, counted from one. -/
inductive Node where
  /-- The tag is empty where none is given. -/
  | scalar (line : Nat) (tag : String) (plain : Bool) (text : String)
  | sequence (line : Nat) (items : List Node)
  | mapping (line : Nat) (pairs : List (Node × Node))
  | alias (line : Nat) (target : Node)
  /-- An alias of a node that it stands in. -/
  | circular (line : Nat)

instance : Inhabited Node := ⟨.scalar 0 "" true ""⟩

/-- What directives and anchors have defined. An anchor carries the order of its appearance and its
node, once that has ended. -/
structure Definitions where
  handles : List (String × String)
  anchors : Entries (Nat × Option Node)
  count : Nat

/-- Reading nodes from the token stream. -/
abbrev Build := StateT Definitions Scan

namespace Build

def peek : Build Token := do pure (← Scan.peekToken).token

def line : Build Nat := do pure ((← Scan.peekToken).mark.line + 1)

def take : Build Unit := do Scan.takeToken

/-- An absent node in front of the next token. -/
def absent : Build Node := do pure (.scalar (← line) "" true "")

/-- What stands in front of a node's content. -/
structure Properties where
  line : Nat
  anchor : Option (String × Nat)
  tag : String

/-- Notes that an anchor appears. From here on its name stands for the node behind it. -/
def appear (name : String) : Build (String × Nat) :=
  modifyGet fun d =>
    ((name, d.count),
      { d with anchors := Entries.set d.anchors name (d.count, none), count := d.count + 1 })

/-- The full name of a tag; its handle has to be defined. -/
def tagName (handle suffix : String) : Build String := do
  if handle = "" then pure suffix
  else
    match Entries.get? (← get).handles handle with
    | some expansion => if expansion ++ suffix = "" then failure else pure (expansion ++ suffix)
    | none => failure

/-- Reads an anchor and a tag, in either order. -/
def properties : Build Properties := do
  let start ← line
  match ← peek with
  | .anchor name =>
    take
    let anchor ← appear name
    match ← peek with
    | .tag handle suffix =>
      take
      let _ ← peek
      pure ⟨start, some anchor, ← tagName handle suffix⟩
    | _ => pure ⟨start, some anchor, ""⟩
  | .tag handle suffix =>
    take
    match ← peek with
    | .anchor name =>
      take
      let _ ← peek
      pure ⟨start, some (← appear name), ← tagName handle suffix⟩
    | _ => pure ⟨start, none, ← tagName handle suffix⟩
  | _ => pure ⟨start, none, ""⟩

/-- Completes an anchor, unless one that appeared later has taken its name. -/
def define (anchor : Option (String × Nat)) (node : Node) : Build Unit :=
  match anchor with
  | none => pure ()
  | some (name, order) => modify fun d =>
    match Entries.get? d.anchors name with
    | some (holder, _) =>
      if holder = order then { d with anchors := Entries.set d.anchors name (order, some node) }
      else d
    | none => d

/-- Whether a token ends the part of a block mapping that a key or value may fill. -/
def endsBlockPart : Token → Bool
  | .key => true
  | .value => true
  | .blockEnd => true
  | _ => false

mutual

/-- A node. `block` allows block collections, and `indentless` a sequence at the column of the
mapping around it. -/
def node (block indentless : Bool) : Nat → Build Node
  | 0 => failure
  | fuel + 1 => do
    match ← peek with
    | .alias name =>
      let start ← line
      match Entries.get? (← get).anchors name with
      | some (_, some target) =>
        take
        pure (.alias start target)
      | some (_, none) =>
        take
        pure (.circular start)
      | none => failure
    | _ =>
      let p ← properties
      let result ← content block indentless p fuel
      define p.anchor result
      pure result

/-- What follows the properties of a node. -/
def content (block indentless : Bool) (p : Properties) : Nat → Build Node
  | 0 => failure
  | fuel + 1 => do
    match ← peek, block, indentless with
    | .blockEntry, _, true => pure (.sequence p.line (← indentlessItems fuel))
    | .scalar text plain, _, _ =>
      take
      pure (.scalar p.line p.tag plain text)
    | .flowSequenceStart, _, _ =>
      take
      pure (.sequence p.line (← flowItems true fuel))
    | .flowMappingStart, _, _ =>
      take
      pure (.mapping p.line (← flowPairs true fuel))
    | .blockSequenceStart, true, _ =>
      take
      pure (.sequence p.line (← blockItems fuel))
    | .blockMappingStart, true, _ =>
      take
      pure (.mapping p.line (← blockPairs fuel))
    | _, _, _ => if p.anchor.isSome || p.tag ≠ "" then pure (.scalar p.line p.tag true "") else failure

def blockItems : Nat → Build (List Node)
  | 0 => failure
  | fuel + 1 => do
    match ← peek with
    | .blockEntry =>
      take
      let item ← match ← peek with
        | .blockEntry => absent
        | .blockEnd => absent
        | _ => node true false fuel
      pure (item :: (← blockItems fuel))
    | .blockEnd =>
      take
      pure []
    | _ => failure

def indentlessItems : Nat → Build (List Node)
  | 0 => failure
  | fuel + 1 => do
    match ← peek with
    | .blockEntry =>
      take
      let token ← peek
      let item ←
        if token = .blockEntry || endsBlockPart token then absent else node true false fuel
      pure (item :: (← indentlessItems fuel))
    | _ => pure []

def blockPairs : Nat → Build (List (Node × Node))
  | 0 => failure
  | fuel + 1 => do
    match ← peek with
    | .key =>
      take
      let key ← if endsBlockPart (← peek) then absent else node true true fuel
      let value ← blockValue fuel
      pure ((key, value) :: (← blockPairs fuel))
    | .blockEnd =>
      take
      pure []
    | _ => failure

def blockValue : Nat → Build Node
  | 0 => failure
  | fuel + 1 => do
    match ← peek with
    | .value =>
      take
      if endsBlockPart (← peek) then absent else node true true fuel
    | _ => absent

def flowItems (first : Bool) : Nat → Build (List Node)
  | 0 => failure
  | fuel + 1 => do
    if (← peek) = .flowSequenceEnd then
      take
      pure []
    else
      if !first then
        if (← peek) = .flowEntry then take else failure
      match ← peek with
      | .flowSequenceEnd =>
        take
        pure []
      | .key =>
        let start ← line
        take
        let pair ← flowPair fuel
        let _ ← peek
        pure (.mapping start [pair] :: (← flowItems false fuel))
      | _ =>
        let item ← node false false fuel
        pure (item :: (← flowItems false fuel))

/-- A mapping of one pair that stands as an item of a flow sequence. An absent key takes the token
behind it along. -/
def flowPair : Nat → Build (Node × Node)
  | 0 => failure
  | fuel + 1 => do
    let token ← peek
    let key ←
      if token = .value || token = .flowEntry || token = .flowSequenceEnd then do
        let key ← absent
        take
        pure key
      else node false false fuel
    let value ← match ← peek with
      | .value =>
        take
        let token ← peek
        if token = .flowEntry || token = .flowSequenceEnd then absent else node false false fuel
      | _ => absent
    pure (key, value)

def flowPairs (first : Bool) : Nat → Build (List (Node × Node))
  | 0 => failure
  | fuel + 1 => do
    if (← peek) = .flowMappingEnd then
      take
      pure []
    else
      if !first then
        if (← peek) = .flowEntry then take else failure
      match ← peek with
      | .flowMappingEnd =>
        take
        pure []
      | .key =>
        take
        let token ← peek
        let key ←
          if token = .value || token = .flowEntry || token = .flowMappingEnd then absent
          else node false false fuel
        let value ← flowValue fuel
        pure ((key, value) :: (← flowPairs false fuel))
      | _ =>
        let key ← node false false fuel
        let value ← absent
        pure ((key, value) :: (← flowPairs false fuel))

def flowValue : Nat → Build Node
  | 0 => failure
  | fuel + 1 => do
    match ← peek with
    | .value =>
      take
      let token ← peek
      if token = .flowEntry || token = .flowMappingEnd then absent else node false false fuel
    | _ => absent

end

/-- The handles that need no directive. -/
def standardHandles : List (String × String) :=
  [("!", "!"), ("!!", "tag:yaml.org,2002:")]

/-- Adds the standard handles that no directive has defined. -/
def completeHandles : Build Unit :=
  modify fun d =>
    { d with
      handles := d.handles ++ standardHandles.filter fun h => (Entries.get? d.handles h.1).isNone }

/-- Reads the directives in front of a document: at most one version, which has to be 1.1, and each
handle once. -/
def directives (versioned : Bool) : Nat → Build Unit
  | 0 => failure
  | fuel + 1 => do
    match ← peek with
    | .versionDirective major minor =>
      if versioned || major ≠ 1 || minor ≠ 1 then failure
      take
      directives true fuel
    | .tagDirective handle expansion =>
      if (Entries.get? (← get).handles handle).isSome then failure
      modify fun d => { d with handles := d.handles ++ [(handle, expansion)] }
      take
      directives versioned fuel
    | _ => completeHandles

/-- Whether a token can only stand between documents. -/
def isBetween : Token → Bool
  | .versionDirective .. => true
  | .tagDirective .. => true
  | .documentStart => true
  | .documentEnd => true
  | .streamEnd => true
  | _ => false

/-- The root of the first document; `none` if the stream holds none. What follows the document is
not looked at, save for the next token. -/
def document (fuel : Nat) : Build (Option Node) := do
  take
  match ← peek with
  | .streamEnd => pure none
  | token =>
    let root ←
      if isBetween token && token ≠ .documentEnd then do
        directives false fuel
        if (← peek) ≠ .documentStart then failure
        take
        if isBetween (← peek) then absent else node true false fuel
      else do
        completeHandles
        node true false fuel
    let _ ← peek
    pure (some root)

end Build

/-- The root of the first document of a stream, `none` inside if there is no document and outside
if the stream is not YAML. -/
def parse? (octets : List UInt8) : Option (Option Node) :=
  let octets := if octets.isEmpty then [0x0A] else octets
  let source := Source.ofOctets octets
  let fuel := 4 * source.chars.size + 16
  ((Build.document fuel).run ⟨[], [], 0⟩ |>.run (Cursor.start source)).map fun r => r.1.1

end ExprTree.Yaml
