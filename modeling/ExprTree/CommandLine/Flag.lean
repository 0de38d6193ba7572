import ExprTree.Entries
import ExprTree.Numeral
import ExprTree.Text.Escaped

/-!
Flags on a command line. A flag has a long name and perhaps a letter. A switch needs no value and
takes one only behind an equals sign; the other flags take the next argument when there is none.
Flags and other arguments may come in any order up to an argument `--`.
-/
namespace ExprTree.CommandLine

/-- What kind of value a flag has. -/
inductive FlagType where
  | text
  | switch
  | integer
  deriving DecidableEq, Repr

structure Flag where
  name : String
  letter : Option Char
  type : FlagType
  deriving DecidableEq, Repr

/-- A value given to a flag. -/
inductive Setting where
  | text (s : String)
  | switch (on : Bool)
  | integer (i : Int)
  deriving DecidableEq, Repr

/-- Why a text is no value of a flag. -/
inductive ValueFault where
  | notSwitch (text : String)
  | notInteger (text : String)
  | outOfRange (text : String)
  deriving DecidableEq, Repr

def ValueFault.message : ValueFault → String
  | notSwitch text => "strconv.ParseBool: parsing " ++ Text.escaped text ++ ": invalid syntax"
  | notInteger text => "strconv.ParseInt: parsing " ++ Text.escaped text ++ ": invalid syntax"
  | outOfRange text => "strconv.ParseInt: parsing " ++ Text.escaped text ++ ": value out of range"

/-- Why arguments cannot be read. -/
inductive FlagFault where
  | malformed (argument : String)
  | unknown (name : String)
  | unknownLetter (letter : Char) (cluster : String)
  | noValue (name : String)
  | noValueLetter (letter : Char) (cluster : String)
  | invalid (value : String) (flag : Flag) (fault : ValueFault)
  /-- Help was asked for where there is no flag for it. -/
  | help
  deriving DecidableEq, Repr

/-- All names of a flag. -/
def Flag.title (flag : Flag) : String :=
  match flag.letter with
  | some letter => String.ofList ['-', letter, ',', ' '] ++ "--" ++ flag.name
  | none => "--" ++ flag.name

def FlagFault.message : FlagFault → String
  | malformed argument => "bad flag syntax: " ++ argument
  | unknown name => "unknown flag: --" ++ name
  | unknownLetter letter cluster =>
    "unknown shorthand flag: " ++ Text.escapedSingle letter ++ " in -" ++ cluster
  | noValue name => "flag needs an argument: --" ++ name
  | noValueLetter letter cluster =>
    "flag needs an argument: " ++ Text.escapedSingle letter ++ " in -" ++ cluster
  | invalid value flag fault =>
    "invalid argument " ++ Text.escaped value ++ " for " ++ Text.escaped flag.title ++ " flag: "
      ++ fault.message
  | help => "pflag: help requested"

/-- The words for on and off. -/
def switch? (text : String) : Option Bool :=
  if text ∈ ["1", "t", "T", "TRUE", "true", "True"] then some true
  else if text ∈ ["0", "f", "F", "FALSE", "false", "False"] then some false
  else none

/-- The value that a text gives a flag. -/
def Flag.read (flag : Flag) (text : String) : Except ValueFault Setting :=
  match flag.type with
  | .text => .ok (.text text)
  | .switch =>
    match switch? text with
    | some on => .ok (.switch on)
    | none => .error (.notSwitch text)
  | .integer =>
    match Numeral.signed64 0 text.toList with
    | .ok i => .ok (.integer i)
    | .error .malformed => .error (.notInteger text)
    | .error .outOfRange => .error (.outOfRange text)

/-- What was read from a command line: the last value of each flag, and the other arguments. -/
structure Parsed where
  settings : Entries Setting
  arguments : List String

namespace Parsed

/-- Gives a flag the value that a text spells. -/
def assign (parsed : Parsed) (flag : Flag) (text : String) : Except FlagFault Parsed :=
  match flag.read text with
  | .ok setting => .ok { parsed with settings := Entries.set parsed.settings flag.name setting }
  | .error fault => .error (.invalid text flag fault)

def addArguments (parsed : Parsed) (more : List String) : Parsed :=
  { parsed with arguments := parsed.arguments ++ more }

def text (parsed : Parsed) (name default : String) : String :=
  match Entries.get? parsed.settings name with
  | some (.text s) => s
  | _ => default

def isOn (parsed : Parsed) (name : String) : Bool :=
  match Entries.get? parsed.settings name with
  | some (.switch on) => on
  | _ => false

def integer (parsed : Parsed) (name : String) : Int :=
  match Entries.get? parsed.settings name with
  | some (.integer i) => i
  | _ => 0

end Parsed

/-- The flag with a long name. -/
def byName (flags : List Flag) (name : String) : Option Flag :=
  flags.find? fun flag => flag.name == name

/-- The flag with a letter. -/
def byLetter (flags : List Flag) (letter : Char) : Option Flag :=
  flags.find? fun flag => flag.letter == some letter

/-- Cuts a text at its first equals sign. -/
def cutAtEquals (text : List Char) : List Char × Option (List Char) :=
  match text.dropWhile (· ≠ '=') with
  | _ :: value => (text.takeWhile (· ≠ '='), some value)
  | [] => (text, none)

/-- What one argument asks for: settings, and perhaps a flag whose value is the next argument. -/
structure Piece where
  parsed : Parsed
  /-- The flag that waits, with the fault that it is when nothing follows. -/
  waiting : Option (Flag × FlagFault)

/-- Reads a long flag, given without its two dashes. -/
def parseLong (flags : List Flag) (parsed : Parsed) (body : List Char) :
    Except FlagFault Piece := do
  match body with
  | [] => .error (.malformed "--")
  | first :: _ =>
    if first = '-' ∨ first = '=' then .error (.malformed ("--" ++ String.ofList body))
    else
      let (chars, value) := cutAtEquals body
      let name := String.ofList chars
      match byName flags name with
      | none => .error (if name = "help" then .help else .unknown name)
      | some flag =>
        match value with
        | some text => .ok ⟨← parsed.assign flag (String.ofList text), none⟩
        | none =>
          if flag.type = .switch then .ok ⟨← parsed.assign flag "true", none⟩
          else .ok ⟨parsed, some (flag, .noValue name)⟩

/-- How a message shows a letter. Those outside ASCII are shown by the first octet of their code,
read as a character. -/
def shownLetter (letter : Char) : Char :=
  if letter.toNat < 0x80 then letter else 'Ã'

/-- Reads a cluster of letters, given without its dash. What follows a letter that takes a value is
that value. A cluster that begins with `test.` is left to others. -/
def parseCluster (flags : List Flag) (parsed : Parsed) : List Char → Except FlagFault Piece
  | [] => .ok ⟨parsed, none⟩
  | letter :: rest =>
    let cluster := letter :: rest
    if "test.".toList.isPrefixOf cluster then .ok ⟨parsed, none⟩
    else
      match byLetter flags letter with
      | none =>
        .error (if letter = 'h' then .help
          else .unknownLetter (shownLetter letter) (String.ofList cluster))
      | some flag =>
        match rest with
        | '=' :: first :: value => do
          .ok ⟨← parsed.assign flag (String.ofList (first :: value)), none⟩
        | _ =>
          if flag.type = .switch then do
            parseCluster flags (← parsed.assign flag "true") rest
          else if rest.isEmpty then
            .ok ⟨parsed, some (flag, .noValueLetter letter (String.ofList cluster))⟩
          else do .ok ⟨← parsed.assign flag (String.ofList rest), none⟩

/-- Reads one argument that begins with a dash and is more than that. -/
def parsePiece (flags : List Flag) (parsed : Parsed) : List Char → Except FlagFault Piece
  | '-' :: '-' :: body => parseLong flags parsed body
  | '-' :: cluster => parseCluster flags parsed cluster
  | _ => .ok ⟨parsed, none⟩

/-- Whether an argument is a flag and not a value or a name. -/
def isFlag (argument : String) : Bool :=
  match argument.toList with
  | '-' :: _ :: _ => true
  | _ => false

/-- Reads arguments one after the other on top of what was read before. -/
def parseOn (flags : List Flag) : Parsed → List String → Except FlagFault Parsed
  | parsed, [] => .ok parsed
  | parsed, argument :: rest =>
    if argument = "--" then .ok (parsed.addArguments rest)
    else if !isFlag argument then parseOn flags (parsed.addArguments [argument]) rest
    else
      match parsePiece flags parsed argument.toList with
      | .error fault => .error fault
      | .ok ⟨after, none⟩ => parseOn flags after rest
      | .ok ⟨after, some (flag, fault)⟩ =>
        match rest with
        | [] => .error fault
        | value :: rest =>
          match after.assign flag value with
          | .error fault => .error fault
          | .ok after => parseOn flags after rest

def parseFlags (flags : List Flag) (arguments : List String) : Except FlagFault Parsed :=
  parseOn flags ⟨[], []⟩ arguments

end ExprTree.CommandLine
