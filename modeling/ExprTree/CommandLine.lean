import ExprTree.CommandLine.Evaluate
import ExprTree.CommandLine.Level
import ExprTree.CommandLine.Serve
import ExprTree.Text.Distance
import ExprTree.Text.Utf8

/-!
The command line of the program. The first argument that is neither a flag nor the value of one
names the command; the arguments without it are then read with the flags of that command.
-/
namespace ExprTree.CommandLine

inductive Command where
  | root
  | evaluate
  | serve
  | help
  | completion
  deriving DecidableEq, Repr

namespace Command

def name : Command → String
  | root => "asteval"
  | evaluate => "eval"
  | serve => "serve"
  | help => "help"
  | completion => "completion"

/-- How messages call a command. -/
def path : Command → String
  | root => root.name
  | other => root.name ++ " " ++ other.name

/-- The commands below the root. -/
def all : List Command := [evaluate, serve, help, completion]

/-- The commands that are offered to someone who mistypes one. -/
def offered : List Command := [evaluate, serve, completion]

/-- The flags that every command has. -/
def sharedFlags : List Flag := [⟨"log-level", none, .text⟩]

/-- The flags of a command that count while the command is looked for. -/
def flags : Command → List Flag
  | root => sharedFlags
  | evaluate =>
    sharedFlags ++ [⟨"context", none, .text⟩, ⟨"builtins", none, .switch⟩,
      ⟨"function", none, .switch⟩, ⟨"args", none, .text⟩, ⟨"pretty", none, .switch⟩]
  | serve => sharedFlags ++ ServeConfig.flags
  | help => sharedFlags
  | completion => sharedFlags

/-- All flags of a command. -/
def allFlags (command : Command) : List Flag :=
  let version : List Flag := if command = root then [⟨"version", some 'v', .switch⟩] else []
  command.flags ++ ⟨"help", some 'h', .switch⟩ :: version

end Command

/-- Whether an argument is a flag whose value is the next argument. Flags that are not known count
as such. -/
def takesNext (flags : List Flag) (argument : String) : Bool :=
  let isSwitch (flag : Option Flag) : Bool := flag.any fun f => f.type == .switch
  match argument.toList with
  | '-' :: '-' :: body => !body.contains '=' && !isSwitch (byName flags (String.ofList body))
  | ['-', letter] =>
    letter.toNat < 0x80 && letter != '=' && !isSwitch (byLetter flags letter)
  | _ => false

/-- The arguments that are neither flags nor values of flags. The search ends where a flag that
takes a value has at most one argument behind it. -/
def words (flags : List Flag) : List String → List String
  | [] => []
  | argument :: rest =>
    if argument = "--" then []
    else if takesNext flags argument then
      match rest with
      | _ :: next :: rest => words flags (next :: rest)
      | _ => []
    else if argument = "" ∨ argument.startsWith "-" then words flags rest
    else argument :: words flags rest

/-- The arguments without the first word that equals a name. -/
def withoutWord (flags : List Flag) (name : String) : List String → List String
  | [] => []
  | argument :: rest =>
    if argument = "--" then argument :: rest
    else if takesNext flags argument then
      match rest with
      | value :: rest => argument :: value :: withoutWord flags name rest
      | [] => [argument]
    else if argument = name then rest
    else argument :: withoutWord flags name rest

/-- Why a command line is refused or a command fails. -/
inductive Fault where
  | flag (fault : FlagFault)
  | unknownCommand (name : String) (offers : List String)
  | surplus (name : String)
  | tooMany (most given : Nat)
  | level (fault : LevelFault)
  | evaluate (fault : EvaluateFault)
  /-- The program was built without sockets. -/
  | cannotListen (address : String)
  deriving DecidableEq, Repr

namespace Fault

def message : Fault → String
  | flag fault => fault.message
  | unknownCommand name offers =>
    "unknown command " ++ Text.escaped name ++ " for " ++ Text.escaped Command.root.path
      ++ (if offers.isEmpty then ""
        else "\n\nDid you mean this?\n" ++ String.join (offers.map fun offer => "\t" ++ offer ++ "\n"))
  | surplus name =>
    "unknown command " ++ Text.escaped name ++ " for " ++ Text.escaped Command.serve.path
  | tooMany most given =>
    "accepts at most " ++ toString most ++ " arg(s), received " ++ toString given
  | level fault => fault.message
  | evaluate fault => fault.message
  | cannotListen address => "http listen: no sockets to listen on " ++ address

def kindName : Fault → String
  | evaluate fault => fault.kindName
  | _ => "Error"

end Fault

/-- The names that someone may have meant: those at most two edits away, or that go on as typed. -/
def offersFor (typed : String) : List String :=
  let lower (s : String) : List UInt8 := Utf8.encode (s.toList.map Char.toLower)
  (Command.offered.map Command.name).filter fun name =>
    Text.editDistance (lower typed) (lower name) ≤ 2 || (lower typed).isPrefixOf (lower name)

/-- Finds the command and the arguments that are left for it. -/
def locate (arguments : List String) : Except Fault (Command × List String) :=
  match words Command.root.flags arguments with
  | [] => .ok (.root, arguments)
  | word :: _ =>
    match Command.all.find? fun command => command.name == word with
    | some command => .ok (command, withoutWord Command.root.flags word arguments)
    | none => .error (.unknownCommand word (offersFor word))

/-- What a command line asks for. -/
inductive Action where
  | usage (command : Command)
  | version
  | evaluate (options : EvaluateOptions) (level : Level)
  | serve (config : ServeConfig) (level : Level)

/-- The log level: the flag counts before the environment. -/
def readLevel (setting : String → String) (parsed : Parsed) : Except Fault Level :=
  (Level.ofText (ServeConfig.firstGiven
    [parsed.text "log-level" "", setting "LOG_LEVEL", "info"])).mapError .level

def evaluateOptions (parsed : Parsed) : EvaluateOptions where
  source := parsed.arguments.head?.filter (· ≠ "-")
  context := parsed.text "context" ""
  builtins := parsed.isOn "builtins"
  function := parsed.isOn "function"
  args := parsed.text "args" "[]"
  pretty := parsed.isOn "pretty"

/-- Reads a command line, given the variables of the environment. Flags are read first, then the
arguments are counted, and the log level comes last. -/
def parse (setting : String → String) (arguments : List String) : Except Fault Action := do
  let (command, rest) ← locate arguments
  match parseFlags command.allFlags rest with
  | .error .help => .ok (.usage command)
  | .error fault => .error (.flag fault)
  | .ok parsed =>
    if parsed.isOn "help" then .ok (.usage command)
    else if parsed.isOn "version" then .ok .version
    else
      match command with
      | .evaluate =>
        if 1 < parsed.arguments.length then .error (.tooMany 1 parsed.arguments.length)
        else .ok (.evaluate (evaluateOptions parsed) (← readLevel setting parsed))
      | .serve =>
        match parsed.arguments with
        | surplus :: _ => .error (.surplus surplus)
        | [] => .ok (.serve (ServeConfig.resolve setting parsed) (← readLevel setting parsed))
      | other => .ok (.usage other)

/-- The line that names the version. -/
def versionLine : String :=
  "asteval version dev (commit=unknown, built=unknown)\n"

/-- How a command is called, in one line. -/
def usageLine : Command → String
  | .evaluate => "Usage: asteval eval [file] [flags]\n"
  | .serve => "Usage: asteval serve [flags]\n"
  | _ => "Usage: asteval [command]\n"

/-- What the program comes to: what it prints and logs, and why it fails if it does. -/
structure Outcome where
  output : String
  events : List Event
  fault : Option Fault

/-- Runs the program. -/
def run (setting : String → String) (inputs : Inputs) (arguments : List String) : Outcome :=
  match parse setting arguments with
  | .error fault => ⟨"", [], some fault⟩
  | .ok (.usage command) => ⟨usageLine command, [], none⟩
  | .ok .version => ⟨versionLine, [], none⟩
  | .ok (.serve config _) => ⟨"", [], some (.cannotListen config.httpAddress)⟩
  | .ok (.evaluate options level) =>
    let (events, result) := options.run inputs
    let logged := if level.showsDebug then events else []
    match result with
    | .ok output => ⟨output, logged, none⟩
    | .error fault => ⟨"", logged, some (.evaluate fault)⟩

end ExprTree.CommandLine
