import ExprTree.CommandLine.Flag

/-! Where the servers listen. A flag counts before the environment, and that before the defaults; an
empty text or a zero counts as nothing given. -/
namespace ExprTree.CommandLine

structure ServeConfig where
  host : String
  port : String
  grpcPort : String
  deriving DecidableEq, Repr

/-- A host and a port in one text. A host with a colon or a percent sign stands in brackets. -/
def joinHostPort (host port : String) : String :=
  if host.toList.any fun c => c == ':' || c == '%' then "[" ++ host ++ "]:" ++ port
  else host ++ ":" ++ port

namespace ServeConfig

def httpAddress (config : ServeConfig) : String :=
  joinHostPort config.host config.port

def grpcAddress (config : ServeConfig) : String :=
  joinHostPort config.host config.grpcPort

/-- The flags of the command. -/
def flags : List Flag :=
  [⟨"port", none, .integer⟩, ⟨"grpc-port", none, .integer⟩, ⟨"host", none, .text⟩]

/-- The first text that is not empty. -/
def firstGiven (texts : List String) : String :=
  (texts.find? (· ≠ "")).getD ""

/-- A port given by a flag. -/
def portText (port : Int) : String :=
  if port = 0 then "" else toString port

/-- The configuration for flags and the variables of the environment. -/
def resolve (setting : String → String) (parsed : Parsed) : ServeConfig where
  host := firstGiven [parsed.text "host" "", setting "HOST", "0.0.0.0"]
  port := firstGiven [portText (parsed.integer "port"), setting "PORT", "8790"]
  grpcPort := firstGiven [portText (parsed.integer "grpc-port"), setting "GRPC_PORT", "8791"]

end ServeConfig

end ExprTree.CommandLine
