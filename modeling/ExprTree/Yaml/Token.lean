/-! Tokens of YAML: indicators and scalars, and the marks that indentation puts around blocks. -/
namespace ExprTree.Yaml

/-- A place in the stream, counted from zero. -/
structure Mark where
  index : Nat
  line : Nat
  column : Nat
  deriving DecidableEq, Repr

inductive Token where
  | streamStart
  | streamEnd
  | versionDirective (major minor : Nat)
  | tagDirective (handle expansion : String)
  | documentStart
  | documentEnd
  | blockSequenceStart
  | blockMappingStart
  | blockEnd
  | flowSequenceStart
  | flowSequenceEnd
  | flowMappingStart
  | flowMappingEnd
  | blockEntry
  | flowEntry
  | key
  | value
  | alias (name : String)
  | anchor (name : String)
  | tag (handle suffix : String)
  | scalar (text : String) (plain : Bool)
  deriving DecidableEq, Repr

/-- A token with the place where it starts. -/
structure Placed where
  token : Token
  mark : Mark
  deriving DecidableEq, Repr

end ExprTree.Yaml
