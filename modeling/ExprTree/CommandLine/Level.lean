import ExprTree.Numeral

/-! Levels of log messages. A message is written when its level is at least the one asked for. -/
namespace ExprTree.CommandLine

/-- A level as a number: debug is 0, and what matters more is greater. -/
abbrev Level := Int

inductive LevelFault where
  | unknown (text : String)
  | outOfBounds (level : Int)
  deriving DecidableEq, Repr

def LevelFault.message : LevelFault → String
  | unknown text => "Unknown Level String: '" ++ text ++ "', defaulting to NoLevel"
  | outOfBounds level => "Out-Of-Bounds Level: '" ++ toString level ++ "', defaulting to NoLevel"

namespace Level

/-- The named levels. The empty name stands for messages without a level. -/
def names : List (String × Level) :=
  [("trace", -1), ("debug", 0), ("info", 1), ("warn", 2), ("error", 3), ("fatal", 4), ("panic", 5),
    ("", 6), ("disabled", 7)]

/-- A character without its case; the long s and the kelvin sign fold to letters. -/
def fold (c : Char) : Char :=
  if c = 'ſ' then 's' else if c = '\u212A' then 'k' else c.toLower

/-- The level that a name in any case or a small number stands for. -/
def ofText (text : String) : Except LevelFault Level :=
  match names.find? fun entry => entry.1.toList == text.toList.map fold with
  | some (_, level) => .ok level
  | none =>
    match Numeral.signed64 10 text.toList with
    | .error _ => .error (.unknown text)
    | .ok level =>
      if 127 < level ∨ level < -128 then .error (.outOfBounds level) else .ok level

/-- Whether messages at the debug level are written. -/
def showsDebug (level : Level) : Bool :=
  level ≤ 0

end Level

end ExprTree.CommandLine
