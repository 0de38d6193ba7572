/-! The names of the standard functions. What they compute is in `ExprTree.Builtin.Call`. -/
namespace ExprTree

inductive Builtin where
  | toNumber
  | toText
  | toBoolean
  | parseInt
  | parseFloat
  | isNaN
  | isFinite
  | mathAbs
  | mathFloor
  | mathCeil
  | mathTrunc
  | mathSqrt
  | mathRound
  | mathSign
  | mathPow
  | mathMax
  | mathMin
  | jsonStringify
  | jsonParse
  | objectKeys
  | objectValues
  | arrayIsArray
  | encodeComponent
  | decodeComponent
  | toBase64
  | ofBase64
  deriving DecidableEq, Repr

end ExprTree
