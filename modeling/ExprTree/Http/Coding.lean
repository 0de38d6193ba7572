import ExprTree.Brotli
import ExprTree.Deflate.Container
import ExprTree.Text.Utf8

/-!
Codings of bodies. A header lists the codings that a body has gone through, and they are undone from
left to right. What cannot be undone is replaced by the text of the fault.
-/
namespace ExprTree.Http

/-- How a coding is undone; `none` for a coding that is not known. -/
def undoing? (coding : String) : Option (List UInt8 → Except Deflate.Fault (List UInt8)) :=
  match coding with
  | "gzip" => some Deflate.gunzip
  | "deflate" => some Deflate.unzlib
  | "br" => some Brotli.unpack
  | "brotli" => some Brotli.unpack
  | _ => none

/-- The codings that a header lists between commas, without blanks in front. -/
def codings (header : String) : List String :=
  if header = "" then []
  else (header.splitOn ",").map fun coding => String.ofList (coding.toList.dropWhile (· == ' '))

/-- Undoes several codings. A coding that is not known ends the work: what was undone so far is the
result, and that is nothing if it is the first one. -/
def undoAll : List String → List UInt8 → List UInt8 → Except Deflate.Fault (List UInt8)
  | [], _, done => .ok done
  | coding :: rest, body, done =>
    match undoing? coding with
    | none => .ok done
    | some undo => do
      let body ← undo body
      undoAll rest body body

/-- The content of a body whose codings a header lists. A single coding that is not known leaves the
body as it is. -/
def contentOf (header : String) (body : List UInt8) : List UInt8 :=
  let undone : Except Deflate.Fault (List UInt8) :=
    match codings header with
    | [] => .ok body
    | [coding] =>
      match undoing? coding with
      | some undo => undo body
      | none => .ok body
    | several => undoAll several body []
  match undone with
  | .ok content => content
  | .error fault => Utf8.encode fault.message.toList

end ExprTree.Http
