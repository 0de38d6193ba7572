import ExprTree.Brotli.Words
import ExprTree.Text.Base64
import ExprTree.Text.Utf8

/-!
Words that a brotli stream refers to instead of earlier output. The dictionary has words of four to
24 octets, and a word is changed in one of 121 ways before it is used.
-/
namespace ExprTree.Brotli

/-- The number of words of each length, as a power of two. -/
def wordBits : List Nat :=
  [0, 0, 0, 0, 10, 10, 11, 11, 10, 10, 10, 10, 10, 9, 9, 8, 7, 7, 8, 7, 7, 6, 6, 5, 5]

/-- Where the words of a length start. Shorter words come first. -/
def wordsStart (length : Nat) : Nat :=
  (wordBits.take length).zipIdx.foldl
    (fun start entry => if entry.1 = 0 then start else start + entry.2 * Nat.pow 2 entry.1) 0

/-- The octets of a line of the dictionary. -/
def lineOctets (line : Nat) : List UInt8 :=
  ((Base64.decode? (dictionaryLines.getD line "").toList).getD []).map UInt8.ofNat

/-- A word of the dictionary. -/
def word (length index : Nat) : List UInt8 :=
  let place := wordsStart length + length * index
  ((lineOctets (place / 72) ++ lineOctets (place / 72 + 1)).drop (place % 72)).take length

/-- What is done to the octets of a word. -/
inductive Change where
  | keep
  | dropFirst (count : Nat)
  | dropLast (count : Nat)
  | capitalFirst
  | capitals

/-- A change together with what is put around the changed word. -/
structure Transform where
  before : String
  change : Change
  after : String

/-- Makes the first letter a capital. In a letter of two octets a bit of the second one changes, in
a longer one two bits of the third; a letter that is cut short stays as it is. -/
def capitalize : List UInt8 → List UInt8
  | [] => []
  | first :: rest =>
    if first < 0xC0 then (if 97 ≤ first && first ≤ 122 then first ^^^ 32 else first) :: rest
    else if first < 0xE0 then first :: rest.modifyHead (· ^^^ 32)
    else
      match rest with
      | second :: third :: rest => first :: second :: (third ^^^ 5) :: rest
      | _ => first :: rest

/-- The number of octets of the letter that an octet starts. -/
def letterSize (first : UInt8) : Nat :=
  if first < 0xC0 then 1 else if first < 0xE0 then 2 else 3

/-- Makes each letter a capital. Each step passes one letter. -/
def capitalizeAll : Nat → List UInt8 → List UInt8
  | 0, octets => octets
  | _, [] => []
  | fuel + 1, first :: rest =>
    let size := letterSize first
    let changed := capitalize (first :: rest)
    changed.take size ++ capitalizeAll fuel (changed.drop size)

def Change.apply (change : Change) (octets : List UInt8) : List UInt8 :=
  match change with
  | keep => octets
  | dropFirst count => octets.drop count
  | dropLast count => octets.take (octets.length - count)
  | capitalFirst => capitalize octets
  | capitals => capitalizeAll octets.length octets

def Transform.apply (transform : Transform) (octets : List UInt8) : List UInt8 :=
  Utf8.encode transform.before.toList ++ transform.change.apply octets
    ++ Utf8.encode transform.after.toList

/-- The ways in which a stream asks for a word, the plain word first. -/
def transforms : Array Transform := #[
  ⟨"", .keep, ""⟩, ⟨"", .keep, " "⟩, ⟨" ", .keep, " "⟩, ⟨"", .dropFirst 1, ""⟩,
  ⟨"", .capitalFirst, " "⟩, ⟨"", .keep, " the "⟩, ⟨" ", .keep, ""⟩, ⟨"s ", .keep, " "⟩,
  ⟨"", .keep, " of "⟩, ⟨"", .capitalFirst, ""⟩, ⟨"", .keep, " and "⟩, ⟨"", .dropFirst 2, ""⟩,
  ⟨"", .dropLast 1, ""⟩, ⟨", ", .keep, " "⟩, ⟨"", .keep, ", "⟩, ⟨" ", .capitalFirst, " "⟩,
  ⟨"", .keep, " in "⟩, ⟨"", .keep, " to "⟩, ⟨"e ", .keep, " "⟩, ⟨"", .keep, "\""⟩,
  ⟨"", .keep, "."⟩, ⟨"", .keep, "\">"⟩, ⟨"", .keep, "\n"⟩, ⟨"", .dropLast 3, ""⟩, ⟨"", .keep, "]"⟩,
  ⟨"", .keep, " for "⟩, ⟨"", .dropFirst 3, ""⟩, ⟨"", .dropLast 2, ""⟩, ⟨"", .keep, " a "⟩,
  ⟨"", .keep, " that "⟩, ⟨" ", .capitalFirst, ""⟩, ⟨"", .keep, ". "⟩, ⟨".", .keep, ""⟩,
  ⟨" ", .keep, ", "⟩, ⟨"", .dropFirst 4, ""⟩, ⟨"", .keep, " with "⟩, ⟨"", .keep, "'"⟩,
  ⟨"", .keep, " from "⟩, ⟨"", .keep, " by "⟩, ⟨"", .dropFirst 5, ""⟩, ⟨"", .dropFirst 6, ""⟩,
  ⟨" the ", .keep, ""⟩, ⟨"", .dropLast 4, ""⟩, ⟨"", .keep, ". The "⟩, ⟨"", .capitals, ""⟩,
  ⟨"", .keep, " on "⟩, ⟨"", .keep, " as "⟩, ⟨"", .keep, " is "⟩, ⟨"", .dropLast 7, ""⟩,
  ⟨"", .dropLast 1, "ing "⟩, ⟨"", .keep, "\n\t"⟩, ⟨"", .keep, ":"⟩, ⟨" ", .keep, ". "⟩,
  ⟨"", .keep, "ed "⟩, ⟨"", .dropFirst 9, ""⟩, ⟨"", .dropFirst 7, ""⟩, ⟨"", .dropLast 6, ""⟩,
  ⟨"", .keep, "("⟩, ⟨"", .capitalFirst, ", "⟩, ⟨"", .dropLast 8, ""⟩, ⟨"", .keep, " at "⟩,
  ⟨"", .keep, "ly "⟩, ⟨" the ", .keep, " of "⟩, ⟨"", .dropLast 5, ""⟩, ⟨"", .dropLast 9, ""⟩,
  ⟨" ", .capitalFirst, ", "⟩, ⟨"", .capitalFirst, "\""⟩, ⟨".", .keep, "("⟩, ⟨"", .capitals, " "⟩,
  ⟨"", .capitalFirst, "\">"⟩, ⟨"", .keep, "=\""⟩, ⟨" ", .keep, "."⟩, ⟨".com/", .keep, ""⟩,
  ⟨" the ", .keep, " of the "⟩, ⟨"", .capitalFirst, "'"⟩, ⟨"", .keep, ". This "⟩, ⟨"", .keep, ","⟩,
  ⟨".", .keep, " "⟩, ⟨"", .capitalFirst, "("⟩, ⟨"", .capitalFirst, "."⟩, ⟨"", .keep, " not "⟩,
  ⟨" ", .keep, "=\""⟩, ⟨"", .keep, "er "⟩, ⟨" ", .capitals, " "⟩, ⟨"", .keep, "al "⟩,
  ⟨" ", .capitals, ""⟩, ⟨"", .keep, "='"⟩, ⟨"", .capitals, "\""⟩, ⟨"", .capitalFirst, ". "⟩,
  ⟨" ", .keep, "("⟩, ⟨"", .keep, "ful "⟩, ⟨" ", .capitalFirst, ". "⟩, ⟨"", .keep, "ive "⟩,
  ⟨"", .keep, "less "⟩, ⟨"", .capitals, "'"⟩, ⟨"", .keep, "est "⟩, ⟨" ", .capitalFirst, "."⟩,
  ⟨"", .capitals, "\">"⟩, ⟨" ", .keep, "='"⟩, ⟨"", .capitalFirst, ","⟩, ⟨"", .keep, "ize "⟩,
  ⟨"", .capitals, "."⟩, ⟨"\u00a0", .keep, ""⟩, ⟨" ", .keep, ","⟩, ⟨"", .capitalFirst, "=\""⟩,
  ⟨"", .capitals, "=\""⟩, ⟨"", .keep, "ous "⟩, ⟨"", .capitals, ", "⟩, ⟨"", .capitalFirst, "='"⟩,
  ⟨" ", .capitalFirst, ","⟩, ⟨" ", .capitals, "=\""⟩, ⟨" ", .capitals, ", "⟩, ⟨"", .capitals, ","⟩,
  ⟨"", .capitals, "("⟩, ⟨"", .capitals, ". "⟩, ⟨" ", .capitals, "."⟩, ⟨"", .capitals, "='"⟩,
  ⟨" ", .capitals, ". "⟩, ⟨" ", .capitalFirst, "=\""⟩, ⟨" ", .capitals, "='"⟩,
  ⟨" ", .capitalFirst, "='"⟩]

/-- The word with a number among all words of a length and their changes. -/
def changedWord? (length address : Nat) : Option (List UInt8) :=
  let count := Nat.pow 2 (wordBits.getD length 0)
  if length < 4 || 24 < length then none
  else
    (transforms[address / count]?).map fun transform =>
      transform.apply (word length (address % count))

end ExprTree.Brotli
