import ExprTree.Json
import ExprTree.Json.Token

/-!
The grammar of JSON as a machine over tokens. The containers that are open form a stack, and a state
says what may follow; a document is accepted when one value has been completed and no token is left.
-/
namespace ExprTree.Json

/-- How deep containers may be nested. -/
def maxDepth : Nat := 10000

/-- A container that is still open, with what it holds so far, last first. A record also has the
member name whose value is being read. -/
inductive Frame where
  | list (done : List Json)
  | record (done : List (String × Json)) (key : String)

/-- What the machine waits for. -/
inductive State where
  /-- A value; in a list that has just been opened its end may follow as well. -/
  | value (mayClose : Bool) (stack : List Frame)
  /-- A member name; in a record that has just been opened its end may follow as well. -/
  | name (mayClose : Bool) (done : List (String × Json)) (stack : List Frame)
  | colon (done : List (String × Json)) (key : String) (stack : List Frame)
  /-- A comma or the end of the list. -/
  | afterItem (done : List Json) (stack : List Frame)
  /-- A comma or the end of the record. -/
  | afterMember (done : List (String × Json)) (stack : List Frame)
  | finished (document : Json)

/-- Hands a completed value to the innermost open container. -/
def complete (json : Json) : List Frame → State
  | [] => .finished json
  | .list done :: stack => .afterItem (json :: done) stack
  | .record done key :: stack => .afterMember ((key, json) :: done) stack

/-- Opens a container unless too many are open. -/
def opened (stack : List Frame) (state : State) : Option State :=
  if stack.length < maxDepth then some state else none

/-- One token where a value is due. -/
def startValue (stack : List Frame) : Token → Option State
  | .null => some (complete .null stack)
  | .bool b => some (complete (.bool b) stack)
  | .number spelling => some (complete (.number spelling) stack)
  | .text s => some (complete (.text s) stack)
  | .openList => opened stack (.value true (.list [] :: stack))
  | .openRecord => opened stack (.name true [] stack)
  | _ => none

def step : State → Token → Option State
  | .value true (.list done :: stack), .closeList => some (complete (.list done.reverse) stack)
  | .value _ stack, token => startValue stack token
  | .name true done stack, .closeRecord => some (complete (.record done.reverse) stack)
  | .name _ done stack, .text key => some (.colon done key stack)
  | .colon done key stack, .colon => some (.value false (.record done key :: stack))
  | .afterItem done stack, .comma => some (.value false (.list done :: stack))
  | .afterItem done stack, .closeList => some (complete (.list done.reverse) stack)
  | .afterMember done stack, .comma => some (.name false done stack)
  | .afterMember done stack, .closeRecord => some (complete (.record done.reverse) stack)
  | _, _ => none

def run : State → List Token → Option State
  | state, [] => some state
  | state, token :: rest =>
    match step state token with
    | some next => run next rest
    | none => none

/-- The document that a text spells, `none` if it is not JSON. -/
def parse? (text : List Char) : Option Json := do
  let tokens ← tokens? text
  match ← run (.value false []) tokens with
  | .finished document => some document
  | _ => none

end ExprTree.Json
