import ExprTree.Proofs.HostCalls
import ExprTree.Proofs.Positions
import ExprTree.Value.Access

/-!
Trees as a host links them. The place of a node may be empty, or hold a link of a known shape that
leads nowhere; looking into either is a trap, and so is asking a value for content of another kind.
A walk over such a tree checks links at a few places only, where it reports that a node is missing,
and otherwise looks into whatever it finds.
-/
namespace ExprTree

/-- The shapes of nodes. -/
inductive Shape where
  | literal
  | identifier
  | member
  | binary
  | unary
  | call
  | function
  | block
  | returns
  | statement
  | arrow
  | sequence
  | unknown
  deriving DecidableEq, Repr

/-- A node of a shape with nothing in it. -/
def Shape.bare : Shape → Node
  | literal => .literal .undefined
  | identifier => .identifier ""
  | member => .member .hole .hole false
  | binary => .binary "" .hole .hole
  | unary => .unary "" .hole false
  | call => .call .hole []
  | function => .function none [] none
  | block => .block []
  | returns => .returns .hole
  | statement => .statement .hole
  | arrow => .arrow [] .hole
  | sequence => .sequence []
  | unknown => .unknown ""

/-- A place for a node. -/
inductive Link where
  | absent
  /-- A link of a shape without a node behind it. -/
  | dangling (shape : Shape)
  | literal (value : Value)
  | identifier (name : String)
  | member (object property : Link) (computed : Bool)
  | binary (operator : String) (left right : Link)
  | unary (operator : String) (argument : Link) (leading : Bool)
  | call (callee : Link) (arguments : List Link)
  | function (name : Option String) (params : List (Option String)) (body : Option (List Link))
  | block (body : List Link)
  | returns (argument : Link)
  | statement (expression : Link)
  | arrow (params : List (Option String)) (body : Link)
  | sequence (expressions : List Link)
  | unknown (tag : String)

/-- What ends a program instead of an error. -/
inductive Trap where
  /-- A node was looked into that is not there. -/
  | noNode
  | access (fault : AccessFault)
  deriving DecidableEq, Repr

/-- Why a walk ends without a value. -/
inductive Stop (ε : Type) where
  | failed (error : ε)
  /-- The error of a check that found no node. -/
  | missing (error : ε)
  | trapped (trap : Trap)

/-- An evaluation that may trap. -/
abbrev Walk (σ α : Type) := ExceptT (Stop Failure) (StateM σ) α

namespace Walk

def ofEval (action : Eval σ α) : Walk σ α :=
  ExceptT.adapt Stop.failed action

def ofExcept (result : Except Failure α) : Walk σ α :=
  ofEval (Eval.ofExcept result)

def look : Except Trap α → Walk σ α
  | .ok a => pure a
  | .error trap => throw (.trapped trap)

def access (result : Except AccessFault α) : Walk σ α :=
  look (result.mapError .access)

end Walk

namespace Link

def isNil : Link → Bool
  | absent => true
  | dangling _ => true
  | _ => false

mutual

/-- The tree with a hole wherever no node is. -/
def erase : Link → Node
  | absent => .hole
  | dangling _ => .hole
  | literal value => .literal value
  | identifier name => .identifier name
  | member object property computed => .member object.erase property.erase computed
  | binary operator left right => .binary operator left.erase right.erase
  | unary operator argument leading => .unary operator argument.erase leading
  | call callee arguments => .call callee.erase (eraseAll arguments)
  | function name params none => .function name params none
  | function name params (some body) => .function name params (some (eraseAll body))
  | block body => .block (eraseAll body)
  | returns argument => .returns argument.erase
  | statement expression => .statement expression.erase
  | arrow params body => .arrow params body.erase
  | sequence expressions => .sequence (eraseAll expressions)
  | unknown tag => .unknown tag

def eraseAll : List Link → List Node
  | [] => []
  | link :: rest => link.erase :: eraseAll rest

end

/-- The tag of a link. Its shape tells it without a look at the node, unless the shape is unknown:
then the node itself keeps it. -/
def tag : Link → Except Trap String
  | absent => .error .noNode
  | dangling .unknown => .error .noNode
  | dangling shape => .ok shape.bare.tag
  | other => .ok other.erase.tag

/-- The dotted name of a callee in messages. Nothing is checked. -/
def calleeName : Link → Except Trap String
  | identifier name => .ok name
  | dangling .identifier => .error .noNode
  | member object property computed => do
    let base ← object.calleeName
    match property, computed with
    | identifier name, false => .ok (base ++ "." ++ name)
    | dangling .identifier, false => .error .noNode
    | _, _ => .ok (base ++ "[...]")
  | dangling .member => .error .noNode
  | _ => .ok "expression"

def propertyKey : Link → Walk σ Value
  | identifier name => pure (.text name)
  | other => do
    if other.isNil then throw (.missing (.propertyName Node.hole.tag))
    else throw (.failed (.propertyName (← Walk.look other.tag)))

end Link

/-- The test of an operator that compares. -/
def BinaryOperator.test? : BinaryOperator → Option (Ordering → Bool)
  | less => some (· == .lt)
  | lessEqual => some (· != .gt)
  | greater => some (· == .gt)
  | greaterEqual => some (· != .lt)
  | _ => none

namespace Walk

/-- Compares two values, which are asked for their texts once both are known to be texts. -/
def compare (left right : Value) (test : Ordering → Bool) : Walk σ Value := do
  if left.toPrimitive.kind = .string ∧ right.toPrimitive.kind = .string then
    let first ← access left.toPrimitive.asText
    let second ← access right.toPrimitive.asText
    pure (.bool (test (Text.compare first second)))
  else pure (BinaryOperator.ordered left right test)

/-- Applies the operator with a symbol. -/
def applyBinary (symbol : String) (left right : Value) : Walk σ Value :=
  match BinaryOperator.ofSymbol? symbol with
  | none => throw (.failed (.unsupportedBinary symbol))
  | some op =>
    match op.test? with
    | none => pure (op.apply left right)
    | some test => compare left right test

end Walk

namespace Link

mutual

/-- The value of a tree in a scope. Links are checked before the node is told by its shape, and a
callee is asked for its function once it is known to be one. -/
def walk (invoke : Invoke σ) (scope : Scope) (link : Link) : Walk σ Value :=
  if link.isNil then throw (.missing (.unsupportedNode Node.hole.tag))
  else
    match link with
    | literal value => pure value
    | identifier name => pure (scope.lookup name)
    | member object property computed => do
      let base ← walk invoke scope object
      let key ← if computed then walk invoke scope property else propertyKey property
      Walk.ofExcept (base.member key)
    | binary operator left right => do
      let l ← walk invoke scope left
      let r ← walk invoke scope right
      Walk.applyBinary operator l r
    | unary operator argument _ => do
      let value ← walk invoke scope argument
      Walk.ofExcept (applyUnary operator value)
    | call callee arguments => do
      let target ← walk invoke scope callee
      let values ← walkAll invoke scope arguments
      if target.kind ≠ .function then throw (.failed (.notCallable (← Walk.look callee.calleeName)))
      else
        let callable ← Walk.access target.asFunction
        Walk.ofEval (invoke callable values)
    -- What only the check above keeps away: six shapes are looked into at once.
    | dangling shape => do
      if shape.bare.isExpression then throw (.trapped .noNode)
      else throw (.failed (.unsupportedNode (← Walk.look (dangling shape).tag)))
    | other => do throw (.failed (.unsupportedNode (← Walk.look other.tag)))

def walkAll (invoke : Invoke σ) (scope : Scope) : List Link → Walk σ (List Value)
  | [] => pure []
  | link :: rest => do
    let value ← walk invoke scope link
    let values ← walkAll invoke scope rest
    pure (value :: values)

end

end Link

/-- The parameter names of a declaration or arrow and the place of the expression it returns. -/
structure LinkedHeader where
  name : String
  params : List String
  body : Link

namespace LinkedHeader

def erase (header : LinkedHeader) : Header :=
  ⟨header.name, header.params, header.body.erase⟩

/-- What the first return statement of a block returns. Statements that are not there are passed
over. -/
def returned : List Link → Except (Stop HeaderFault) Link
  | [] => .error (.failed .noReturn)
  | .returns argument :: _ => if argument.isNil then .ok (.literal .undefined) else .ok argument
  -- A dangling link to a return statement is passed over as well.
  | _ :: rest => returned rest

/-- Parameter names are refused only where a parameter is missing. -/
def paramNames (params : List (Option String)) : Except (Stop HeaderFault) (List String) :=
  (Header.paramNames 0 params).mapError .missing

def ofArrow (params : List (Option String)) (body : Link) :
    Except (Stop HeaderFault) LinkedHeader := do
  if body.isNil then .error (.missing (.withoutBody Shape.arrow.bare.tag))
  else
    let result ←
      match body with
      | .block statements => returned statements
      | .dangling .block => .error (.trapped .noNode)
      | expression => .ok expression
    .ok ⟨"", ← paramNames params, result⟩

/-- Reads a declaration, an arrow, or a statement that holds an arrow. -/
def ofLink (link : Link) : Except (Stop HeaderFault) LinkedHeader :=
  if link.isNil then .error (.missing (.notHeader Node.hole.tag))
  else
    match link with
    | .function _ _ none => .error (.missing (.withoutBody Shape.function.bare.tag))
    | .function name params (some body) => do
      let result ← returned body
      .ok ⟨name.getD "", ← paramNames params, result⟩
    | .dangling .function => .error (.trapped .noNode)
    | .statement expression =>
      if expression.isNil then .error (.missing .withoutExpression)
      else
        match expression with
        | .arrow params body => ofArrow params body
        | .dangling .arrow => .error (.trapped .noNode)
        | other => do .error (.failed (.notArrow (← other.tag.mapError .trapped)))
    | .dangling .statement => .error (.trapped .noNode)
    | .arrow params body => ofArrow params body
    | .dangling .arrow => .error (.trapped .noNode)
    | other => do .error (.failed (.notHeader (← other.tag.mapError .trapped)))

/-- Walks the returned expression of a header with its parameters bound over a scope. -/
def apply (invoke : Invoke σ) (header : LinkedHeader) (args : List Value) (outer : Scope) :
    Walk σ Value :=
  header.body.walk invoke (.layer (Header.bind header.params args) outer)

end LinkedHeader

end ExprTree
