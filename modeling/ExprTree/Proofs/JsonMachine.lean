import ExprTree.Json.Parse

/-!
The machine of the JSON grammar on the tokens of a document. From any state that waits for a value
it takes all of them and hands the document to the innermost open container, unless the containers
are nested too deep.
-/
namespace ExprTree.Json

mutual

/-- The tokens of a document, with commas between items and between members. -/
def tokens : Json → List Token
  | null => [.null]
  | bool b => [.bool b]
  | number spelling => [.number spelling]
  | text s => [.text s]
  | list items => .openList :: (itemTokens true items ++ [.closeList])
  | record members => .openRecord :: (memberTokens true members ++ [.closeRecord])

def itemTokens (first : Bool) : List Json → List Token
  | [] => []
  | item :: rest => (if first then [] else [.comma]) ++ (tokens item ++ itemTokens false rest)

def memberTokens (first : Bool) : List (String × Json) → List Token
  | [] => []
  | (key, item) :: rest =>
    (if first then [] else [.comma])
      ++ .text key :: .colon :: (tokens item ++ memberTokens false rest)

end

mutual

/-- How deep containers are nested. -/
def depth : Json → Nat
  | list items => itemDepth items + 1
  | record members => memberDepth members + 1
  | _ => 0

def itemDepth : List Json → Nat
  | [] => 0
  | item :: rest => max (depth item) (itemDepth rest)

def memberDepth : List (String × Json) → Nat
  | [] => 0
  | (_, item) :: rest => max (depth item) (memberDepth rest)

end

private theorem run_cons {state next : State} {token : Token} (taken : step state token = some next)
    (rest : List Token) : run state (token :: rest) = run next rest := by
  rw [run, taken]

private theorem step_value {token : Token} (other : token ≠ .closeList) (mayClose : Bool)
    (stack : List Frame) : step (.value mayClose stack) token = startValue stack token := by
  unfold step
  split <;> simp_all

private theorem step_openList {stack : List Frame} (room : stack.length < maxDepth)
    (mayClose : Bool) :
    step (.value mayClose stack) .openList = some (.value true (.list [] :: stack)) := by
  rw [step_value (by simp)]
  exact if_pos room

private theorem step_openRecord {stack : List Frame} (room : stack.length < maxDepth)
    (mayClose : Bool) :
    step (.value mayClose stack) .openRecord = some (.name true [] stack) := by
  rw [step_value (by simp)]
  exact if_pos room

mutual

/-- Where a value is due, the tokens of a document complete it. -/
theorem run_tokens (json : Json) (mayClose : Bool) (stack : List Frame)
    (room : json.depth + stack.length ≤ maxDepth) (more : List Token) :
    run (.value mayClose stack) (json.tokens ++ more) = run (complete json stack) more := by
  match json with
  | .null | .bool _ | .number _ | .text _ => exact run_cons (step_value (by simp) ..) more
  | .list [] =>
    rw [depth] at room
    exact (run_cons (step_openList (by omega) mayClose) _).trans (run_cons rfl more)
  | .list (item :: rest) =>
    simp only [depth, itemDepth] at room
    simp only [tokens, itemTokens, if_true, List.nil_append, List.cons_append, List.append_assoc]
    have inner : item.depth + (Frame.list [] :: stack).length ≤ maxDepth := by
      rw [List.length_cons]
      omega
    rw [run_cons (step_openList (by omega) mayClose), run_tokens item true _ inner]
    exact run_itemTokens rest [item] stack (by omega) more
  | .record [] =>
    rw [depth] at room
    exact (run_cons (step_openRecord (by omega) mayClose) _).trans (run_cons rfl more)
  | .record ((key, item) :: rest) =>
    simp only [depth, memberDepth] at room
    simp only [tokens, memberTokens, if_true, List.nil_append, List.cons_append,
      List.append_assoc]
    have inner : item.depth + (Frame.record [] key :: stack).length ≤ maxDepth := by
      rw [List.length_cons]
      omega
    rw [run_cons (step_openRecord (by omega) mayClose), run_cons rfl, run_cons rfl,
      run_tokens item false _ inner]
    exact run_memberTokens rest [(key, item)] stack (by omega) more

/-- The rest of a list, from behind one of its items on. -/
theorem run_itemTokens (items done : List Json) (stack : List Frame)
    (room : itemDepth items + (stack.length + 1) ≤ maxDepth) (more : List Token) :
    run (.afterItem done stack) (itemTokens false items ++ .closeList :: more) =
      run (complete (.list (done.reverse ++ items)) stack) more := by
  match items with
  | [] =>
    rw [List.append_nil]
    exact run_cons rfl more
  | item :: rest =>
    simp only [itemDepth] at room
    simp only [itemTokens, Bool.false_eq_true, if_false, List.cons_append, List.nil_append,
      List.append_assoc]
    have inner : item.depth + (Frame.list done :: stack).length ≤ maxDepth := by
      rw [List.length_cons]
      omega
    rw [run_cons rfl, run_tokens item false _ inner, complete,
      run_itemTokens rest (item :: done) stack (by omega), List.reverse_cons, List.append_assoc,
      List.singleton_append]

/-- The rest of a record, from behind one of its members on. -/
theorem run_memberTokens (members done : List (String × Json)) (stack : List Frame)
    (room : memberDepth members + (stack.length + 1) ≤ maxDepth) (more : List Token) :
    run (.afterMember done stack) (memberTokens false members ++ .closeRecord :: more) =
      run (complete (.record (done.reverse ++ members)) stack) more := by
  match members with
  | [] =>
    rw [List.append_nil]
    exact run_cons rfl more
  | (key, item) :: rest =>
    simp only [memberDepth] at room
    simp only [memberTokens, Bool.false_eq_true, if_false, List.cons_append, List.nil_append,
      List.append_assoc]
    have inner : item.depth + (Frame.record done key :: stack).length ≤ maxDepth := by
      rw [List.length_cons]
      omega
    rw [run_cons rfl, run_cons rfl, run_cons rfl, run_tokens item false _ inner, complete,
      run_memberTokens rest ((key, item) :: done) stack (by omega), List.reverse_cons,
      List.append_assoc, List.singleton_append]

end

/-- A text whose tokens are those of a document that is not too deep parses as the document. -/
theorem parse?_of_tokens {text : List Char} {json : Json} (shallow : json.depth ≤ maxDepth)
    (scanned : tokens? text = some json.tokens) : parse? text = some json := by
  have ran := run_tokens json false [] shallow []
  rw [List.append_nil] at ran
  simp [parse?, scanned, ran, run, complete]

end ExprTree.Json
