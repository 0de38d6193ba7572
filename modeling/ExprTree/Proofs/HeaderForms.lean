import ExprTree.Proofs.HostCalls

/-!
The forms of a function header. A function that returns an expression can be written as an arrow, as
a statement that holds the arrow, and as an arrow or a declaration with a block that returns the
expression. Main statement: all of them read as the same parameters and the same expression,
whatever else stands in the block, so they cannot be told apart by applying them.
-/
namespace ExprTree

namespace Header

/-- No statement of a list returns. Whatever stands inside of a statement does not count. -/
def Silent (statements : List Node) : Prop :=
  ∀ argument, Node.returns argument ∉ statements

/-- What a return statement returns, which is undefined when it is bare. -/
def returnValue : Node → Node
  | .hole => .literal .undefined
  | argument => argument

theorem Silent.of_cons {first : Node} {rest : List Node} (silent : Silent (first :: rest)) :
    (∀ argument, first ≠ .returns argument) ∧ Silent rest :=
  ⟨fun argument same => silent argument (same ▸ List.mem_cons_self),
    fun argument member => silent argument (List.mem_cons_of_mem _ member)⟩

private theorem returned_cons {first : Node} (other : ∀ argument, first ≠ .returns argument)
    (rest : List Node) : returned (first :: rest) = returned rest := by
  cases first with
  | returns argument => exact absurd rfl (other argument)
  | _ => rfl

private theorem returned_returns (argument : Node) (rest : List Node) :
    returned (.returns argument :: rest) = .ok (returnValue argument) := by
  cases argument <;> rfl

/-- Only the first return statement counts. -/
theorem returned_append {before : List Node} (silent : Silent before) (argument : Node)
    (after : List Node) :
    returned (before ++ .returns argument :: after) = .ok (returnValue argument) := by
  induction before with
  | nil => exact returned_returns argument after
  | cons first rest ih =>
    obtain ⟨other, later⟩ := silent.of_cons
    rw [List.cons_append, returned_cons other, ih later]

private theorem returned_of_silent {statements : List Node} (silent : Silent statements) :
    returned statements = .error .noReturn := by
  induction statements with
  | nil => rfl
  | cons first rest ih =>
    obtain ⟨other, later⟩ := silent.of_cons
    rw [returned_cons other, ih later]

private theorem paramNames_map_some (place : Nat) (names : List String) :
    paramNames place (names.map some) = .ok names := by
  induction names generalizing place with
  | nil => rfl
  | cons name rest ih =>
    rw [List.map_cons, paramNames, ih]
    rfl

/-- The first parameter that is missing is reported by its place. -/
theorem paramNames_missing (place : Nat) (names : List String) (rest : List (Option String)) :
    paramNames place (names.map some ++ none :: rest) =
      .error (.parameter (place + names.length)) := by
  induction names generalizing place with
  | nil => rfl
  | cons name others ih =>
    have shifted : place + (name :: others).length = place + 1 + others.length := by
      rw [List.length_cons]
      omega
    rw [List.map_cons, List.cons_append, paramNames, ih, shifted]
    rfl

/-- Parameters of which one is missing, cut at the first one that is. -/
theorem exists_first_missing {params : List (Option String)} (missing : none ∈ params) :
    ∃ names rest, params = List.map some names ++ none :: rest := by
  induction params with
  | nil => cases missing
  | cons param others ih =>
    cases param with
    | none => exact ⟨[], others, rfl⟩
    | some name =>
      have later : none ∈ others := by simpa using missing
      obtain ⟨names, rest, split⟩ := ih later
      exact ⟨name :: names, rest, by rw [split]; rfl⟩

/-- The header of a name, parameters and a returned expression. -/
def ofParts (name : String) (params : List (Option String)) (result : Node) :
    Except HeaderFault Header := do
  .ok ⟨name, ← paramNames 0 params, result⟩

private theorem ofParts_map_some (name : String) (names : List String) (result : Node) :
    ofParts name (names.map some) result = .ok ⟨name, names, result⟩ := by
  rw [ofParts, paramNames_map_some]
  rfl

private theorem ofParts_missing (name : String) (names : List String) (rest : List (Option String))
    (result : Node) :
    ofParts name (names.map some ++ none :: rest) result = .error (.parameter names.length) := by
  rw [ofParts, paramNames_missing, Nat.zero_add]
  rfl

section Forms

variable {params : List (Option String)} {result : Node} {statements : List Node}

private theorem ofNode_arrow (present : result ≠ .hole)
    (expression : ∀ body, result ≠ .block body) :
    ofNode (.arrow params result) = ofParts "" params result := by
  cases result with
  | hole => exact absurd rfl present
  | block body => exact absurd rfl (expression body)
  | _ => rfl

private theorem ofNode_block :
    ofNode (.arrow params (.block statements)) = returned statements >>= ofParts "" params :=
  rfl

private theorem ofNode_declaration (name : Option String) :
    ofNode (.function name params (some statements)) =
      returned statements >>= ofParts (name.getD "") params :=
  rfl

private theorem ofNode_statement (body : Node) :
    ofNode (.statement (.arrow params body)) = ofNode (.arrow params body) :=
  rfl

end Forms

/-- With a parameter missing nothing can be read, whatever the body. -/
theorem exists_fault {params : List (Option String)} (missing : none ∈ params)
    (start : Except HeaderFault Node) (name : String) :
    ∃ fault, start >>= ofParts name params = .error fault := by
  cases start with
  | error fault => exact ⟨fault, rfl⟩
  | ok result =>
    obtain ⟨names, rest, rfl⟩ := exists_first_missing missing
    exact ⟨.parameter names.length, ofParts_missing name names rest result⟩

private theorem exists_fault_arrow {params : List (Option String)} (missing : none ∈ params)
    (body : Node) :
    ∃ fault, ofNode (.arrow params body) = .error fault := by
  cases body with
  | hole => exact ⟨_, rfl⟩
  | block statements => exact exists_fault missing (returned statements) ""
  | _ => exact exists_fault missing (.ok _) ""

end Header

namespace Node

/-- The name that a node declares for a function; only declarations have one. -/
def declaredName : Node → String
  | .function name _ _ => name.getD ""
  | _ => ""

/-- A node reads as the function of some parameters that returns `result`: under the name that it
declares if all parameters are there, and with the place of the first that is missing if not. -/
structure ReadsAs (node : Node) (params : List (Option String)) (result : Node) : Prop where
  named : ∀ names : List String, params = names.map some →
    Header.ofNode node = .ok ⟨node.declaredName, names, result⟩
  missing : ∀ (names : List String) rest, params = names.map some ++ none :: rest →
    Header.ofNode node = .error (.parameter names.length)

private theorem ReadsAs.of_ofParts {node : Node} {params : List (Option String)} {result : Node}
    (read : Header.ofNode node = Header.ofParts node.declaredName params result) :
    node.ReadsAs params result where
  named := by
    rintro names rfl
    rw [read, Header.ofParts_map_some]
  missing := by
    rintro names rest rfl
    rw [read, Header.ofParts_missing]

/-- What comes of applying the header that a node reads as: the fault of reading it, or how the
application ends. -/
def applied (node : Node) (invoke : Invoke σ) (args : List Value) (outer : Scope) (host : σ) :
    Except HeaderFault (Except Failure Value × σ) :=
  (Header.ofNode node).map fun header => (header.apply invoke args outer).outcome host

/-- The name of a function has no part in its application. -/
theorem applied_of_ofParts {node : Node} {name : String} {params : List (Option String)}
    {result : Node} (read : Header.ofNode node = Header.ofParts name params result)
    (invoke : Invoke σ) (args : List Value) (outer : Scope) (host : σ) :
    node.applied invoke args outer host = (Header.paramNames 0 params).map fun names =>
      ((⟨"", names, result⟩ : Header).apply invoke args outer).outcome host := by
  rw [applied, read, Header.ofParts]
  cases Header.paramNames 0 params <;> rfl

/-- The forms of a function with a block: an arrow, a statement that holds it, and a declaration. -/
def blockForms (name : Option String) (params : List (Option String)) (body : List Node) :
    List Node :=
  [.arrow params (.block body), .statement (.arrow params (.block body)),
    .function name params (some body)]

/-- The forms of a function that returns an expression: an arrow with the expression, a statement
that holds it, and those with a block. -/
def forms (name : Option String) (params : List (Option String)) (result : Node)
    (body : List Node) : List Node :=
  .arrow params result :: .statement (.arrow params result) :: blockForms name params body

private theorem ofNode_blockForms {name : Option String} {params : List (Option String)}
    {body : List Node} {node : Node} (member : node ∈ blockForms name params body) :
    Header.ofNode node = Header.returned body >>= Header.ofParts node.declaredName params := by
  rw [blockForms] at member
  simp only [List.mem_cons, List.not_mem_nil, or_false] at member
  rcases member with rfl | rfl | rfl
  · exact Header.ofNode_block
  · rw [Header.ofNode_statement]
    exact Header.ofNode_block
  · exact Header.ofNode_declaration name

private theorem ofNode_forms {name : Option String} {params : List (Option String)} {result : Node}
    {body : List Node} (present : result ≠ .hole) (expression : ∀ block, result ≠ .block block)
    (returned : Header.returned body = .ok result) {node : Node}
    (member : node ∈ forms name params result body) :
    Header.ofNode node = Header.ofParts node.declaredName params result := by
  rcases List.mem_cons.mp member with rfl | member
  · exact Header.ofNode_arrow present expression
  rcases List.mem_cons.mp member with rfl | member
  · rw [Header.ofNode_statement]
    exact Header.ofNode_arrow present expression
  · rw [ofNode_blockForms member, returned]
    rfl

end Node

open Header Node

/-- The forms of a function header read alike. With an expression that is returned, arrow,
statement, block and declaration read as the same parameters and the same expression, whatever
stands in the block besides its first return statement, and end alike when they are applied. A bare
return statement returns undefined, a block without one cannot be read, and neither can a header of
any form of which a parameter is missing. -/
theorem header_forms_read_alike (name : Option String) (params : List (Option String))
    {before : List Node} (silent : Silent before) (after : List Node) :
    (∀ result, result ≠ .hole → (∀ body, result ≠ .block body) →
      ∀ node ∈ forms name params result (before ++ .returns result :: after),
        node.ReadsAs params result ∧
          ∀ {σ : Type} (invoke : Invoke σ) args outer host,
            node.applied invoke args outer host =
              (Node.arrow params result).applied invoke args outer host) ∧
    (∀ node ∈ blockForms name params (before ++ .returns .hole :: after),
      node.ReadsAs params (.literal .undefined) ∧
        ∀ names : List String, params = names.map some →
          ∀ {σ : Type} (invoke : Invoke σ) args outer host,
            node.applied invoke args outer host = .ok (.ok .undefined, host)) ∧
    (∀ node ∈ blockForms name params before, ofNode node = .error .noReturn) ∧
    (none ∈ params → ∀ arrowBody body,
      ∀ node ∈ [.arrow params arrowBody, .statement (.arrow params arrowBody),
          .function name params body], ∃ fault, ofNode node = .error fault) := by
  refine ⟨?_, ?_, ?_, ?_⟩
  · intro result present expression node member
    have returned : returned (before ++ .returns result :: after) = .ok result := by
      rw [returned_append silent]
      cases result with
      | hole => exact absurd rfl present
      | _ => rfl
    have read := ofNode_forms present expression returned member
    refine ⟨.of_ofParts read, fun invoke args outer host => ?_⟩
    rw [applied_of_ofParts read, applied_of_ofParts (ofNode_arrow present expression)]
  · intro node member
    have read := ofNode_blockForms member
    rw [returned_append silent] at read
    refine ⟨.of_ofParts read, ?_⟩
    rintro names rfl σ invoke args outer host
    rw [applied_of_ofParts read, paramNames_map_some]
    rfl
  · intro node member
    rw [ofNode_blockForms member, returned_of_silent silent]
    rfl
  · intro missing arrowBody body node member
    simp only [List.mem_cons, List.not_mem_nil, or_false] at member
    rcases member with rfl | rfl | rfl
    · exact exists_fault_arrow missing arrowBody
    · rw [ofNode_statement]
      exact exists_fault_arrow missing arrowBody
    · cases body with
      | none => exact ⟨_, rfl⟩
      | some statements => exact exists_fault missing (returned statements) _

/-- A block in which a missing statement and an inner block come before the return statement, and a
second one after it. -/
theorem header_forms_read_alike_nested :
    let before : List Node := [.hole, .block [.returns (.literal .null)]]
    let after : List Node := [.returns (.literal (.bool true))]
    let result : Node := .identifier "x"
    let body := before ++ .returns result :: after
    let declaration : Node := .function (some "f") [some "x", some "y"] (some body)
    let bare : Node := .statement (.arrow [] (.block (before ++ .returns .hole :: after)))
    Silent before ∧ result ≠ .hole ∧ (∀ block, result ≠ .block block) ∧
      ofNode declaration = .ok ⟨"f", ["x", "y"], result⟩ ∧
      (∀ args host, declaration.applied (fun _ _ => pure .null : Invoke Nat) args .empty host =
        (Node.arrow [some "x", some "y"] result).applied (fun _ _ => pure .null) args .empty host) ∧
      bare.applied (fun _ _ => pure .null : Invoke Nat) [.null] .empty 3 =
        .ok (.ok .undefined, 3) ∧
      ofNode (.arrow [] (.block before)) = .error .noReturn ∧
      ofNode (.arrow [some "x", none] result) = .error (.parameter 1) ∧
      ∃ fault, ofNode (.function none [some "x", none] none) = .error fault := by
  intro before after result body declaration bare
  have silent : Silent before := by
    intro argument member
    simp [before] at member
  have expression : ∀ block, result ≠ .block block := nofun
  obtain ⟨alike, -⟩ :=
    header_forms_read_alike (some "f") [some "x", some "y"] silent after
  obtain ⟨-, undefined, empty, -⟩ := header_forms_read_alike none [] silent after
  obtain ⟨cut, -, -, missing⟩ := header_forms_read_alike none [some "x", none] silent after
  obtain ⟨reads, applied⟩ := alike result nofun expression declaration
    (by simp [forms, blockForms, declaration, body])
  obtain ⟨faulty, -⟩ := cut result nofun expression (.arrow [some "x", none] result)
    (by simp [forms])
  refine ⟨silent, nofun, expression, reads.named ["x", "y"] rfl,
    fun args host => applied _ args .empty host, ?_, ?_, ?_, ?_⟩
  · exact (undefined bare (by simp [blockForms, bare])).2 [] rfl _ [.null] .empty 3
  · exact empty _ List.mem_cons_self
  · exact faulty.missing ["x"] [] rfl
  · exact missing (by simp) .hole none _ (by simp)

end ExprTree
