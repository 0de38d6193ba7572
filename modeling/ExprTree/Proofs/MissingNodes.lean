import ExprTree.Proofs.Link
import ExprTree.Proofs.Mirror

/-!
Walks over linked trees never trap. A walk ends as the evaluation of the tree with holes does, and
the name of a callee is asked for only once the callee has a value, when all its nodes are there.
In a tree that was decoded from a document no check finds a node missing.
-/
namespace ExprTree

/-- How a run that may trap ends like one that cannot. In a whole tree no node is missing. -/
inductive Reports {ε α : Type} (whole : Bool) : Except (Stop ε) α → Except ε α → Prop where
  | ok (a : α) : Reports whole (.ok a) (.ok a)
  | failed (error : ε) : Reports whole (.error (.failed error)) (.error error)
  | missing (error : ε) (lacking : whole = false) :
      Reports whole (.error (.missing error)) (.error error)

namespace Reports

variable {whole : Bool}

/-- Readings in two steps report alike if both steps do. -/
theorem bind {walked : Except (Stop ε) α} {plain : Except ε β} {next : α → Except (Stop ε) γ}
    {other : β → Except ε δ} {f : α → β} {g : γ → δ} (start : Reports whole (walked.map f) plain)
    (rest : ∀ a, Reports whole ((next a).map g) (other (f a))) :
    Reports whole ((walked >>= next).map g) (plain >>= other) := by
  cases walked with
  | ok a =>
    cases start
    exact rest a
  | error stop =>
    cases start with
    | failed error => exact .failed error
    | missing error lacking => exact .missing error lacking

end Reports

private theorem BinaryOperator.apply_of_test? {op : BinaryOperator} {test : Ordering → Bool}
    (tested : op.test? = some test) (left right : Value) :
    op.apply left right = ordered left right test := by
  cases op <;> cases tested <;> rfl

namespace Walk

/-- How a walk ends and the state in which it leaves the host. -/
def outcome (action : Walk σ α) (host : σ) : Except (Stop Failure) α × σ :=
  Id.run (action.run.run host)

theorem outcome_bind (action : Walk σ α) (next : α → Walk σ β) (host : σ) :
    (action >>= next).outcome host =
      match action.outcome host with
      | (.ok a, later) => (next a).outcome later
      | (.error stop, later) => (.error stop, later) := by
  change Id.run ((action >>= next).run.run host) = _
  simp only [ExceptT.run_bind, StateT.run_bind, outcome]
  rcases action.run.run host with ⟨result, later⟩
  cases result <;> rfl

theorem outcome_ofEval (action : Eval σ α) (host : σ) :
    (ofEval action).outcome host =
      ((action.outcome host).1.mapError .failed, (action.outcome host).2) := rfl

/-- Some walk ends with the value. -/
def Yields (action : Walk σ α) (a : α) : Prop :=
  ∃ host later, action.outcome host = (.ok a, later)

private theorem Yields.of_bind {action : Walk σ α} {next : α → Walk σ β} {b : β}
    (yields : (action >>= next).Yields b) : ∃ a, action.Yields a ∧ (next a).Yields b := by
  obtain ⟨host, later, ended⟩ := yields
  rw [outcome_bind] at ended
  split at ended
  · rename_i a middle first
    exact ⟨a, ⟨host, middle, first⟩, middle, later, ended⟩
  · cases ended

/-- From every state of the host a walk ends like an evaluation and leaves the same state. -/
def Follows (whole : Bool) (action : Walk σ α) (plain : Eval σ α) : Prop :=
  ∀ host, Reports whole (action.outcome host).1 (plain.outcome host).1 ∧
    (action.outcome host).2 = (plain.outcome host).2

variable {whole : Bool}

theorem Follows.pure (a : α) : Follows whole (pure a : Walk σ α) (pure a) :=
  fun _ => ⟨.ok a, rfl⟩

theorem Follows.failed (failure : Failure) :
    Follows whole (throw (.failed failure) : Walk σ α) (throw failure) :=
  fun _ => ⟨.failed failure, rfl⟩

theorem Follows.missing (failure : Failure) (lacking : whole = false) :
    Follows whole (throw (.missing failure) : Walk σ α) (throw failure) :=
  fun _ => ⟨.missing failure lacking, rfl⟩

theorem Follows.ofEval (action : Eval σ α) : Follows whole (ofEval action) action := by
  intro host
  rw [outcome_ofEval]
  cases (action.outcome host).1 with
  | ok a => exact ⟨.ok a, rfl⟩
  | error failure => exact ⟨.failed failure, rfl⟩

/-- Sequences are followed part by part. -/
theorem Follows.bind {action : Walk σ α} {plain : Eval σ α} {next : α → Walk σ β}
    {other : α → Eval σ β} (start : Follows whole action plain)
    (rest : ∀ a, action.Yields a → Follows whole (next a) (other a)) :
    Follows whole (action >>= next) (plain >>= other) := by
  intro host
  have begun := start host
  have yielded : ∀ a later, action.outcome host = (.ok a, later) → action.Yields a :=
    fun a later ended => ⟨host, later, ended⟩
  rw [outcome_bind, Eval.outcome_bind]
  generalize action.outcome host = one at begun yielded ⊢
  generalize plain.outcome host = two at begun ⊢
  obtain ⟨one, later⟩ := one
  obtain ⟨two, last⟩ := two
  obtain ⟨result, left⟩ := begun
  obtain rfl : later = last := left
  cases result with
  | ok a => exact rest a (yielded a later rfl) later
  | failed failure => exact ⟨.failed failure, rfl⟩
  | missing failure lacking => exact ⟨.missing failure lacking, rfl⟩

/-- Texts are asked for only where there are texts. -/
theorem compare_eq (left right : Value) (test : Ordering → Bool) :
    (compare left right test : Walk σ Value) = pure (BinaryOperator.ordered left right test) := by
  unfold compare
  split
  · rename_i texts
    obtain ⟨a, first⟩ := Value.eq_text_of_kind texts.1
    obtain ⟨b, second⟩ := Value.eq_text_of_kind texts.2
    rw [BinaryOperator.ordered, BinaryOperator.order?, first, second]
    rfl
  · rfl

private theorem applyBinary_eq (symbol : String) (left right : Value) :
    (applyBinary symbol left right : Walk σ Value) =
      ofExcept (ExprTree.applyBinary symbol left right) := by
  unfold applyBinary ExprTree.applyBinary
  cases BinaryOperator.ofSymbol? symbol with
  | none => rfl
  | some op =>
    cases tested : op.test? with
    | none =>
      simp only [tested]
      rfl
    | some test =>
      simp only [tested, compare_eq, BinaryOperator.apply_of_test? tested]
      rfl

end Walk

namespace Link

variable {link : Link} {whole : Bool} {invoke : Invoke σ} {scope : Scope}

private theorem erase_eq_hole_iff : link.erase = .hole ↔ link.isNil = true := by
  cases link with
  | absent | dangling _ => simp [erase, isNil]
  | function _ _ body => cases body <;> simp [erase, isNil]
  | _ => simp [erase, isNil]

private theorem eq_literal_of_erase {value : Value} (same : link.erase = .literal value) :
    link = literal value := by
  cases link with
  | literal other =>
    cases same
    rfl
  | function _ _ body => cases body <;> cases same
  | _ => cases same

/-- Every node that gives a part of a callee's name is there. -/
def Named : Link → Prop
  | absent => False
  | dangling _ => False
  | member object property _ => object.Named ∧ property.isNil = false
  | _ => True

/-- The name of a callee does not trap where all its nodes are there. -/
theorem calleeName_eq (link : Link) (named : link.Named) :
    link.calleeName = .ok link.erase.calleeName := by
  match link with
  | member object property computed =>
    rw [calleeName, calleeName_eq object named.1, erase]
    cases property with
    | absent | dangling _ => cases named.2
    | function _ _ body => cases body <;> rfl
    | identifier name => cases computed <;> rfl
    | _ => rfl
  | function _ _ none => rfl
  | function _ _ (some _) => rfl
  | literal _ | identifier _ | binary .. | unary .. | call .. | block _ | returns _ | statement _
  | arrow .. | sequence _ | unknown _ => rfl

example : (member (dangling .identifier) (identifier "x") false).calleeName = .error .noNode := rfl

private theorem walk_of_isNil (nothing : link.isNil = true) :
    link.walk invoke scope = throw (.missing (.unsupportedNode Node.hole.tag)) := by
  unfold walk
  rw [if_pos nothing]

/-- Whatever has a value is there. -/
theorem isNil_of_yields {value : Value} (yields : (link.walk invoke scope).Yields value) :
    link.isNil = false := by
  cases nothing : link.isNil with
  | false => rfl
  | true =>
    obtain ⟨host, later, ended⟩ := yields
    rw [walk_of_isNil nothing] at ended
    cases ended

/-- Only a tree that is not whole lacks a node. -/
theorem lacking_of_formed (formed : whole = true → link.erase.WellFormed)
    (nothing : link.isNil = true) : whole = false := by
  refine eq_false_of_ne_true fun known => ?_
  have present := formed known
  rw [erase_eq_hole_iff.mpr nothing] at present
  exact present

private theorem propertyKey_follows (formed : whole = true → link.erase.WellFormed) :
    Walk.Follows whole (link.propertyKey : Walk σ Value) (ExprTree.propertyKey link.erase) := by
  cases link with
  | absent => exact .missing _ (lacking_of_formed formed rfl)
  | dangling shape => exact .missing _ (lacking_of_formed formed rfl)
  | identifier name => exact .pure _
  | function _ _ body => cases body <;> exact .failed _
  | _ => exact .failed _

private theorem isNil_of_key {key : Value} (yields : (link.propertyKey : Walk σ Value).Yields key) :
    link.isNil = false := by
  obtain ⟨host, later, ended⟩ := yields
  cases link with
  | absent | dangling _ => cases ended
  | _ => rfl

private theorem walk_computed (object property : Link) :
    (member object property true).walk invoke scope = (do
      let base ← object.walk invoke scope
      let key ← property.walk invoke scope
      Walk.ofExcept (base.member key)) := by
  rw [walk]
  rfl

private theorem walk_dotted (object property : Link) :
    (member object property false).walk invoke scope = (do
      let base ← object.walk invoke scope
      let key ← property.propertyKey
      Walk.ofExcept (base.member key)) := by
  rw [walk]
  rfl

/-- A callee with a value has all the nodes of its name. -/
theorem named_of_yields (link : Link) {value : Value}
    (yields : (link.walk invoke scope).Yields value) : link.Named := by
  match link with
  | member object property true =>
    rw [walk_computed] at yields
    obtain ⟨base, first, yields⟩ := yields.of_bind
    obtain ⟨key, second, _⟩ := yields.of_bind
    exact ⟨named_of_yields object first, isNil_of_yields second⟩
  | member object property false =>
    rw [walk_dotted] at yields
    obtain ⟨base, first, yields⟩ := yields.of_bind
    obtain ⟨key, second, _⟩ := yields.of_bind
    exact ⟨named_of_yields object first, isNil_of_key second⟩
  | absent => cases isNil_of_yields yields
  | dangling _ => cases isNil_of_yields yields
  | literal _ | identifier _ | binary .. | unary .. | call .. | function .. | block _ | returns _
  | statement _ | arrow .. | sequence _ | unknown _ => exact trivial

/-- A call asks for a function only where there is one, and for the name of its callee only where
the callee has a value. -/
theorem invoked_follows {target : Value} {callee : Link} (named : callee.Named)
    (values : List Value) :
    Walk.Follows whole
      (do
        if target.kind ≠ .function then
          throw (.failed (.notCallable (← Walk.look callee.calleeName)))
        else
          let callable ← Walk.access target.asFunction
          Walk.ofEval (invoke callable values))
      (match target with
        | .function callable => invoke callable values
        | _ => throw (.notCallable callee.erase.calleeName)) := by
  rw [calleeName_eq callee named]
  cases target with
  | function callable => exact .ofEval _
  | _ => exact .failed _

mutual

/-- A walk ends like the evaluation of the tree with holes. -/
theorem walk_follows (link : Link) (formed : whole = true → link.erase.WellFormed) :
    (link.walk invoke scope).Follows whole (evaluate invoke scope link.erase) := by
  match link with
  | absent =>
    rw [walk_of_isNil rfl]
    exact .missing _ (lacking_of_formed formed rfl)
  | dangling _ =>
    rw [walk_of_isNil rfl]
    exact .missing _ (lacking_of_formed formed rfl)
  | literal value =>
    rw [walk]
    exact .pure value
  | identifier name =>
    rw [walk]
    exact .pure _
  | member object property true =>
    rw [walk_computed, erase, evaluate_computed]
    refine .bind (walk_follows object fun known => (formed known).1) fun base _ => ?_
    exact .bind (walk_follows property fun known => (formed known).2) fun key _ => .ofEval _
  | member object property false =>
    rw [walk_dotted, erase, evaluate_dotted]
    refine .bind (walk_follows object fun known => (formed known).1) fun base _ => ?_
    exact .bind (propertyKey_follows fun known => (formed known).2) fun key _ => .ofEval _
  | binary operator left right =>
    rw [walk, erase, evaluate]
    refine .bind (walk_follows left fun known => (formed known).1) fun l _ => ?_
    refine .bind (walk_follows right fun known => (formed known).2) fun r _ => ?_
    rw [Walk.applyBinary_eq]
    exact .ofEval _
  | unary operator argument leading =>
    rw [walk, erase, evaluate]
    exact .bind (walk_follows argument fun known => (formed known).1) fun value _ => .ofEval _
  | call callee arguments =>
    rw [walk, erase, evaluate]
    refine .bind (walk_follows callee fun known => (formed known).1) fun target reached => ?_
    refine .bind (walkAll_follows arguments fun known => (formed known).2) fun values _ => ?_
    -- The callee has a value here, so every node is there that its name may be asked of.
    exact invoked_follows (named_of_yields callee reached) values
  | function _ _ none | function _ _ (some _) | block _ | returns _ | statement _
  | arrow _ _ | sequence _ | unknown _ =>
    unfold walk
    exact .failed _

private theorem walkAll_follows (links : List Link)
    (formed : whole = true → Node.AllWellFormed (eraseAll links)) :
    (walkAll invoke scope links).Follows whole (evaluateAll invoke scope (eraseAll links)) := by
  match links with
  | [] =>
    rw [walkAll, eraseAll, evaluateAll]
    exact .pure []
  | link :: rest =>
    rw [walkAll, eraseAll, evaluateAll]
    refine .bind (walk_follows link fun known => (formed known).1) fun value _ => ?_
    exact .bind (walkAll_follows rest fun known => (formed known).2) fun values _ => .pure _

end

end Link

namespace LinkedHeader

variable {link : Link} {whole : Bool}

/-- Reading what a block returns neither traps nor finds a node missing. -/
theorem returned_reports (statements : List Link) :
    Reports whole ((returned statements).map Link.erase)
      (Header.returned (Link.eraseAll statements)) := by
  induction statements with
  | nil => exact .failed _
  | cons first rest ih =>
    cases first with
    | returns argument =>
      rw [returned, Link.eraseAll, Link.erase]
      split
      · rename_i nothing
        rw [Link.erase_eq_hole_iff.mpr nothing]
        exact .ok _
      · rename_i present
        rw [Header.returned]
        · exact .ok _
        · intro nothing
          exact present (Link.erase_eq_hole_iff.mp nothing)
    | function _ _ body => cases body <;> exact ih
    | _ => exact ih

private theorem exists_paramNames {params : List (Option String)}
    (all : ∀ param ∈ params, param.isSome)
    (place : Nat) : ∃ names, Header.paramNames place params = .ok names := by
  induction params generalizing place with
  | nil => exact ⟨[], rfl⟩
  | cons param rest ih =>
    obtain ⟨first, others⟩ := List.forall_mem_cons.mp all
    obtain ⟨name, rfl⟩ := Option.isSome_iff_exists.mp first
    obtain ⟨names, read⟩ := ih others (place + 1)
    exact ⟨name :: names, by rw [Header.paramNames, read]; rfl⟩

private theorem paramNames_reports {params : List (Option String)}
    (formed : whole = true → ∀ param ∈ params, param.isSome) :
    Reports whole ((paramNames params).map id) (Header.paramNames 0 params) := by
  unfold paramNames
  cases read : Header.paramNames 0 params with
  | ok names => exact .ok names
  | error fault =>
    cases whole with
    | false => exact .missing fault rfl
    | true =>
      obtain ⟨names, other⟩ := exists_paramNames (formed rfl) 0
      rw [read] at other
      cases other

/-- What a declaration or arrow returns is read before its parameters. -/
theorem read_reports {params : List (Option String)} {walked : Except (Stop HeaderFault) Link}
    {plain : Except HeaderFault Node} (start : Reports whole (walked.map Link.erase) plain)
    (formed : whole = true → ∀ param ∈ params, param.isSome) (name : String) :
    Reports whole
      ((do
        let result ← walked
        .ok ⟨name, ← paramNames params, result⟩ :
          Except (Stop HeaderFault) LinkedHeader).map erase)
      (do
        let result ← plain
        .ok ⟨name, ← Header.paramNames 0 params, result⟩) :=
  start.bind fun _ => (paramNames_reports formed).bind fun _ => .ok _

private theorem ofArrow_reports {params : List (Option String)} {body : Link}
    (formed : whole = true → (Node.arrow params body.erase).WellFormed) :
    Reports whole ((ofArrow params body).map erase) (Header.ofArrow params body.erase) := by
  have all := fun known => (formed known).1
  have lacking := Link.lacking_of_formed fun known => (formed known).2
  cases body with
  | absent => exact .missing _ (lacking rfl)
  | dangling shape => exact .missing _ (lacking rfl)
  | block statements => exact read_reports (returned_reports statements) all ""
  | function _ _ body => cases body <;> exact read_reports (.ok _) all ""
  | _ => exact read_reports (.ok _) all ""

private theorem ofStatement_reports {expression : Link}
    (formed : whole = true → expression.erase.WellFormed) :
    Reports whole ((ofLink (.statement expression)).map erase)
      (Header.ofNode (.statement expression.erase)) := by
  cases expression with
  | absent => exact .missing _ (Link.lacking_of_formed formed rfl)
  | dangling shape => exact .missing _ (Link.lacking_of_formed formed rfl)
  | arrow params body => exact ofArrow_reports formed
  | function _ _ body => cases body <;> exact .failed _
  | _ => exact .failed _

/-- Reading a header does not trap, and finds all nodes in a whole tree. -/
theorem ofLink_reports (formed : whole = true → link.erase.WellFormed) :
    Reports whole ((ofLink link).map erase) (Header.ofNode link.erase) := by
  cases link with
  | absent => exact .missing _ (Link.lacking_of_formed formed rfl)
  | dangling shape => exact .missing _ (Link.lacking_of_formed formed rfl)
  | function name params body =>
    cases body with
    | none => exact .missing _ (eq_false_of_ne_true formed)
    | some body => exact read_reports (returned_reports body) (fun known => (formed known).1) _
  | statement expression => exact ofStatement_reports formed
  | arrow params body => exact ofArrow_reports formed
  | _ => exact .failed _

/-- A header that was read is the header of the tree with holes. -/
theorem ofNode_of_ofLink {header : LinkedHeader} (read : ofLink link = .ok header) :
    Header.ofNode link.erase = .ok header.erase := by
  have same : Reports false ((ofLink link).map erase) (Header.ofNode link.erase) :=
    ofLink_reports nofun
  rw [read] at same
  cases ended : Header.ofNode link.erase with
  | ok found =>
    rw [ended] at same
    cases same
    rfl
  | error fault =>
    rw [ended] at same
    cases same

private theorem apply_follows {header : LinkedHeader}
    (formed : whole = true → link.erase.WellFormed)
    (read : ofLink link = .ok header) (invoke : Invoke σ) (args : List Value) (outer : Scope) :
    (header.apply invoke args outer).Follows whole (header.erase.apply invoke args outer) := by
  cases whole with
  | false => exact Link.walk_follows header.body nofun
  | true =>
    rcases Header.ofNode_wellFormed (formed rfl) (ofNode_of_ofLink read) with body | bare
    · exact Link.walk_follows header.body fun _ => body
    · -- A return without argument gives a literal that no document spells.
      have literal := Link.eq_literal_of_erase bare
      rw [apply, Header.apply, bare, literal, Link.walk]
      exact .pure _

end LinkedHeader

/-- Walking a tree, reading a header from it and applying the header end as they do on the tree with
holes. In a whole tree none of them finds a node missing. -/
structure Link.NeverTraps (link : Link) (whole : Bool) : Prop where
  walk {σ : Type} (invoke : Invoke σ) (scope : Scope) :
    (link.walk invoke scope).Follows whole (evaluate invoke scope link.erase)
  header : Reports whole ((LinkedHeader.ofLink link).map LinkedHeader.erase)
    (Header.ofNode link.erase)
  apply {σ : Type} (invoke : Invoke σ) (header : LinkedHeader) (args : List Value)
    (outer : Scope) : LinkedHeader.ofLink link = .ok header →
    (header.apply invoke args outer).Follows whole (header.erase.apply invoke args outer)

private theorem Link.neverTraps {link : Link} {whole : Bool}
    (formed : whole = true → link.erase.WellFormed) : link.NeverTraps whole where
  walk _ _ := link.walk_follows formed
  header := LinkedHeader.ofLink_reports formed
  apply invoke _ args outer read := LinkedHeader.apply_follows formed read invoke args outer

/-- Whatever nodes a linked tree lacks, walking it, reading a header from it and applying that
header return what they return on the tree with holes: a value or an error. A callee with a value
has all the nodes of its name. And in a tree that a document decodes to, no check finds a node
missing. -/
theorem links_never_trap (link : Link) :
    link.NeverTraps false ∧
      (∀ {σ : Type} (invoke : Invoke σ) (scope : Scope) (value : Value),
        (link.walk invoke scope).Yields value →
          link.Named ∧ link.calleeName = .ok link.erase.calleeName) ∧
      ∀ value, Node.decode value = .ok link.erase → link.NeverTraps true := by
  refine ⟨Link.neverTraps nofun, ?_, ?_⟩
  · intro σ invoke scope value yields
    have named := link.named_of_yields yields
    exact ⟨named, link.calleeName_eq named⟩
  · intro value decoded
    exact Link.neverTraps fun _ => Node.decode_wellFormed decoded

/-- An arrow whose return statement links to no argument. -/
def bareArrow : Link :=
  .arrow [] (.block [.returns (.dangling .literal)])

theorem links_never_trap_bare :
    let ref := Ref.ofOrigin 0
    let statement : Value := .object ref [("type", .text "ReturnStatement")]
    let block : Value :=
      .object ref [("type", .text "BlockStatement"), ("body", .array ref [statement])]
    let document : Value := .object ref
      [("type", .text "ArrowFunctionExpression"), ("params", .array ref []), ("body", block)]
    let callee : Link := .member (.identifier "f") (.identifier "x") false
    let scope := Scope.ofVars [("f", .bool true)]
    Node.decode document = .ok bareArrow.erase ∧ bareArrow.NeverTraps true ∧
      (callee.walk (fun _ _ => pure .null : Invoke Unit) scope).Yields .undefined ∧ callee.Named ∧
      callee.calleeName = .ok "f.x" := by
  intro ref statement block document callee scope
  have decoded : Node.decode document = .ok bareArrow.erase := rfl
  have yields : (callee.walk (fun _ _ => pure .null : Invoke Unit) scope).Yields .undefined :=
    ⟨(), (), rfl⟩
  obtain ⟨named, name⟩ := (links_never_trap callee).2.1 _ scope .undefined yields
  exact ⟨decoded, (links_never_trap bareArrow).2.2 document decoded, yields, named, name⟩

end ExprTree
