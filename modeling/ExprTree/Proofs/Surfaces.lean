import ExprTree.Proofs.Documents
import ExprTree.Proofs.Mirror
import ExprTree.Proofs.Respelling
import ExprTree.Proofs.WireForm
import ExprTree.Request

/-!
A request can come as a document or as a message of the binary protocol, where the keys of its
objects are sorted and its containers are new. Without the standard bindings no expression can tell
which way it came: both ways end with the same fault, or with results that are the same message.
-/
namespace ExprTree

open Eval

variable {known : Ref → Prop} {move : Ref → Ref}

private theorem Scope.ofVars_mirrors {vars : Entries Value} (distinct : (Entries.keys vars).Nodup)
    (data : Value.AreDataEntries known vars) :
    Mirrors known move (ofVars (Entries.sorted (Value.sortedEntries move vars))) (ofVars vars) := by
  constructor
  · intro name
    simp only [ofVars, lookup, Value.get?_sortedEntries distinct]
    cases Entries.get? vars name <;> rfl
  · intro name
    simp only [ofVars, lookup]
    cases found : Entries.get? vars name with
    | none => exact trivial
    | some value => exact Value.areDataEntries_iff.mp data _ (Entries.mem_of_get? found)

namespace Request

/-- The request with sorted bindings and arguments. -/
def sorted (move : Ref → Ref) (request : Request) : Request :=
  { request with
    vars := Entries.sorted (Value.sortedEntries move request.vars)
    args := request.args.map (List.map (Value.sorted move)) }

/-- A request whose tree a document can spell and whose bindings and arguments are data. -/
structure IsData (known : Ref → Prop) (request : Request) : Prop where
  node : request.node.WellFormed
  distinct : (Entries.keys request.vars).Nodup
  vars : Value.AreDataEntries known request.vars
  args : ∀ args, request.args = some args → ∀ arg ∈ args, arg.IsData known

/-- What the parts of a request were read from. -/
theorem exists_of_ofFields {fields : List (String × Value)} {request : Request}
    (read : ofFields fields = .ok request) :
    ∃ spelled, Node.decode spelled = .ok request.node ∧ readContext fields = .ok request.vars ∧
      readArgs fields = .ok request.args ∧
      request.builtins = ((Entries.get? fields "builtins").getD .undefined).truthy := by
  unfold ofFields at read
  split at read
  · cases read
  · rename_i spelled _
    obtain ⟨node, tree, read⟩ := exists_of_bind_eq_ok read
    obtain ⟨vars, context, read⟩ := exists_of_bind_eq_ok read
    obtain ⟨args, arguments, last⟩ := exists_of_bind_eq_ok read
    cases last
    exact ⟨spelled, eq_ok_of_mapError tree, context, arguments, rfl⟩

section Reading

variable {ref : Ref} {fields : List (String × Value)}
  (data : (Value.object ref fields).IsData known)
include data

private theorem present?_sorted (name : String) :
    present? (Entries.sorted (Value.sortedEntries move fields)) name =
      (present? fields name).map (Value.sorted move) := by
  unfold present?
  rw [Value.get?_sortedEntries data.2.1]
  cases Entries.get? fields name with
  | none => rfl
  | some value =>
    rw [Option.map_some, Option.filter_some, Option.filter_some, Value.isNullish_sorted]
    split <;> rfl

private theorem present?_isData {name : String} {value : Value}
    (found : present? fields name = some value) : value.IsData known :=
  data.get? (Option.filter_eq_some_iff.mp found).1

private theorem readContext_sorted :
    readContext (Entries.sorted (Value.sortedEntries move fields)) =
      (readContext fields).map fun vars => Entries.sorted (Value.sortedEntries move vars) := by
  unfold readContext
  rw [present?_sorted data]
  cases present? fields "context" with
  | none => rfl
  | some value => cases value <;> rfl

private theorem readArgs_sorted :
    readArgs (Entries.sorted (Value.sortedEntries move fields)) =
      (readArgs fields).map (Option.map (List.map (Value.sorted move))) := by
  unfold readArgs
  rw [present?_sorted data]
  cases present? fields "args" with
  | none => rfl
  | some value =>
    cases value with
    | array ref items =>
      rw [Option.map_some, Value.sorted, Value.sortedItems_eq_map]
      rfl
    | _ => rfl

/-- The sorted form of an object reads as the sorted form of the request. -/
theorem ofFields_sorted :
    ofFields (Entries.sorted (Value.sortedEntries move fields)) =
      (ofFields fields).map (sorted move) := by
  unfold ofFields
  rw [readContext_sorted data, readArgs_sorted data, Value.get?_sortedEntries data.2.1,
    Value.get?_sortedEntries data.2.1]
  cases spelled : Entries.get? fields "node" with
  | none => rfl
  | some tree =>
    simp only [Option.map_some, Node.decode_sorted (data.get? spelled)]
    cases Node.decode tree with
    | error fault => rfl
    | ok node =>
      cases readContext fields with
      | error fault => rfl
      | ok vars =>
        cases readArgs fields with
        | error fault => rfl
        | ok args =>
          cases Entries.get? fields "builtins" with
          | none => rfl
          | some flag =>
            refine congrArg Except.ok ?_
            simp [sorted]

private theorem readContext_isData {vars : Entries Value} (read : readContext fields = .ok vars) :
    (Entries.keys vars).Nodup ∧ Value.AreDataEntries known vars := by
  unfold readContext at read
  split at read
  · cases read
    exact ⟨.nil, trivial⟩
  · rename_i found
    cases read
    exact (present?_isData data found).2
  · cases read

private theorem readArgs_isData {args : Option (List Value)} (read : readArgs fields = .ok args) :
    ∀ values, args = some values → ∀ value ∈ values, value.IsData known := by
  unfold readArgs at read
  split at read
  · cases read
    intro values given
    cases given
  · rename_i found
    cases read
    rintro values ⟨⟩
    exact Value.areData_iff.mp (present?_isData data found).2
  · cases read

private theorem ofFields_isData {request : Request} (read : ofFields fields = .ok request) :
    request.IsData known := by
  obtain ⟨spelled, tree, context, arguments, _⟩ := exists_of_ofFields read
  have bindings := readContext_isData data context
  exact ⟨Node.decode_wellFormed tree, bindings.1, bindings.2, readArgs_isData data arguments⟩

end Reading

/-- How a run ends and the state in which it leaves the host. -/
def Run.outcome (action : Run σ α) (host : σ) : Except RunFault α × σ :=
  Id.run (action.run.run host)

theorem Run.outcome_ofEval (action : Eval σ α) (host : σ) :
    (Run.ofEval action).outcome host =
      ((action.outcome host).1.mapError .failed, (action.outcome host).2) := rfl

private theorem Run.outcome_ofEval_mirrors {mirrored action : Eval σ Value}
    (mirror : Eval.Mirrors (Value.sorted move) (Value.IsData known) mirrored action) (host : σ) :
    ∃ result, (Run.ofEval action).outcome host = (result, host) ∧
      (Run.ofEval mirrored).outcome host = (result.map (Value.sorted move), host) := by
  obtain ⟨result, ended, mirrorEnded, _⟩ := mirror host
  refine ⟨result.mapError .failed, ?_, ?_⟩
  · rw [Run.outcome_ofEval, ended]
  · rw [Run.outcome_ofEval, mirrorEnded]
    cases result <;> rfl

/-- Without the standard bindings a request over data and its sorted form end alike. -/
theorem run_sorted (invoke : Invoke σ) (registry : Registry) (apart : Value.KeepsApart known move)
    {request : Request} (data : request.IsData known) (off : request.builtins = false) (host : σ) :
    ∃ result, (request.run invoke registry).outcome host = (result, host) ∧
      ((request.sorted move).run invoke registry).outcome host =
        (result.map (Value.sorted move), host) := by
  have bindings : Scope.Mirrors known move ((request.sorted move).scope registry)
      (request.scope registry) := by
    have plain : (request.sorted move).builtins = false := off
    rw [scope, scope, if_neg (by simp [plain]), if_neg (by simp [off])]
    exact Scope.ofVars_mirrors data.distinct data.vars
  cases given : request.args with
  | none =>
    have same : (request.sorted move).args = none := by simp [sorted, given]
    rw [run, run, given, same]
    exact Run.outcome_ofEval_mirrors (evaluate_mirrors invoke apart bindings _ data.node) host
  | some args =>
    have same : (request.sorted move).args = some (args.map (Value.sorted move)) := by
      simp [sorted, given]
    have tree : (request.sorted move).node = request.node := rfl
    rw [run, run, given, same, tree]
    cases read : Header.ofNode request.node with
    | error fault => exact ⟨.error (.header fault), rfl, rfl⟩
    | ok header =>
      have formed := Header.ofNode_wellFormed data.node read
      exact Run.outcome_ofEval_mirrors
        (Header.apply_mirrors invoke apart bindings formed (data.args args given)) host

/-- Why a value has no result: it is no request, or running the request failed. -/
inductive HandleFault where
  | request (fault : RequestFault)
  | run (fault : RunFault)

/-- Reads a value as a request and runs it. -/
def handle (invoke : Invoke σ) (registry : Registry) (value : Value) (host : σ) :
    Except HandleFault Value × σ :=
  match ofValue value with
  | .error fault => (.error (.request fault), host)
  | .ok request =>
    let (result, later) := (request.run invoke registry).outcome host
    (result.mapError .run, later)

/-- Reading and running an object of data and its sorted form ends alike. -/
theorem handle_sorted (invoke : Invoke σ) (registry : Registry)
    (apart : Value.KeepsApart known move) {ref : Ref} {fields : List (String × Value)}
    (data : (Value.object ref fields).IsData known)
    (off : ((Entries.get? fields "builtins").getD .undefined).truthy = false) (host : σ) :
    ∃ result, handle invoke registry (.object ref fields) host = (result, host) ∧
      handle invoke registry ((Value.object ref fields).sorted move) host =
        (result.map (Value.sorted move), host) := by
  have readSorted : ofFields (Entries.sorted (Value.sortedEntries move fields)) = _ :=
    ofFields_sorted data
  simp only [handle, ofValue, Value.sorted, readSorted]
  cases read : ofFields fields with
  | error fault => exact ⟨.error (.request fault), rfl, rfl⟩
  | ok request =>
    obtain ⟨_, _, _, _, flag⟩ := exists_of_ofFields read
    obtain ⟨result, ended, sortedEnded⟩ := run_sorted invoke registry apart
      (ofFields_isData data read) (flag.trans off) host
    refine ⟨result.mapError .run, ?_, ?_⟩
    · simp only [ended]
    · simp only [Except.map, sortedEnded]
      cases result <;> rfl

/-- Endings that no client can tell apart: the same fault, or results that are the same message. -/
inductive SameEnding : Except HandleFault Value → Except HandleFault Value → Prop where
  | fault (fault : HandleFault) : SameEnding (.error fault) (.error fault)
  | result {value other : Value}
      (same : Wire.Same (.struct (resultFields value)) (.struct (resultFields other))) :
      SameEnding (.ok value) (.ok other)

theorem SameEnding.sorted (result : Except HandleFault Value) :
    SameEnding result (result.map (Value.sorted move)) := by
  cases result with
  | error fault => exact .fault fault
  | ok value =>
    refine .result (.struct ?_ (.refl _))
    have same := Value.same_toWire_sorted move value
    refine .cons ?_ (.cons same .nil)
    rw [Value.typeName_sorted]
    exact .text _

end Request

private theorem Value.truthy_ofDatum (ref other : Ref) (datum : Datum) :
    (ofDatum ref datum).truthy = (ofDatum other datum).truthy := by
  cases datum <;> rfl

section Converted

open Request

variable (invoke : Invoke σ) (registry : Registry) (root other : Ref)
  {fields : List (String × Datum)}
  (off : ∀ flag, Entries.get? fields "builtins" = some flag →
    (Value.ofDatum root flag).truthy = false)
include off

/-- Converting a document only sorts its result, as long as its records repeat no key. -/
theorem handle_converted (distinct : (Datum.record fields).KeysDiffer) (host : σ) :
    ∃ result, handle invoke registry (Value.ofDatum root (.record fields)) host = (result, host) ∧
      handle invoke registry
          (Value.ofWire other (Value.ofDatum root (.record fields)).toWire) host =
        (result.map (Value.sorted (root.reroot other)), host) := by
  have data : (Value.ofDatum root (.record fields)).IsData (Value.Below root) :=
    Value.isData_ofDatum root [] (.record fields) distinct
  have back : Value.ofWire other (Value.ofDatum root (.record fields)).toWire =
      (Value.ofDatum root (.record fields)).sorted (Ref.reroot root other) :=
    Value.ofWire_toWire_ofDatum root other [] (.record fields)
  have flagOff : ((Entries.get? (Value.ofDatumEntries root fields) "builtins").getD
      .undefined).truthy = false := by
    rw [Value.get?_ofDatumEntries]
    cases given : Entries.get? fields "builtins" with
    | none => rfl
    | some flag =>
      rw [← off flag given]
      exact Value.truthy_ofDatum ..
  rw [back]
  exact handle_sorted invoke registry (Value.keepsApart_reroot root other) data flagOff host

/-- A document as it is read from octets ends like its form in the binary protocol. -/
theorem handle_decoded {octets : List UInt8} {yaml : Yaml.Reader}
    (decoded : decodeDocument octets yaml = .ok (.record fields)) (host : σ) :
    let document := Value.ofDatum root (.record fields)
    SameEnding (handle invoke registry document host).1
      (handle invoke registry (Value.ofWire other document.toWire) host).1 := by
  obtain ⟨result, ended, convertedEnded⟩ :=
    handle_converted invoke registry root other off (decodeDocument_keysDiffer decoded) host
  simp only [ended, convertedEnded]
  exact SameEnding.sorted result

end Converted

open Request in
/-- A document whose flag for the standard bindings is absent or falsy ends like its form in the
binary protocol, and neither reaches the host. -/
theorem handle_ofWire_toWire (invoke : Invoke σ) (registry : Registry) (root other : Ref)
    (fields : List (String × Datum)) (distinct : (Datum.record fields).KeysDiffer)
    (off : ∀ flag, Entries.get? fields "builtins" = some flag →
      (Value.ofDatum root flag).truthy = false) (host : σ) :
    let document := Value.ofDatum root (.record fields)
    let direct := handle invoke registry document host
    let converted := handle invoke registry (Value.ofWire other document.toWire) host
    SameEnding direct.1 converted.1 ∧ direct.2 = host ∧ converted.2 = host := by
  intro document direct converted
  obtain ⟨result, ended, convertedEnded⟩ :=
    handle_converted invoke registry root other off distinct host
  rw [show direct = (result, host) from ended, show converted = _ from convertedEnded]
  exact ⟨SameEnding.sorted result, rfl, rfl⟩

/-- A request for an object whose keys stand out of order. -/
def unsortedRequest : List (String × Datum) :=
  [("node", .record [("type", .text "Identifier"), ("name", .text "x")]), ("builtins", .bool false),
    ("context", .record [("x", .record [("b", .bool true), ("a", .null)])])]

open Request in
theorem handle_ofWire_toWire_unsorted :
    let document := Value.ofDatum (Ref.ofOrigin 1) (.record unsortedRequest)
    let direct := handle Host.plain.invoke Registry.standard document 3
    let converted := handle Host.plain.invoke Registry.standard
      (Value.ofWire (Ref.ofOrigin 2) document.toWire) 3
    (Datum.record unsortedRequest).KeysDiffer ∧
      Entries.get? unsortedRequest "builtins" = some (.bool false) ∧
      SameEnding direct.1 converted.1 ∧ direct.2 = 3 ∧ converted.2 = 3 := by
  have distinct : (Datum.record unsortedRequest).KeysDiffer := by
    simp [unsortedRequest, Datum.KeysDiffer, Datum.EntryKeysDiffer, Entries.keys]
  have flag : Entries.get? unsortedRequest "builtins" = some (.bool false) := rfl
  refine ⟨distinct, flag, handle_ofWire_toWire _ _ _ _ unsortedRequest distinct ?_ 3⟩
  rw [flag]
  rintro _ ⟨⟩
  rfl

end ExprTree
