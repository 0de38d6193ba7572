import ExprTree.CommandLine
import ExprTree.Proofs.Handling
import ExprTree.Proofs.RoundTrip

/-!
The command that evaluates a document does what a request does. Its tree, context and arguments,
read from three places, are the parts of a request. It fails for the same cause as that request, or
prints its result, if that can be written as JSON.
-/
namespace ExprTree.CommandLine

open Request

/-- The result of a request, or its cause of failure, as the command reports it. -/
inductive Reported : Except HandleFault Value → Except EvaluateFault String → Prop where
  | result {value : Value} {text : List Char} (written : value.write = .ok text) :
      Reported (.ok value)
        (.ok ((if value.isUndefined then "undefined" else String.ofList text) ++ "\n"))
  | unwritable {value : Value} {fault : Json.WriteFault} (refused : value.write = .error fault) :
      Reported (.ok value) (.error (.unwritable fault))
  | node (fault : NodeFault) : Reported (.error (.request (.node fault))) (.error (.node fault))
  | header (fault : HeaderFault) : Reported (.error (.run (.header fault))) (.error (.header fault))
  | failed (failure : Failure) :
      Reported (.error (.run (.failed failure))) (.error (.failed failure))

private theorem Reported.exists_cause {fault : HandleFault} {result : Except EvaluateFault String}
    (reported : Reported (.error fault) result) : ∃ cause, result = .error cause := by
  cases reported <;> exact ⟨_, rfl⟩

private theorem Reported.message_eq {fault : HandleFault} {cause : EvaluateFault}
    (reported : Reported (.error fault) (.error cause)) :
    cause.message = fault.message ∨ cause.message = "decode AST: " ++ fault.message := by
  cases reported with
  | node fault => exact .inr rfl
  | header fault => exact .inl rfl
  | failed failure => exact .inl rfl

namespace EvaluateOptions

variable (options : EvaluateOptions) (inputs : Inputs)

/-- The octets of the tree's document. -/
def sourceOctets : Except ReadFault (List UInt8) :=
  match options.source with
  | none => .ok inputs.stdin
  | some path => inputs.file path

/-- Inputs that are documents of a tree, of a context and, for a header, of arguments. -/
structure Reads (node : Datum) (context : List (String × Datum)) (args : List Datum) : Prop where
  node : ∃ octets, options.sourceOctets inputs = .ok octets ∧ decodeDocument octets inputs.yaml = .ok node
  named : options.context ≠ ""
  context : ∃ octets, inputs.file options.context = .ok octets ∧
    decodeDocument octets inputs.yaml = .ok (.record context)
  args : options.function = true →
    decodeDocument (Utf8.encode options.args.toList) inputs.yaml = .ok (.list args)

/-- The fields of the request that has the tree, the context and the arguments for its parts. -/
def requestFields (node : Datum) (context : List (String × Datum)) (args : List Datum) :
    Entries Value :=
  [("node", .ofDatum sourceRef node), ("context", .ofDatum contextRef (.record context)),
    ("builtins", .bool options.builtins)] ++
      if options.function then [("args", .ofDatum argsRef (.list args))] else []

variable {options inputs} {node : Datum} {context : List (String × Datum)} {args : List Datum}

/-- Only the tree can keep such fields from being a request. -/
theorem ofFields_requestFields :
    ofFields (options.requestFields node context args) =
      ((Node.decode (.ofDatum sourceRef node)).mapError RequestFault.node).map fun tree =>
        ⟨tree, Value.ofDatumEntries contextRef context, options.builtins,
          if options.function then some (Value.ofDatumItems argsRef 0 args) else none⟩ := by
  have spelled : Entries.get? (options.requestFields node context args) "node" =
      some (.ofDatum sourceRef node) := rfl
  have flag : Entries.get? (options.requestFields node context args) "builtins" =
      some (.bool options.builtins) := rfl
  have bindings : Request.readContext (options.requestFields node context args) =
      .ok (Value.ofDatumEntries contextRef context) := rfl
  have arguments : Request.readArgs (options.requestFields node context args) =
      .ok (if options.function then some (Value.ofDatumItems argsRef 0 args) else none) := by
    unfold requestFields
    cases options.function <;> rfl
  simp only [ofFields, spelled, flag, bindings, arguments]
  cases Node.decode (.ofDatum sourceRef node) <;> rfl

section Reading

variable (reads : options.Reads inputs node context args)
include reads

private theorem readNode_eq :
    options.readNode inputs = (Node.decode (.ofDatum sourceRef node)).mapError .node := by
  obtain ⟨octets, found, decoded⟩ := reads.node
  unfold sourceOctets at found
  unfold readNode
  cases place : options.source with
  | none =>
    rw [place] at found
    cases found
    simp only [decoded, bind, Except.bind, Except.mapError]
  | some path =>
    rw [place] at found
    simp only [found, decoded, bind, Except.bind, Except.mapError]

private theorem readContext_eq :
    options.readContext inputs = .ok (Value.ofDatumEntries contextRef context) := by
  obtain ⟨octets, found, decoded⟩ := reads.context
  rw [readContext, if_neg reads.named, found]
  simp only [Except.mapError, bind, Except.bind, decoded]
  rfl

private theorem readArgs_eq (applied : options.function = true) :
    options.readArgs inputs = .ok (Value.ofDatumItems argsRef 0 args) := by
  rw [readArgs, reads.args applied]
  rfl

end Reading

/-- The bindings that the tree of a context sees. -/
def scopeOf (options : EvaluateOptions) (vars : Entries Value) : Scope :=
  if options.builtins then Registry.standard.scope vars else Scope.ofVars vars

section Preparing

variable (reads : options.Reads inputs node context args) {tree : Node}
  (decoded : Node.decode (.ofDatum sourceRef node) = .ok tree)
include reads decoded

theorem prepare_of_tree (plain : options.function = false) :
    options.prepare inputs =
      .ok (.tree tree, options.scopeOf (Value.ofDatumEntries contextRef context)) := by
  rw [prepare, readNode_eq reads, decoded, readContext_eq reads, plain]
  rfl

private theorem prepare_of_headless (applied : options.function = true) {fault : HeaderFault}
    (refused : Header.ofNode tree = .error fault) :
    options.prepare inputs = .error (.header fault) := by
  rw [prepare, readNode_eq reads, decoded, readContext_eq reads, applied]
  simp only [Except.mapError, bind, Except.bind, if_true, refused]

private theorem prepare_of_header (applied : options.function = true) {header : Header}
    (spelled : Header.ofNode tree = .ok header) :
    options.prepare inputs =
      .ok (.application header (Value.ofDatumItems argsRef 0 args),
        options.scopeOf (Value.ofDatumEntries contextRef context)) := by
  rw [prepare, readNode_eq reads, decoded, readContext_eq reads, applied]
  simp only [Except.mapError, bind, Except.bind, if_true, spelled, readArgs_eq reads applied]
  rfl

end Preparing

private theorem run_of_error {fault : EvaluateFault}
    (refused : options.prepare inputs = .error fault) :
    options.run inputs = ([], .error fault) := by
  rw [run, refused]

/-- What was prepared is run, and its result is printed. -/
theorem reported_of_prepared (compact : options.pretty = false) {work : Work} {scope : Scope}
    (prepared : options.prepare inputs = .ok (work, scope)) :
    Reported (evaluated ((work.run Host.plain.invoke scope).outcome firstOrigin)).1
      (options.run inputs).2 := by
  rcases ended : (work.run Host.plain.invoke scope).outcome firstOrigin with ⟨result, later⟩
  have direct : ((work.run Host.plain.invoke scope).run firstOrigin).1 = result :=
    congrArg Prod.fst ended
  simp only [run, prepared, direct]
  cases result with
  | error failure => exact .failed failure
  | ok value =>
    change Reported (.ok value) ((options.render value).mapError .unwritable)
    unfold render
    cases value with
    | undefined => exact .result rfl
    | null | bool | number | text | object | array | function =>
      cases written : Value.write _ with
      | error fault => exact .unwritable written
      | ok text =>
        simp only [Value.isUndefined, Bool.false_eq_true, if_false, compact]
        exact .result written

/-- The command reports how the request ends that has the same parts. -/
theorem reported_run (reads : options.Reads inputs node context args)
    (compact : options.pretty = false) (ref : Ref) :
    Reported (handle Host.plain.invoke Registry.standard
      (.object ref (options.requestFields node context args)) firstOrigin).1
      (options.run inputs).2 := by
  have read : ofValue (.object ref (options.requestFields node context args)) = _ :=
    ofFields_requestFields
  cases decoded : Node.decode (.ofDatum sourceRef node) with
  | error fault =>
    rw [decoded] at read
    have refused : options.prepare inputs = .error (.node fault) := by
      rw [prepare, readNode_eq reads, decoded]
      rfl
    rw [handle_of_error _ _ _ read, run_of_error refused]
    exact .node fault
  | ok tree =>
    rw [decoded] at read
    cases applied : options.function with
    | false =>
      rw [applied] at read
      rw [handle_of_bare _ _ _ read rfl]
      exact reported_of_prepared compact (prepare_of_tree reads decoded applied)
    | true =>
      rw [applied] at read
      cases spelled : Header.ofNode tree with
      | error fault =>
        rw [handle_of_headless _ _ _ read rfl spelled,
          run_of_error (prepare_of_headless reads decoded applied spelled)]
        exact .header fault
      | ok header =>
        rw [handle_of_header _ _ _ read rfl spelled]
        exact reported_of_prepared compact (prepare_of_header reads decoded applied spelled)

end EvaluateOptions

private theorem words_evaluate (rest : List String) :
    words Command.root.flags ("eval" :: rest) = "eval" :: words Command.root.flags rest := by
  have dashless : "eval".startsWith "-" = false := by decide +kernel
  have alone : takesNext Command.root.flags "eval" = false := by decide +kernel
  rw [words.eq_def]
  simp [dashless, alone]

private theorem withoutWord_evaluate (rest : List String) :
    withoutWord Command.root.flags "eval" ("eval" :: rest) = rest := by
  have alone : takesNext Command.root.flags "eval" = false := by decide +kernel
  rw [withoutWord.eq_def]
  simp [alone]

private theorem locate_evaluate (rest : List String) :
    locate ("eval" :: rest) = .ok (.evaluate, rest) := by
  have found : Command.all.find? (fun command => command.name == "eval") = some .evaluate := by
    decide +kernel
  simp only [locate, words_evaluate, found, withoutWord_evaluate]

/-- The flags of a command line that evaluates a tree in a context. -/
def contextFlags (context : String) (builtins function : Bool) (args : String) : List String :=
  "--context" :: context :: ((if builtins then ["--builtins"] else []) ++
    if function then ["--function", "--args", args] else [])

/-- What those flags set. -/
def contextSettings (context : String) (builtins function : Bool) (args : String) :
    Entries Setting :=
  ("context", .text context) :: ((if builtins then [("builtins", .switch true)] else []) ++
    if function then [("function", .switch true), ("args", .text args)] else [])

section ContextFlags

variable (context : String) (builtins function : Bool) (args : String)

private theorem parseOn_contextFlags (arguments : List String) :
    parseOn Command.evaluate.allFlags ⟨[], arguments⟩
        (contextFlags context builtins function args) =
      .ok ⟨contextSettings context builtins function args, arguments⟩ := by
  cases builtins <;> cases function <;> rfl

private theorem parseFlags_contextFlags {source : Option String}
    (named : ∀ path, source = some path → isFlag path = false) :
    parseFlags Command.evaluate.allFlags
        (source.toList ++ contextFlags context builtins function args) =
      .ok ⟨contextSettings context builtins function args, source.toList⟩ := by
  cases source with
  | none => exact parseOn_contextFlags context builtins function args []
  | some path =>
    have plain := named path rfl
    have word : path ≠ "--" := by
      rintro rfl
      cases plain
    rw [parseFlags, Option.toList_some, List.singleton_append, parseOn.eq_def]
    simp only [if_neg word, plain]
    exact parseOn_contextFlags context builtins function args [path]

/-- No help and no version is asked for, and no level is given. -/
theorem contextSettings_others (arguments : List String) :
    let parsed : Parsed := ⟨contextSettings context builtins function args, arguments⟩
    parsed.isOn "help" = false ∧ parsed.isOn "version" = false ∧
      parsed.text "log-level" "" = "" := by
  cases builtins <;> cases function <;> exact ⟨rfl, rfl, rfl⟩

private theorem evaluateOptions_contextSettings (arguments : List String) :
    evaluateOptions ⟨contextSettings context builtins function args, arguments⟩ =
      ⟨arguments.head?.filter (· ≠ "-"), context, builtins, function,
        if function then args else "[]", false⟩ := by
  cases builtins <;> cases function <;> rfl

/-- A command line of the evaluation asks for what its flags set. -/
theorem parse_contextFlags {setting : String → String} (quiet : setting "LOG_LEVEL" = "")
    {source : Option String}
    (named : ∀ path, source = some path → isFlag path = false ∧ path ≠ "-") :
    parse setting ("eval" :: (source.toList ++ contextFlags context builtins function args)) =
      .ok (.evaluate ⟨source, context, builtins, function, if function then args else "[]", false⟩
        1) := by
  have flags := parseFlags_contextFlags context builtins function args
    fun path same => (named path same).1
  obtain ⟨help, version, level⟩ :=
    contextSettings_others context builtins function args source.toList
  have asked := evaluateOptions_contextSettings context builtins function args source.toList
  have kept : source.toList.head?.filter (· ≠ "-") = source := by
    cases source with
    | none => rfl
    | some path => simp [(named path rfl).2]
  have few : ¬ 1 < source.toList.length := by cases source <;> simp
  rw [kept] at asked
  simp only [parse, locate_evaluate, flags, help, version, asked, few, readLevel, level, quiet,
    bind, Except.bind, Bool.false_eq_true, if_false]
  rfl

end ContextFlags

section Outcome

variable {setting : String → String} {arguments : List String} {options : EvaluateOptions}
  {level : Level} (asked : parse setting arguments = .ok (.evaluate options level))
  {inputs : Inputs}
include asked

private theorem run_of_printed {output : String} (printed : (options.run inputs).2 = .ok output) :
    (run setting inputs arguments).output = output ∧
      (run setting inputs arguments).fault = none := by
  simp only [run, asked, printed, and_self]

private theorem run_of_failed {fault : EvaluateFault}
    (failed : (options.run inputs).2 = .error fault) :
    (run setting inputs arguments).output = "" ∧
      (run setting inputs arguments).fault = some (.evaluate fault) := by
  simp only [run, asked, failed, and_self]

end Outcome

/-- A tree that returns its argument when it is applied. -/
def identityTree : Datum :=
  .record [("type", .text "ArrowFunctionExpression"),
    ("params", .list [.record [("type", .text "Identifier"), ("name", .text "x")]]),
    ("body", .record [("type", .text "Identifier"), ("name", .text "x")])]

/-- The document of that tree on the standard input, and a file with a context. -/
def identityInputs : Inputs where
  stdin := Utf8.encode (Value.ofDatum (Ref.ofOrigin 1) identityTree).jsonChars
  file path := if path = "context.json" then .ok (Utf8.encode "\x7b\"y\":null\x7d".toList)
    else .error (.missing path)

def identityOptions : EvaluateOptions := ⟨none, "context.json", true, true, "[true]", false⟩

private theorem decodeDocument_identityTree (yaml : Yaml.Reader) :
    decodeDocument identityInputs.stdin yaml = .ok identityTree := by
  refine Value.decodeDocument_written _ (by decide) ?_ yaml
  simp [identityTree, Value.ofDatum, Value.ofDatumEntries, Value.ofDatumItems, Value.KeysDiffer,
    Value.EntryKeysDiffer, Value.AllKeysDiffer, Entries.keys]

private theorem identityOptions_reads :
    identityOptions.Reads identityInputs identityTree [("y", .null)] [.bool true] where
  node := ⟨identityInputs.stdin, rfl, decodeDocument_identityTree _⟩
  named := by decide
  context := ⟨Utf8.encode "\x7b\"y\":null\x7d".toList, rfl, rfl⟩
  args _ := rfl

/-- Lists inside of one another, around an empty one. -/
def nestedDatum : Nat → Datum
  | 0 => .list []
  | n + 1 => .list [nestedDatum n]

/-- The node of such lists on one line. -/
def nestedNode : Nat → Yaml.Node
  | 0 => .sequence 1 []
  | n + 1 => .sequence 1 [nestedNode n]

private theorem toDatum_nestedNode (n : Nat) : (nestedNode n).toDatum = .ok (nestedDatum n) := by
  induction n with
  | zero => rfl
  | succ n ih =>
    rw [nestedNode, Yaml.Node.toDatum, Yaml.toData, ih]
    rfl

private theorem depth_nestedDatum (n : Nat) (ref : Ref) :
    (Value.ofDatum ref (nestedDatum n)).depth = n + 1 := by
  induction n generalizing ref with
  | zero => rfl
  | succ n ih =>
    rw [nestedDatum, Value.ofDatum, Value.depth, Value.ofDatumItems, Value.itemDepth, ih]
    rfl

/-- Items of block sequences inside of one another on one line, around some text. -/
def dashes : Nat → List Char → List Char
  | 0, text => text
  | n + 1, text => ' ' :: '-' :: dashes n text

/-- Block sequences as deep as they may be, around three sequences in brackets. -/
def deepText : String := String.ofList (dashes 10000 " [ [ [ ] ] ]".toList)

/-- A reader of YAML that knows one text. -/
def readerOf (text : List Char) (root : Yaml.Node) : Yaml.Reader := fun octets =>
  if octets = Utf8.encode text then some (some root) else none

private theorem readerOf_encode (text : List Char) (root : Yaml.Node) :
    readerOf text root (Utf8.encode text) = some (some root) :=
  if_pos rfl

/-- A context without bindings, and the text as the YAML library reads it. -/
def deepInputs : Inputs where
  stdin := identityInputs.stdin
  file path := if path = "context.json" then .ok (Utf8.encode "\x7b\x7d".toList)
    else .error (.missing path)
  yaml := readerOf deepText.toList (nestedNode 10002)

def deepOptions : EvaluateOptions := ⟨none, "context.json", false, true, deepText, false⟩

private theorem parse?_dash (rest : List Char) :
    Json.parse? (' ' :: '-' :: ' ' :: rest) = none := by
  rfl

private theorem decodeDocument_of_yaml {octets : List UInt8} {yaml : Yaml.Reader} {root : Yaml.Node}
    {datum : Datum} (other : Json.parse? (Utf8.decodeLossy octets) = none)
    (read : yaml octets = some (some root)) (meant : root.toDatum = .ok datum) :
    decodeDocument octets yaml = .ok datum := by
  rw [decodeDocument, other, read]
  exact meant

private theorem decodeDocument_deepText :
    decodeDocument (Utf8.encode deepText.toList) deepInputs.yaml = .ok (nestedDatum 10002) := by
  have reader : deepInputs.yaml = readerOf deepText.toList (nestedNode 10002) := rfl
  rw [reader]
  refine decodeDocument_of_yaml ?_ (readerOf_encode deepText.toList (nestedNode 10002))
    (toDatum_nestedNode 10002)
  rw [Utf8.decodeLossy_encode, deepText, String.toList_ofList]
  exact parse?_dash _

private theorem nestedDatum_succ (n : Nat) : nestedDatum (n + 1) = .list [nestedDatum n] := rfl

private theorem deepOptions_reads :
    deepOptions.Reads deepInputs identityTree [] [nestedDatum 10001] where
  node := ⟨identityInputs.stdin, rfl, decodeDocument_identityTree _⟩
  named := by decide
  context := ⟨Utf8.encode "\x7b\x7d".toList, rfl, rfl⟩
  args _ := by
    rw [← nestedDatum_succ]
    exact decodeDocument_deepText

/-- Applied to an argument, the tree returns it. -/
theorem handle_identity (argument : Datum) :
    (handle Host.plain.invoke Registry.standard (.object (Ref.ofOrigin 0)
      (deepOptions.requestFields identityTree [] [argument])) EvaluateOptions.firstOrigin).1 =
      .ok (.ofDatum (EvaluateOptions.argsRef.child (.index 0)) argument) := by
  rfl

/-- A list around lists that are too deep is not written. -/
theorem not_written {n : Nat} (deep : Json.maxDepth < n) (ref : Ref) {text : List Char} :
    (Value.ofDatum ref (nestedDatum n)).write ≠ .ok text := by
  intro written
  obtain ⟨less, rfl⟩ := Nat.exists_eq_succ_of_ne_zero (Nat.ne_zero_of_lt deep)
  rw [Nat.succ_eq_add_one, nestedDatum_succ, Value.ofDatum] at written
  have shallow := Value.shallow_of_write written
  rw [Value.ofDatumItems, Value.itemDepth, depth_nestedDatum] at shallow
  omega

/-- The identity returns a list that is too deep, and the command prints nothing of it. -/
theorem nothing_printed {n : Nat} {inputs : Inputs} {setting : String → String}
    {arguments : List String} (deep : Json.maxDepth < n)
    (asked : parse setting arguments = .ok (.evaluate deepOptions 1))
    (reads : deepOptions.Reads inputs identityTree [] [nestedDatum n]) :
    (run setting inputs arguments).output = "" ∧
      ∃ fault, (run setting inputs arguments).fault = some (.evaluate (.unwritable fault)) := by
  have reported := EvaluateOptions.reported_run reads rfl (Ref.ofOrigin 0)
  rw [handle_identity] at reported
  generalize shown : (deepOptions.run inputs).2 = result at reported
  cases reported with
  | result written => exact absurd written (not_written deep _)
  | @unwritable _ fault refused =>
    obtain ⟨output, exit⟩ := run_of_failed asked shown
    exact ⟨output, fault, exit⟩

end ExprTree.CommandLine
