import ExprTree.Builtin.Call
import ExprTree.CommandLine.Evaluate
import ExprTree.Proofs.CommandRequests
import ExprTree.Proofs.TokenText

/-!
Laying out JSON text over lines. Whatever the indent of blanks, the laid out text has the tokens of
the text it is made of, so it parses as the same document, and all it adds are blanks outside of
quotes. This holds for every indent that `JSON.stringify` can be asked for, and for the results that
are printed.
-/
namespace ExprTree

namespace Json

section Layout

variable {indent : List Char} {depth : Nat} {opened : Bool}

/-- The depth of what comes next: one more if a container has just been opened. -/
def level (depth : Nat) (opened : Bool) : Nat :=
  if opened then depth + 1 else depth

/-- The line break that waits behind the start of a container. -/
def pending (indent : List Char) (depth : Nat) (opened : Bool) : List Char :=
  if opened then newline indent (depth + 1) else []

private theorem blank_newline (blank : Blank indent) (depth : Nat) :
    Blank (newline indent depth) := by
  intro c member
  rcases List.mem_cons.mp member with rfl | later
  · rfl
  · obtain ⟨copy, present, inside⟩ := List.mem_flatten.mp later
    rw [(List.mem_replicate.mp present).2] at inside
    exact blank c inside

private theorem blank_pending (blank : Blank indent) (depth : Nat) (opened : Bool) :
    Blank (pending indent depth opened) := by
  unfold pending
  split
  · exact blank_newline blank (depth + 1)
  · exact blank_nil

/-- In front of a word or a quote the line break that waits is made. -/
theorem layout_front {c : Char} (plain : IsWordChar c ∨ c = '"') (rest : List Char) :
    layout indent depth opened .outside (c :: rest) =
      pending indent depth opened ++
        c :: layout indent (level depth opened) false (Region.outside.next c) rest := by
  have other : ∀ mark ∈ [' ', '\t', '\n', '\r', '{', '}', '[', ']', ',', ':'], c ≠ mark := by
    rintro mark member rfl
    rcases plain with word | rfl
    · exact word (List.mem_append_left ['"'] member)
    · revert member
      decide
  simp only [List.forall_mem_cons, List.not_mem_nil, false_implies, implies_true, and_true] at other
  cases opened <;> simp [layout, pending, level, other]

private theorem layout_word {word : List Char} (plain : IsWord word) (rest : List Char) :
    layout indent depth false .outside (word ++ rest) =
      word ++ layout indent depth false .outside rest := by
  induction word with
  | nil => rfl
  | cons c later ih =>
    obtain ⟨here, others⟩ := List.forall_mem_cons.mp plain
    rw [List.cons_append, layout_front (.inl here), here.next]
    exact congrArg (c :: ·) (ih others)

/-- Between quotes the layout changes nothing. -/
theorem layout_within {region last : Region} {text : List Char} (within : Within region text last)
    (rest : List Char) :
    layout indent depth false region (text ++ rest) =
      text ++ layout indent depth false last rest := by
  induction within with
  | nil => rfl
  | cons inner _ ih =>
    rw [List.cons_append, layout, if_pos inner, ih]
    rfl

private theorem layout_start {c : Char} (mark : c = '{' ∨ c = '[') (rest : List Char) :
    layout indent depth opened .outside (c :: rest) =
      pending indent depth opened ++
        c :: layout indent (level depth opened) true .outside rest := by
  rcases mark with rfl | rfl <;> cases opened <;> simp [layout, pending, level]

private theorem layout_end_opened {c : Char} (mark : c = '}' ∨ c = ']') (rest : List Char) :
    layout indent depth true .outside (c :: rest) =
      c :: layout indent depth false .outside rest := by
  rcases mark with rfl | rfl <;> simp [layout]

private theorem layout_end {c : Char} (mark : c = '}' ∨ c = ']') (rest : List Char) :
    layout indent depth false .outside (c :: rest) =
      newline indent (depth - 1) ++ c :: layout indent (depth - 1) false .outside rest := by
  rcases mark with rfl | rfl <;> simp [layout]

private theorem layout_comma (rest : List Char) :
    layout indent depth opened .outside (',' :: rest) =
      pending indent depth opened ++ ',' :: (newline indent (level depth opened) ++
        layout indent (level depth opened) false .outside rest) := by
  cases opened <;> simp [layout, pending, level]

private theorem layout_colon (rest : List Char) :
    layout indent depth opened .outside (':' :: rest) =
      pending indent depth opened ++ ':' :: ' ' ::
        layout indent (level depth opened) false .outside rest := by
  cases opened <;> simp [layout, pending, level]

/-- How a mark is laid out: blanks before it, and blanks behind it. -/
theorem layout_mark (blank : Blank indent) {c : Char} (mark : c ∈ ['{', '[', '}', ']', ',', ':'])
    (depth : Nat) (opened : Bool) :
    ∃ before after inner waiting, Blank before ∧ Blank after ∧
      ∀ rest, layout indent depth opened .outside (c :: rest) =
        before ++ c :: (after ++ layout indent inner waiting .outside rest) := by
  have held := blank_pending blank depth opened
  have kinds : (c = '{' ∨ c = '[') ∨ (c = '}' ∨ c = ']') ∨ c = ',' ∨ c = ':' := by
    simpa [or_assoc] using mark
  rcases kinds with start | close | rfl | rfl
  · exact ⟨_, [], _, true, held, blank_nil, layout_start start⟩
  · cases opened with
    | true => exact ⟨[], [], _, false, blank_nil, blank_nil, layout_end_opened close⟩
    | false => exact ⟨_, [], _, false, blank_newline blank _, blank_nil, layout_end close⟩
  · exact ⟨_, _, _, false, held, blank_newline blank _, layout_comma⟩
  · exact ⟨_, [' '], _, false, held, by simp [Blank, isBlank], layout_colon⟩

/-- The layout of a token: blanks before it, the token as it is, and blanks behind it. -/
theorem layout_token (blank : Blank indent) {token : Token} {following : List Token}
    (fits : token.Fits following) (depth : Nat) (opened : Bool) :
    ∃ before after inner waiting, Blank before ∧ Blank after ∧
      ∀ rest, layout indent depth opened .outside (token.chars ++ rest) =
        before ++ (token.chars ++ (after ++ layout indent inner waiting .outside rest)) := by
  have held := blank_pending blank depth opened
  rcases fits.chars_cases with ⟨c, mark, same⟩ | ⟨c, word, same, plain⟩ | ⟨body, same, within⟩
  · rw [same]
    exact layout_mark blank mark depth opened
  · obtain ⟨here, later⟩ := List.forall_mem_cons.mp plain
    refine ⟨_, [], level depth opened, false, held, blank_nil, fun rest => ?_⟩
    rw [same, List.cons_append, layout_front (.inl here), here.next, layout_word later]
    rfl
  · refine ⟨_, [], level depth opened, false, held, blank_nil, fun rest => ?_⟩
    rw [same, List.cons_append, layout_front (.inr rfl)]
    exact congrArg (fun text => pending indent depth opened ++ '"' :: text)
      (layout_within within rest)

/-- Laid out text has the tokens of the text it is made of. -/
theorem spaced_layout (blank : Blank indent) {tail : List Char} (blankTail : Blank tail)
    {tokens : List Token} (legible : Legible tokens) (depth : Nat) (opened : Bool) :
    Spaced (layout indent depth opened .outside (spelled tokens) ++ tail) tokens := by
  induction tokens generalizing depth opened with
  | nil => exact .nil blankTail
  | cons token rest ih =>
    obtain ⟨fits, later⟩ := legible
    obtain ⟨before, after, inner, waiting, blankBefore, blankAfter, laid⟩ :=
      layout_token blank fits depth opened
    have others := (ih later inner waiting).blanks blankAfter
    rw [spelled_cons, laid, List.append_assoc, List.append_assoc, List.append_assoc]
    exact .cons blankBefore token others

end Layout

end Json

namespace Value

open Json

variable {v : Value}

private theorem toList_json (v : Value) : v.json.toList = spelled v.written.tokens :=
  String.toList_ofList.trans v.jsonChars_eq_spelled

/-- The text of a value that is not too deep is laid out. -/
theorem layOut_jsonChars (shallow : v.depth ≤ maxDepth) (indent : String) :
    layOut indent v.jsonChars = .ok (Json.indented indent v.json) := by
  rw [layOut, accept_jsonChars shallow]
  rfl

private theorem spaced_json {tail : List Char} (blankTail : Blank tail) (v : Value) :
    Spaced (v.json.toList ++ tail) v.written.tokens := by
  rw [toList_json]
  exact spaced_spelled blankTail _

private theorem spaced_indented {indent : String} (blank : Blank indent.toList) {tail : List Char}
    (blankTail : Blank tail) (v : Value) :
    Spaced ((Json.indented indent v.json).toList ++ tail) v.written.tokens := by
  rw [Json.indented, String.toList_ofList, toList_json]
  exact spaced_layout blank blankTail v.legible_tokens 0 false

private theorem decodeDocument_of_spaced (shallow : v.depth ≤ Json.maxDepth) {text : List Char}
    (spaced : Spaced text v.written.tokens) :
    decodeDocument (Utf8.encode text) = .ok v.written.toDatum := by
  rw [decodeDocument, Utf8.decodeLossy_encode, parse?_of_spaced shallow spaced]

end Value

namespace Builtin

open Json

variable {v space : Value}

/-- Space arguments that ask for blanks: numbers of any kind, and texts of nothing else. -/
def AsksForBlanks : Value → Prop
  | .number _ => True
  | .text s => Blank s.toList
  | _ => False

private theorem blank_indentOf (asks : AsksForBlanks space) : Blank (indentOf space).toList := by
  cases space with
  | number x =>
    rw [indentOf]
    split
    · exact blank_nil
    · intro c member
      rw [String.toList_ofList] at member
      rw [(List.mem_replicate.mp member).2]
      rfl
  | text s =>
    intro c member
    rw [indentOf, String.toList_ofList] at member
    exact asks c (List.mem_of_mem_take member)
  | _ => cases asks

private theorem stringify_spaced (shallow : v.depth ≤ Json.maxDepth) (kept : v.isSkipped = false)
    (asks : AsksForBlanks space) :
    ∃ laid, stringify v space = .ok (.text laid) ∧ Spaced laid.toList v.written.tokens := by
  have written := v.write_eq (Nat.le_succ_of_le shallow)
  have laidOut := v.layOut_jsonChars shallow (indentOf space)
  simp only [stringify, kept, Bool.false_eq_true, if_false, written, bind, Except.bind, laidOut]
  split
  · have spaced := v.spaced_json blank_nil
    rw [List.append_nil] at spaced
    exact ⟨_, rfl, spaced⟩
  · have spaced := v.spaced_indented (blank_indentOf asks) blank_nil
    rw [List.append_nil] at spaced
    exact ⟨_, rfl, spaced⟩

private theorem jsonParse_of_spaced (shallow : v.depth ≤ Json.maxDepth) {text : String}
    (spaced : Spaced text.toList v.written.tokens) (origin : Nat) :
    jsonParse.call origin [.text text] =
      .ok (Value.ofDatum (Ref.ofOrigin origin) v.written.toDatum) := by
  have parsed := Value.parse?_of_spaced shallow spaced
  simp [call, argument, Value.toText, parsed]

end Builtin

namespace CommandLine.EvaluateOptions

open Json

variable {options : EvaluateOptions} {inputs : Inputs} {work : Work} {scope : Scope} {v : Value}

/-- Whether a result is laid out changes nothing but how it is shown. -/
theorem run_of_result (prepared : options.prepare inputs = .ok (work, scope))
    (result : ((work.run Host.plain.invoke scope).run firstOrigin).1 = .ok v) (pretty : Bool) :
    ({ options with pretty }.run inputs).2 =
      ({ options with pretty }.render v).mapError .unwritable := by
  have same : { options with pretty }.prepare inputs = .ok (work, scope) := prepared
  simp only [run, same, result]

/-- A result that is not too deep is shown as its tokens with blanks between them. -/
theorem render_spaced (shallow : v.depth ≤ Json.maxDepth) (defined : v.isUndefined = false)
    (options : EvaluateOptions) :
    ∃ line, options.render v = .ok line ∧ Spaced line.toList v.written.tokens ∧
      (options.pretty = false → line = v.json ++ "\n") := by
  have tail : Blank "\n".toList := by decide
  have written := v.write_eq (Nat.le_succ_of_le shallow)
  have laidOut := v.layOut_jsonChars shallow "  "
  simp only [render, defined, Bool.false_eq_true, if_false, written, bind, Except.bind]
  cases options.pretty with
  | true =>
    have blank : Blank "  ".toList := by decide
    have spaced := v.spaced_indented blank tail
    rw [← String.toList_append] at spaced
    exact ⟨_, by simp only [if_true, laidOut], spaced, nofun⟩
  | false =>
    have spaced := v.spaced_json tail
    rw [← String.toList_append] at spaced
    exact ⟨_, rfl, spaced, fun _ => rfl⟩

end CommandLine.EvaluateOptions

open CommandLine (EvaluateOptions)

/-- Indentation never changes what a text means. Whatever number or text of blanks is given for
space, `JSON.stringify` succeeds with a text that parses as the same value as the text without
space does, and without the blanks outside of quotes it is that text. The same holds of the results
that are printed with and without a layout. -/
theorem indentation_keeps_meaning (v : Value) (shallow : v.depth ≤ 10000) :
    (v ≠ .undefined → (∀ callable, v ≠ .function callable) →
      ∀ (origin later : Nat) (replacer space : Value) (more : List Value),
        Builtin.AsksForBlanks space →
        ∃ laid,
          Builtin.jsonStringify.call origin (v :: replacer :: space :: more) = .ok (.text laid) ∧
          Builtin.jsonStringify.call origin [v] = .ok (.text v.json) ∧
          Builtin.jsonParse.call later [.text laid] =
            .ok (Value.ofDatum (Ref.ofOrigin later) v.written.toDatum) ∧
          Builtin.jsonParse.call later [.text v.json] =
            .ok (Value.ofDatum (Ref.ofOrigin later) v.written.toDatum) ∧
          Json.strip .outside laid.toList = v.json.toList) ∧
    ∀ (options : EvaluateOptions) (inputs : CommandLine.Inputs) (work : CommandLine.Work)
      (scope : Scope), options.prepare inputs = .ok (work, scope) →
      ((work.run Host.plain.invoke scope).run EvaluateOptions.firstOrigin).1 = .ok v →
      ∃ plain laid,
        ({ options with pretty := false }.run inputs).2 = .ok plain ∧
        ({ options with pretty := true }.run inputs).2 = .ok laid ∧
        (v = .undefined → plain = "undefined\n" ∧ laid = "undefined\n") ∧
        (v ≠ .undefined →
          plain = v.json ++ "\n" ∧
          decodeDocument (Utf8.encode laid.toList) = .ok v.written.toDatum ∧
          decodeDocument (Utf8.encode plain.toList) = .ok v.written.toDatum ∧
          Json.strip .outside laid.toList = v.json.toList) := by
  have stripped : ∀ {text : List Char}, Json.Spaced text v.written.tokens →
      Json.strip .outside text = v.json.toList := fun spaced =>
    (Value.strip_of_spaced spaced).trans String.toList_ofList.symm
  constructor
  · intro defined uncallable origin later replacer space more asks
    have kept : v.isSkipped = false := by
      cases v with
      | undefined => exact absurd rfl defined
      | function callable => exact absurd rfl (uncallable callable)
      | _ => rfl
    obtain ⟨laid, written, spaced⟩ := Builtin.stringify_spaced shallow kept asks
    have plain := v.spaced_json Json.blank_nil
    rw [List.append_nil] at plain
    exact ⟨laid, written, Builtin.call_jsonStringify (Nat.le_succ_of_le shallow) kept origin,
      Builtin.jsonParse_of_spaced shallow spaced later,
      Builtin.jsonParse_of_spaced shallow plain later, stripped spaced⟩
  · intro options inputs work scope prepared result
    have run := EvaluateOptions.run_of_result prepared result
    by_cases undefined : v = .undefined
    · subst undefined
      exact ⟨_, _, run false, run true, fun _ => ⟨rfl, rfl⟩, fun defined => absurd rfl defined⟩
    · have kept : v.isUndefined = false := by
        cases v with
        | undefined => exact absurd rfl undefined
        | _ => rfl
      obtain ⟨plain, shown, spaced, compact⟩ :=
        EvaluateOptions.render_spaced shallow kept { options with pretty := false }
      obtain ⟨laid, laidOut, spacedOut, _⟩ :=
        EvaluateOptions.render_spaced shallow kept { options with pretty := true }
      have printed := run false
      have printedOut := run true
      rw [shown] at printed
      rw [laidOut] at printedOut
      exact ⟨plain, laid, printed, printedOut, fun none => absurd none undefined, fun _ =>
        ⟨compact rfl, Value.decodeDocument_of_spaced shallow spacedOut,
          Value.decodeDocument_of_spaced shallow spaced, stripped spacedOut⟩⟩

/-- Data with the marks of JSON in texts and keys, and with containers that hold nothing. -/
def bracketedDatum : Datum :=
  .record [("]\x7b\"", .list [.text "],\n\"\\[\": \x7b", .record [], .list []]), ("", .null)]

def bracketedValue : Value :=
  .ofDatum (EvaluateOptions.contextRef.child (.key "v")) bracketedDatum

/-- A tree that names a value. -/
def namingTree : Datum :=
  .record [("type", .text "Identifier"), ("name", .text "v")]

/-- The document of that tree on the standard input, and a file that binds the name to the data. -/
def bracketedInputs : CommandLine.Inputs where
  stdin := Utf8.encode (Value.ofDatum (Ref.ofOrigin 1) namingTree).jsonChars
  file _ :=
    .ok (Utf8.encode (Value.ofDatum (Ref.ofOrigin 2) (.record [("v", bracketedDatum)])).jsonChars)

def bracketedOptions : EvaluateOptions := ⟨none, "context.json", false, false, "[]", false⟩

private theorem bracketedOptions_reads :
    bracketedOptions.Reads bracketedInputs namingTree [("v", bracketedDatum)] [] where
  node := by
    refine ⟨bracketedInputs.stdin, rfl, Value.decodeDocument_written _ (by decide) ?_⟩
    simp [namingTree, Value.ofDatum, Value.ofDatumEntries, Value.KeysDiffer, Value.EntryKeysDiffer,
      Entries.keys]
  named := by decide
  context := by
    refine ⟨_, rfl, Value.decodeDocument_written _ (by decide) ?_⟩
    simp [bracketedDatum, Value.ofDatum, Value.ofDatumEntries, Value.ofDatumItems, Value.KeysDiffer,
      Value.EntryKeysDiffer, Value.AllKeysDiffer, Entries.keys]
  args := nofun

theorem indentation_keeps_meaning_brackets :
    let work : CommandLine.Work := .tree (.identifier "v")
    let scope := Scope.ofVars [("v", bracketedValue)]
    bracketedValue.depth ≤ 10000 ∧ Builtin.AsksForBlanks (.number (.infinite false)) ∧
      Builtin.AsksForBlanks (.text " \t") ∧
      bracketedOptions.prepare bracketedInputs = .ok (work, scope) ∧
      ((work.run Host.plain.invoke scope).run EvaluateOptions.firstOrigin).1 = .ok bracketedValue ∧
      (∀ space ∈ [.number (.infinite false), .text " \t"], ∃ laid,
        Builtin.jsonStringify.call 4 [bracketedValue, .undefined, space] = .ok (.text laid) ∧
        Builtin.jsonParse.call 5 [.text laid] =
          Builtin.jsonParse.call 5 [.text bracketedValue.json]) ∧
      ∃ plain laid,
        ({ bracketedOptions with pretty := false }.run bracketedInputs).2 = .ok plain ∧
        ({ bracketedOptions with pretty := true }.run bracketedInputs).2 = .ok laid ∧
        decodeDocument (Utf8.encode laid.toList) = decodeDocument (Utf8.encode plain.toList) := by
  intro work scope
  have shallow : bracketedValue.depth ≤ 10000 := by decide
  have defined : bracketedValue ≠ .undefined := by
    simp [bracketedValue, bracketedDatum, Value.ofDatum]
  have uncallable : ∀ callable, bracketedValue ≠ .function callable := by
    simp [bracketedValue, bracketedDatum, Value.ofDatum]
  have number : Builtin.AsksForBlanks (.number (.infinite false)) := trivial
  have text : Builtin.AsksForBlanks (.text " \t") := by
    simp [Builtin.AsksForBlanks, Json.Blank, Json.isBlank]
  have prepared : bracketedOptions.prepare bracketedInputs = .ok (work, scope) :=
    EvaluateOptions.prepare_of_tree bracketedOptions_reads rfl rfl
  have result : ((work.run Host.plain.invoke scope).run EvaluateOptions.firstOrigin).1 =
      .ok bracketedValue := rfl
  obtain ⟨stringified, printed⟩ := indentation_keeps_meaning bracketedValue shallow
  refine ⟨shallow, number, text, prepared, result, ?_, ?_⟩
  · intro space member
    have asks : Builtin.AsksForBlanks space := by
      simp only [List.mem_cons, List.not_mem_nil, or_false] at member
      rcases member with rfl | rfl
      · exact number
      · exact text
    obtain ⟨laid, written, _, parsed, plain, _⟩ :=
      stringified defined uncallable 4 5 .undefined space [] asks
    exact ⟨laid, written, parsed.trans plain.symm⟩
  · obtain ⟨plain, laid, compact, pretty, _, same⟩ :=
      printed bracketedOptions bracketedInputs work scope prepared result
    obtain ⟨_, decoded, expected, _⟩ := same defined
    exact ⟨plain, laid, compact, pretty, decoded.trans expected.symm⟩

end ExprTree
