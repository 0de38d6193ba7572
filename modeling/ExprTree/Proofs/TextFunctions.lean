import ExprTree.Builtin.Call
import ExprTree.Proofs.Base64
import ExprTree.Proofs.Components

/-!
The standard functions that write and read components of addresses and base64, for all arguments:
which texts each of them takes, what it gives for them and how it refuses the others, and that what
was written reads back.
-/
namespace ExprTree

open Text Base64

/-- The answer of a function that gives a text or refuses its argument. -/
def answered (failure : Failure) : Option String → Except Failure Value
  | some text => .ok (.text text)
  | none => .error failure

section Answers

variable {failure : Failure} {read : Option String}

private theorem answered_eq_ok_iff {text : String} :
    answered failure read = .ok (.text text) ↔ read = some text := by
  cases read <;> simp [answered]

private theorem exists_answered_iff :
    (∃ out, answered failure read = .ok out) ↔ read.isSome = true := by
  cases read <;> simp [answered]

private theorem answered_eq_error_iff :
    answered failure read = .error failure ↔ ¬ read.isSome = true := by
  cases read <;> simp [answered]

variable (origin : Nat) (args : List Value)

private theorem decodeComponent_call : Builtin.decodeComponent.call origin args =
    answered .malformedComponent (percentDecode? (argument args 0).toText) :=
  rfl

private theorem toBase64_call :
    Builtin.toBase64.call origin args = answered .outsideLatin (ofText? (argument args 0).toText) :=
  rfl

private theorem ofBase64_call :
    Builtin.ofBase64.call origin args =
      answered .malformedBase64 (toText? (argument args 0).toText) :=
  rfl

end Answers

/-- What is written of a component: letters that stand for themselves and escapes in upper case,
where exactly the texts of such letters are left as they are. It reads back. -/
theorem component_reads_back (origin : Nat) (args : List Value) :
    let text := (argument args 0).toText
    ∃ encoded, Builtin.encodeComponent.call origin args = .ok (.text encoded) ∧
      IsComponent encoded.toList ∧
      (encoded = text ↔ ∀ c ∈ text.toList, c ∈ unreserved) ∧
      ∀ later more, Builtin.decodeComponent.call later (.text encoded :: more) =
        .ok (.text text) := by
  intro text
  refine ⟨percentEncode text, rfl, ?_, ?_, ?_⟩
  · rw [percentEncode, String.toList_ofList]
    exact isComponent_flatMap _
  · rw [← String.toList_inj, toList_percentEncode]
    exact flatMap_percentChar_eq_iff
  · intro later more
    rw [decodeComponent_call, answered_eq_ok_iff]
    exact percentDecode?_percentEncode text

/-- A text that looks like an escape itself. -/
theorem component_reads_back_marked :
    Builtin.encodeComponent.call 0 [.text "%41\u00e9"] = .ok (.text "%2541%C3%A9") ∧
      Builtin.decodeComponent.call 1 [.text "%2541%C3%A9"] = .ok (.text "%41\u00e9") := by
  have written : Builtin.encodeComponent.call 0 [.text "%41\u00e9"] =
      .ok (.text "%2541%C3%A9") := rfl
  obtain ⟨encoded, called, -, -, back⟩ := component_reads_back 0 [.text "%41\u00e9"]
  cases written.symm.trans called
  exact ⟨written, back 1 []⟩

/-- What is read of a component. Each maximal run of escapes is replaced by the characters that it
spells on its own, and everything else is kept. A text with a percent sign that starts no escape, or
with a run that is not UTF-8 by itself, is refused. -/
theorem component_decodes_run_by_run (origin : Nat) (args : List Value) :
    let text := (argument args 0).toText.toList
    let result := Builtin.decodeComponent.call origin args
    (∀ decoded : String, result = .ok (.text decoded) ↔ RunsReplaced text decoded.toList) ∧
      ((∃ out, result = .ok out) ↔ WellEscaped text) ∧
      (result = .error .malformedComponent ↔ ¬ WellEscaped text) ∧
      Failure.malformedComponent.message = "URIError: URI malformed" := by
  intro text result
  have called : result = answered .malformedComponent _ := decodeComponent_call origin args
  have accepted := isSome_percentDecode?_iff (argument args 0).toText
  refine ⟨fun decoded => ?_, ?_, ?_, rfl⟩
  · rw [called, answered_eq_ok_iff, percentDecode?_eq_some_iff]
  · rw [called, exists_answered_iff, accepted]
  · rw [called, answered_eq_error_iff, accepted]

/-- The last octet of `©` does not complete the character that the escape before it begins. -/
theorem component_decodes_run_by_run_begun :
    ¬ WellEscaped "%C3\u00a9".toList ∧
      Builtin.decodeComponent.call 0 [.text "%C3\u00a9"] = .error .malformedComponent := by
  obtain ⟨-, -, refused, -⟩ := component_decodes_run_by_run 0 [.text "%C3\u00a9"]
  have called : Builtin.decodeComponent.call 0 [.text "%C3\u00a9"] =
      .error .malformedComponent := rfl
  exact ⟨refused.mp called, called⟩

/-- What is written in base64: exactly the texts of octets, as letters with the padding that
completes them. The text reads back, also with blanks put in and the padding left out. -/
theorem base64_reads_back (origin : Nat) (args : List Value) :
    let text := (argument args 0).toText
    let result := Builtin.toBase64.call origin args
    ((∃ out, result = .ok out) ↔ ∀ c ∈ text.toList, c.toNat ≤ 0xFF) ∧
      ∀ out, result = .ok out →
        (∀ later, Builtin.ofBase64.call later [out] = .ok (.text text)) ∧
        ∃ letters count, out = .text (String.ofList (letters ++ padding count)) ∧
          (∀ c ∈ letters, c ∈ alphabet) ∧ Completes letters count ∧
          ∀ spread : String,
            Spaced (letters ++ padding count) spread.toList ∨ Spaced letters spread.toList →
            ∀ later more,
              Builtin.ofBase64.call later (.text spread :: more) = .ok (.text text) := by
  intro text result
  have called : result = answered .outsideLatin (ofText? text) := toBase64_call origin args
  rw [called]
  constructor
  · rw [exists_answered_iff, isSome_ofText?_iff]
  · intro out written
    cases encoded : ofText? text with
    | none =>
      rw [encoded] at written
      cases written
    | some base =>
      rw [encoded] at written
      cases written
      obtain ⟨letters, count, rfl, all, complete, reads⟩ := exists_of_ofText? encoded
      have back : ∀ (number : Nat) (spread : String),
          Spaced (letters ++ padding number) spread.toList → ∀ later more,
            Builtin.ofBase64.call later (.text spread :: more) = .ok (.text text) := by
        intro number spread spaced later more
        rw [ofBase64_call, answered_eq_ok_iff]
        exact reads number spread spaced
      refine ⟨fun later => ?_, letters, count, rfl, all, complete, ?_⟩
      · refine back count _ ?_ later []
        rw [String.toList_ofList]
        exact .refl _
      · rintro spread (padded | bare)
        · exact back count spread padded
        · refine back 0 spread ?_
          rwa [padding, List.replicate_zero, List.append_nil]

theorem base64_reads_back_bare :
    Builtin.toBase64.call 0 [.text "\u00ff\u0000"] = .ok (.text "/wA=") ∧
      Spaced ['/', 'w', 'A'] "/\nw A".toList ∧
      Builtin.ofBase64.call 1 [.text "/\nw A"] = .ok (.text "\u00ff\u0000") := by
  have written : Builtin.toBase64.call 0 [.text "\u00ff\u0000"] = .ok (.text "/wA=") := rfl
  have spaced : Spaced ['/', 'w', 'A'] "/\nw A".toList :=
    .keep (.blank (by decide) (.keep (.blank (by decide) (.keep .nil))))
  obtain ⟨-, reads⟩ := base64_reads_back 0 [.text "\u00ff\u0000"]
  obtain ⟨-, letters, count, same, all, -, back⟩ := reads _ written
  have whole : ['/', 'w', 'A'] ++ padding 1 = letters ++ padding count := by
    have texts := congrArg Value.toText same
    simpa [Value.toText, padding] using congrArg String.toList texts
  obtain ⟨rfl, rfl⟩ := padding_unique (forall_mem_of_all (by decide)) all whole
  exact ⟨written, spaced, back _ (.inr spaced) 1 []⟩

/-- Which texts are read as base64, blanks apart: letters without padding or with the padding that
completes them, but also letters with any other padding, and it is on these alone that the reader is
not the forgiving one. -/
theorem base64_accepted_iff (origin : Nat) (args : List Value) :
    let kept := withoutBlanks (argument args 0).toText.toList
    let result := Builtin.ofBase64.call origin args
    ((∃ out, result = .ok out) ↔ Forgiving kept ∨ Mispadded kept) ∧
      (result = .error .malformedBase64 ↔ ¬ (Forgiving kept ∨ Mispadded kept)) ∧
      (((∃ out, result = .ok out) ↔ Forgiving kept) ↔ ¬ Mispadded kept) ∧
      Failure.malformedBase64.message =
        "InvalidCharacterError: atob: the string to be decoded is not correctly encoded" := by
  intro kept result
  have called : result = answered .malformedBase64 _ := ofBase64_call origin args
  have accepted : (∃ out, result = .ok out) ↔ Forgiving kept ∨ Mispadded kept := by
    rw [called, exists_answered_iff, isSome_toText?_iff]
  refine ⟨accepted, ?_, ?_, rfl⟩
  · rw [called, answered_eq_error_iff, isSome_toText?_iff]
  · rw [accepted]
    constructor
    · intro same wrong
      exact wrong.not_forgiving (same.mp (.inr wrong))
    · intro right
      exact or_iff_left right

/-- One sign of padding too many. -/
theorem base64_accepted_iff_surplus :
    Mispadded "Zm9v=".toList ∧ ¬ Forgiving "Zm9v=".toList ∧
      Builtin.ofBase64.call 0 [.text "Zm9v="] = .ok (.text "foo") := by
  have called : Builtin.ofBase64.call 0 [.text "Zm9v="] = .ok (.text "foo") := rfl
  have wrong : Mispadded "Zm9v=".toList :=
    ⟨"Zm9v".toList, 1, rfl, ⟨forall_mem_of_all (by decide), by decide⟩, by decide,
      by simp [Completes]⟩
  obtain ⟨-, -, differs, -⟩ := base64_accepted_iff 0 [.text "Zm9v="]
  refine ⟨wrong, ?_, called⟩
  intro forgiving
  exact differs.mp (iff_of_true ⟨_, called⟩ forgiving) wrong

end ExprTree
