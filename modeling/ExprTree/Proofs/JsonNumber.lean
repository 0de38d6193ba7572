import ExprTree.Json.Parse
import ExprTree.Proofs.NumberReaders

/-!
The numbers of JSON documents. Their grammar is stated on its own; whatever the reader of documents
takes for a number obeys it, and every text that does is a decimal literal. Main statement: the
reader of whole texts as floats agrees with the reader of decimal literals on them, but refuses
those beyond the finite range.
-/
namespace ExprTree

namespace Numeral

variable {text : List Char}

private theorem mem_of_mem_splitSign {c : Char} (member : c ∈ (splitSign text).2) : c ∈ text := by
  unfold splitSign at member
  split at member
  · exact List.mem_cons_of_mem _ member
  · exact List.mem_cons_of_mem _ member
  · exact member

theorem IsLiteralChar.toLower {c : Char} (literal : IsLiteralChar c) : IsLiteralChar c.toLower := by
  rcases literal.toNat with bounds | rfl | rfl
  · have low : ¬ ('A'.val ≤ c.val ∧ c.val ≤ 'Z'.val) := by
      rintro ⟨above, _⟩
      have : 65 ≤ c.toNat := above
      omega
    have same : c.toLower = c := dif_neg low
    rwa [same]
  · decide
  · decide

/-- On texts of such characters the reader of floats is the reader of decimal literals, without
what is beyond the finite range. -/
theorem float?_eq_decimal? (literal : ∀ c ∈ text, IsLiteralChar c) :
    float? text =
      match decimal? text with
      | some (.infinite _) => none
      | other => other := by
  have named : ∀ (chars : List Char) (name : List Char) (c : Char),
      (∀ c ∈ chars, IsLiteralChar c) → c ∈ name → ¬ IsLiteralChar c →
      chars.map Char.toLower ≠ name := by
    rintro chars name c known member other rfl
    obtain ⟨d, present, rfl⟩ := List.mem_map.mp member
    exact other (known d present).toLower
  have body : ∀ c ∈ (splitSign text).2, IsLiteralChar c := fun c member =>
    literal c (mem_of_mem_splitSign member)
  have joined : ∀ chars : List Char, (∀ c ∈ chars, IsLiteralChar c) →
      chars.filter (· ≠ '_') = chars := by
    intro chars known
    refine List.filter_eq_self.mpr fun c member => decide_eq_true ?_
    rintro rfl
    exact absurd (known '_' member) (by decide)
  have unseparated : text.contains '_' = false := by
    rw [List.contains_eq_mem, decide_eq_false_iff_not]
    exact fun member => absurd (literal '_' member) (by decide)
  unfold float?
  simp only
  rw [if_neg, if_neg (named text _ 'n' literal (by decide) (by decide)), unseparated,
    joined _ literal, joined _ body]
  · simp only [Bool.false_and, Bool.false_eq_true, if_false]
    congr 1
    split
    · rename_i mark c rest front
      have known : IsLiteralChar mark := body mark (by simp [front])
      rw [if_neg]
      rintro (rfl | rfl) <;> exact absurd known (by decide)
    · rfl
  · rintro (short | long)
    · exact named _ _ 'i' body (by decide) (by decide) short
    · exact named _ _ 'i' body (by decide) (by decide) long

end Numeral

namespace Json

open Numeral

/-- Nothing, or a point with digits behind it. -/
inductive IsFraction : List Char → Prop where
  | none : IsFraction []
  | digits {digits : List Char} (all : AllDigits digits) (some : digits ≠ []) :
      IsFraction ('.' :: digits)

/-- Nothing, or an exponent with an optional sign. -/
inductive IsPower : List Char → Prop where
  | none : IsPower []
  | digits {mark : Char} {sign digits : List Char} (marked : mark = 'e' ∨ mark = 'E')
      (signed : sign = [] ∨ sign = ['+'] ∨ sign = ['-']) (all : AllDigits digits)
      (some : digits ≠ []) : IsPower (mark :: (sign ++ digits))

/-- The spellings of numbers: an optional minus, digits, and the optional parts behind them. -/
inductive IsNumber : List Char → Prop where
  | intro {sign whole fraction power : List Char} (signed : sign = [] ∨ sign = ['-'])
      (all : AllDigits whole) (some : whole ≠ []) (fractional : IsFraction fraction)
      (powered : IsPower power) : IsNumber (sign ++ (whole ++ (fraction ++ power)))

section Scanning

variable {text taken rest : List Char}

private theorem scanDigits_allDigits (scanned : scanDigits text = some (taken, rest)) :
    AllDigits taken ∧ taken ≠ [] := by
  unfold scanDigits at scanned
  dsimp only at scanned
  split at scanned
  · cases scanned
  · rename_i present
    cases scanned
    refine ⟨List.all_eq_true.mp List.all_takeWhile, ?_⟩
    simpa using present

private theorem scanWhole_allDigits (scanned : scanWhole text = some (taken, rest)) :
    AllDigits taken ∧ taken ≠ [] := by
  unfold scanWhole at scanned
  split at scanned
  · cases scanned
    simp [AllDigits]
  · exact scanDigits_allDigits scanned

private theorem scanFraction_isFraction (scanned : scanFraction text = some (taken, rest)) :
    IsFraction taken := by
  unfold scanFraction at scanned
  split at scanned
  · obtain ⟨⟨digits, after⟩, found, same⟩ := Option.map_eq_some_iff.mp scanned
    cases same
    obtain ⟨all, some⟩ := scanDigits_allDigits found
    exact .digits all some
  · cases scanned
    exact .none

private theorem scanPower_isPower (scanned : scanPower text = some (taken, rest)) :
    IsPower taken := by
  unfold scanPower at scanned
  split at scanned
  · rename_i mark _
    split at scanned
    · rename_i marked
      -- The digits are read alike behind each sign.
      have signed : ∀ {sign body : List Char},
          sign = [] ∨ sign = ['+'] ∨ sign = ['-'] →
          ((scanDigits body).map fun read => (mark :: (sign ++ read.1), read.2)) =
            some (taken, rest) → IsPower taken := by
        intro sign body known read
        obtain ⟨⟨digits, after⟩, found, same⟩ := Option.map_eq_some_iff.mp read
        cases same
        obtain ⟨all, some⟩ := scanDigits_allDigits found
        exact .digits marked known all some
      split at scanned
      · exact signed (.inr (.inl rfl)) scanned
      · exact signed (.inr (.inr rfl)) scanned
      · exact signed (.inl rfl) scanned
    · cases scanned
      exact .none
  · cases scanned
    exact .none

theorem scanNumber_isNumber (scanned : scanNumber text = some (taken, rest)) : IsNumber taken := by
  unfold scanNumber at scanned
  obtain ⟨⟨whole, afterWhole⟩, foundWhole, scanned⟩ := Option.bind_eq_some_iff.mp scanned
  obtain ⟨⟨fraction, afterFraction⟩, foundFraction, scanned⟩ := Option.bind_eq_some_iff.mp scanned
  obtain ⟨⟨power, after⟩, foundPower, same⟩ := Option.bind_eq_some_iff.mp scanned
  cases same
  obtain ⟨all, some⟩ := scanWhole_allDigits foundWhole
  rw [List.append_assoc, List.append_assoc]
  refine .intro ?_ all some (scanFraction_isFraction foundFraction) (scanPower_isPower foundPower)
  split
  · exact .inr rfl
  · exact .inl rfl

end Scanning

section Literals

variable {fraction power text : List Char}

theorem IsPower.startsOff (powered : IsPower power) : StartsOff power := by
  cases powered with
  | none => exact Spelling.ends_nil.startsOff
  | digits marked =>
    rintro c ⟨⟩
    rcases marked with rfl | rfl <;> rfl

theorem IsPower.plain (powered : IsPower power) (text : List Char) : power ≠ '.' :: text := by
  rintro rfl
  cases powered with
  | digits marked => rcases marked with same | same <;> cases same

theorem IsFraction.startsOff (fractional : IsFraction fraction) (off : StartsOff power) :
    StartsOff (fraction ++ power) := by
  cases fractional with
  | none => exact off
  | digits all some =>
    rintro c ⟨⟩
    rfl

private theorem IsPower.scanExponent_eq (powered : IsPower power) :
    ∃ size, scanExponent power = (size, []) := by
  cases powered with
  | none => exact ⟨_, rfl⟩
  | @digits mark sign digits marked signed all some =>
    obtain ⟨negative, split⟩ : ∃ negative, splitSign (sign ++ digits) = (negative, digits) := by
      rcases signed with rfl | rfl | rfl
      · obtain ⟨c, later, rfl⟩ := List.exists_cons_of_ne_nil some
        exact ⟨_, splitSign_of_isDigit (all c List.mem_cons_self) later⟩
      · exact ⟨_, rfl⟩
      · exact ⟨_, rfl⟩
    have taken := takeWhile_isDigit all Spelling.ends_nil.startsOff
    have dropped := dropWhile_isDigit all Spelling.ends_nil.startsOff
    rw [List.append_nil] at taken dropped
    simp [scanExponent, marked, split, taken, dropped, some]

/-- A number is a decimal literal as a whole. -/
theorem IsNumber.exists_decimal? (number : IsNumber text) : ∃ x, decimal? text = some x := by
  obtain ⟨signed, all, some, fractional, powered⟩ := number
  rename_i sign whole fraction power
  obtain ⟨negative, split⟩ : ∃ negative,
      splitSign (sign ++ (whole ++ (fraction ++ power))) =
        (negative, whole ++ (fraction ++ power)) := by
    rcases signed with rfl | rfl
    · obtain ⟨c, later, rfl⟩ := List.exists_cons_of_ne_nil some
      exact ⟨_, splitSign_of_isDigit (all c List.mem_cons_self) _⟩
    · exact ⟨_, rfl⟩
  have off := powered.startsOff
  have taken := takeWhile_isDigit all (fractional.startsOff off)
  have dropped := dropWhile_isDigit all (fractional.startsOff off)
  obtain ⟨size, exponent⟩ := powered.scanExponent_eq
  unfold decimal? scan
  simp only [split, taken, dropped]
  cases fractional with
  | none =>
    have plain := powered.plain
    simp [some, exponent]
  | digits allFraction someFraction =>
    have takenFraction := takeWhile_isDigit allFraction off
    have droppedFraction := dropWhile_isDigit allFraction off
    simp [some, takenFraction, droppedFraction, exponent]

theorem IsFraction.isLiteralChar (fractional : IsFraction fraction) :
    ∀ c ∈ fraction, IsLiteralChar c := by
  cases fractional with
  | none => simp
  | digits all some =>
    intro c member
    rcases List.mem_cons.mp member with rfl | digit
    · decide
    · exact .inl (all c digit)

theorem IsPower.isLiteralChar (powered : IsPower power) : ∀ c ∈ power, IsLiteralChar c := by
  cases powered with
  | none => simp
  | @digits mark sign digits marked signed all some =>
    intro c member
    rcases List.mem_cons.mp member with rfl | later
    · rcases marked with rfl | rfl <;> decide
    · rcases List.mem_append.mp later with first | digit
      · have mark : c = '+' ∨ c = '-' := by
          rcases signed with rfl | rfl | rfl <;> simp_all
        rcases mark with rfl | rfl <;> decide
      · exact .inl (all c digit)

theorem IsNumber.isLiteralChar (number : IsNumber text) : ∀ c ∈ text, IsLiteralChar c := by
  obtain ⟨signed, all, _, fractional, powered⟩ := number
  intro c member
  rcases List.mem_append.mp member with first | later
  · rcases signed with rfl | rfl
    · cases first
    · rw [List.mem_singleton.mp first]
      decide
  · rcases List.mem_append.mp later with digit | later
    · exact .inl (all c digit)
    · rcases List.mem_append.mp later with second | third
      · exact fractional.isLiteralChar c second
      · exact powered.isLiteralChar c third

end Literals

/-- All numbers of a document obey the grammar. -/
inductive WellNumbered : Json → Prop where
  | null : WellNumbered null
  | bool (b : Bool) : WellNumbered (bool b)
  | number {spelling : List Char} (obeys : IsNumber spelling) : WellNumbered (number spelling)
  | text (s : String) : WellNumbered (text s)
  | list {items : List Json} (each : ∀ item ∈ items, WellNumbered item) : WellNumbered (list items)
  | record {members : List (String × Json)} (each : ∀ member ∈ members, WellNumbered member.2) :
      WellNumbered (record members)

def Token.WellNumbered : Token → Prop
  | .number spelling => IsNumber spelling
  | _ => True

def Frame.WellNumbered : Frame → Prop
  | .list done => ∀ item ∈ done, item.WellNumbered
  | .record done _ => ∀ member ∈ done, member.2.WellNumbered

/-- The numbers the machine has taken so far obey the grammar. -/
def State.WellNumbered : State → Prop
  | .value _ stack => ∀ frame ∈ stack, frame.WellNumbered
  | .name _ done stack =>
    (∀ member ∈ done, member.2.WellNumbered) ∧ ∀ frame ∈ stack, frame.WellNumbered
  | .colon done _ stack =>
    (∀ member ∈ done, member.2.WellNumbered) ∧ ∀ frame ∈ stack, frame.WellNumbered
  | .afterItem done stack =>
    (∀ item ∈ done, item.WellNumbered) ∧ ∀ frame ∈ stack, frame.WellNumbered
  | .afterMember done stack =>
    (∀ member ∈ done, member.2.WellNumbered) ∧ ∀ frame ∈ stack, frame.WellNumbered
  | .finished document => document.WellNumbered

section Machine

variable {json : Json} {stack : List Frame} {state next : State} {token : Token}

private theorem complete_wellNumbered (numbered : json.WellNumbered)
    (frames : ∀ frame ∈ stack, frame.WellNumbered) : (complete json stack).WellNumbered := by
  cases stack with
  | nil => exact numbered
  | cons frame rest =>
    obtain ⟨first, others⟩ := List.forall_mem_cons.mp frames
    cases frame with
    | list done => exact ⟨List.forall_mem_cons.mpr ⟨numbered, first⟩, others⟩
    | record done key => exact ⟨List.forall_mem_cons.mpr ⟨numbered, first⟩, others⟩

private theorem WellNumbered.list_reverse {done : List Json}
    (each : ∀ item ∈ done, item.WellNumbered) :
    (Json.list done.reverse).WellNumbered :=
  .list fun item member => each item (List.mem_reverse.mp member)

private theorem WellNumbered.record_reverse {done : List (String × Json)}
    (each : ∀ member ∈ done, member.2.WellNumbered) : (Json.record done.reverse).WellNumbered :=
  .record fun entry member => each entry (List.mem_reverse.mp member)

private theorem startValue_wellNumbered (numbered : token.WellNumbered)
    (frames : ∀ frame ∈ stack, frame.WellNumbered) (taken : startValue stack token = some next) :
    next.WellNumbered := by
  cases token with
  | null =>
    cases taken
    exact complete_wellNumbered .null frames
  | bool b =>
    cases taken
    exact complete_wellNumbered (.bool b) frames
  | number spelling =>
    cases taken
    exact complete_wellNumbered (.number numbered) frames
  | text s =>
    cases taken
    exact complete_wellNumbered (.text s) frames
  | openList =>
    obtain ⟨_, same⟩ := Option.ite_none_right_eq_some.mp taken
    cases same
    exact List.forall_mem_cons.mpr ⟨by rintro item ⟨⟩, frames⟩
  | openRecord =>
    obtain ⟨_, same⟩ := Option.ite_none_right_eq_some.mp taken
    cases same
    exact ⟨by rintro member ⟨⟩, frames⟩
  | closeRecord | closeList | comma | colon => cases taken

private theorem step_wellNumbered (numbered : token.WellNumbered) (before : state.WellNumbered)
    (taken : step state token = some next) : next.WellNumbered := by
  unfold step at taken
  split at taken
  · cases taken
    obtain ⟨first, others⟩ := List.forall_mem_cons.mp before
    exact complete_wellNumbered (.list_reverse first) others
  · exact startValue_wellNumbered numbered before taken
  · cases taken
    exact complete_wellNumbered (.record_reverse before.1) before.2
  · cases taken
    exact before
  · cases taken
    exact List.forall_mem_cons.mpr before
  · cases taken
    exact List.forall_mem_cons.mpr before
  · cases taken
    exact complete_wellNumbered (.list_reverse before.1) before.2
  · cases taken
    exact before
  · cases taken
    exact complete_wellNumbered (.record_reverse before.1) before.2
  · cases taken

private theorem run_wellNumbered {tokens : List Token}
    (numbered : ∀ token ∈ tokens, token.WellNumbered)
    (before : state.WellNumbered) (taken : run state tokens = some next) : next.WellNumbered := by
  induction tokens generalizing state with
  | nil =>
    cases taken
    exact before
  | cons token rest ih =>
    obtain ⟨first, others⟩ := List.forall_mem_cons.mp numbered
    rw [run] at taken
    split at taken
    · rename_i after stepped
      exact ih others (step_wellNumbered first before stepped) taken
    · cases taken

end Machine

private theorem scanToken_wellNumbered {text rest : List Char} {token : Token}
    (scanned : scanToken text = some (token, rest)) : token.WellNumbered := by
  unfold scanToken at scanned
  split at scanned
  iterate 9
    · cases scanned
      exact trivial
  · obtain ⟨_, _, same⟩ := Option.map_eq_some_iff.mp scanned
    cases same
    exact trivial
  · obtain ⟨_, found, same⟩ := Option.map_eq_some_iff.mp scanned
    cases same
    exact scanNumber_isNumber found

private theorem scanTokens_wellNumbered {rounds : Nat} {text : List Char} {tokens : List Token}
    (scanned : scanTokens rounds text = some tokens) : ∀ token ∈ tokens, token.WellNumbered := by
  induction rounds generalizing text tokens with
  | zero =>
    rw [scanTokens] at scanned
    split at scanned
    · cases scanned
      rintro token ⟨⟩
    · cases scanned
  | succ rounds ih =>
    rw [scanTokens] at scanned
    split at scanned
    · cases scanned
      rintro token ⟨⟩
    · dsimp only at scanned
      split at scanned
      · rename_i first
        obtain ⟨later, found, rfl⟩ := Option.map_eq_some_iff.mp scanned
        exact List.forall_mem_cons.mpr ⟨scanToken_wellNumbered first, ih found⟩
      · cases scanned

/-- Every number of a document that is read obeys the grammar. -/
theorem parse?_wellNumbered {text : List Char} {json : Json} (parsed : parse? text = some json) :
    json.WellNumbered := by
  unfold parse? at parsed
  obtain ⟨tokens, scanned, parsed⟩ := Option.bind_eq_some_iff.mp parsed
  obtain ⟨state, taken, parsed⟩ := Option.bind_eq_some_iff.mp parsed
  have final : state.WellNumbered :=
    run_wellNumbered (scanTokens_wellNumbered scanned) (by rintro frame ⟨⟩) taken
  split at parsed
  · cases parsed
    exact final
  · cases parsed

end Json

end ExprTree
