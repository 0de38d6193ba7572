import ExprTree.Proofs.OctetBoundaries
import ExprTree.Text.Percent

/-!
Components of addresses. What is read is a relation on whole texts, in which every run of escapes
spells characters of its own. Main statements: a text is read exactly if each percent sign starts an
escape and each maximal run of escapes is UTF-8 by itself, and what is written of a text, letters
that stand for themselves and escapes in upper case, reads back.
-/
namespace ExprTree.Text

open Numeral

/-- The letters that stand for themselves. -/
def unreserved : List Char :=
  "ABCDEFGHIJKLMNOPQRSTUVWXYZabcdefghijklmnopqrstuvwxyz0123456789-_.!~*'()".toList

def upperHex : List Char :=
  "0123456789ABCDEF".toList

/-- A written component: letters that stand for themselves and escapes in upper case. -/
inductive IsComponent : List Char → Prop where
  | nil : IsComponent []
  | letter {c : Char} {rest : List Char} (plain : c ∈ unreserved) (more : IsComponent rest) :
      IsComponent (c :: rest)
  | escape {high low : Char} {rest : List Char} (first : high ∈ upperHex) (second : low ∈ upperHex)
      (more : IsComponent rest) : IsComponent ('%' :: high :: low :: rest)

/-- A percent sign and two hexadecimal digits, which stand for one octet. -/
@[ext]
structure Escape where
  high : Char
  low : Char
  high_hex : digitValue high < 16
  low_hex : digitValue low < 16

namespace Escape

def chars (e : Escape) : List Char :=
  ['%', e.high, e.low]

def octet (e : Escape) : UInt8 :=
  UInt8.ofNat (digitValue e.high * 16 + digitValue e.low)

/-- The text of a run of escapes. -/
def written (run : List Escape) : List Char :=
  run.flatMap chars

/-- No escape stands at the end of a text. -/
def NoneBefore (text : List Char) : Prop :=
  ∀ e : Escape, ¬ e.chars <:+ text

/-- No escape stands at the front of a text. -/
def NoneBehind (text : List Char) : Prop :=
  ∀ e : Escape, ¬ e.chars <+: text

end Escape

open Escape

/-- A text whose percent signs all start escapes, and whose maximal runs of escapes are each the
octets of some characters. -/
structure WellEscaped (text : List Char) : Prop where
  starts : ∀ before after, text = before ++ '%' :: after → ∃ e : Escape, e.chars <+: '%' :: after
  runs : ∀ before run after, text = before ++ written run ++ after → NoneBefore before →
    NoneBehind after → ∃ spelled, Utf8.encode spelled = run.map Escape.octet

/-- The text with each maximal run of escapes replaced by the characters that it spells. -/
inductive RunsReplaced : List Char → List Char → Prop where
  | nil : RunsReplaced [] []
  | plain {c : Char} {text decoded : List Char} (other : c ≠ '%')
      (more : RunsReplaced text decoded) : RunsReplaced (c :: text) (c :: decoded)
  | run {run : List Escape} {spelled text decoded : List Char} (some : run ≠ [])
      (maximal : NoneBehind text) (spells : Utf8.encode spelled = run.map Escape.octet)
      (more : RunsReplaced text decoded) : RunsReplaced (written run ++ text) (spelled ++ decoded)

section Letters

private theorem ne_percent_of_unreserved : ∀ c ∈ unreserved, c ≠ '%' :=
  forall_mem_of_all (by decide)

private theorem upperHexDigit_spec :
    ∀ n < 16, upperHexDigit n ∈ upperHex ∧ digitValue (upperHexDigit n) = n := by
  decide

private theorem mem_unreserved_of_lt : ∀ n < 0x80, isUnreserved (Char.ofNat n) = true →
    Char.ofNat n ∈ unreserved := by
  decide +kernel

private theorem digitValue_percent : ¬ digitValue '%' < 16 := by
  decide

/-- An octet is written as the letter that it is, or as an escape in upper case. -/
theorem percentOctet_cases (octet : UInt8) :
    (∃ c ∈ unreserved, String.utf8EncodeChar c = [octet] ∧ percentOctet octet = [c]) ∨
      ∃ e : Escape, e.high ∈ upperHex ∧ e.low ∈ upperHex ∧ e.octet = octet ∧
        percentOctet octet = e.chars := by
  have bound := octet.toNat_lt
  unfold percentOctet
  dsimp only
  split
  · rename_i plain
    obtain ⟨short, kept⟩ := Bool.and_eq_true_iff.mp plain
    have short := of_decide_eq_true short
    have small : octet.toNat < 0x80 := UInt8.lt_iff_toNat_lt.mp short
    have found := Utf8.scalar?_eq_ofNat (.inl (show octet.toNat < 0xD800 by omega))
    exact .inl ⟨_, mem_unreserved_of_lt _ small kept, Utf8.utf8EncodeChar_of_short short found, rfl⟩
  · obtain ⟨first, high⟩ := upperHexDigit_spec (octet.toNat / 16) (by omega)
    obtain ⟨second, low⟩ := upperHexDigit_spec (octet.toNat % 16) (by omega)
    let e : Escape := ⟨upperHexDigit (octet.toNat / 16), upperHexDigit (octet.toNat % 16),
      by rw [high]; omega, by rw [low]; omega⟩
    have value : digitValue e.high * 16 + digitValue e.low = octet.toNat := by
      rw [high, low]
      omega
    exact .inr ⟨e, first, second, Utf8.ofNat_of_toNat octet value, rfl⟩

end Letters

section Reading

variable {text rest : List Char} {read : List UInt8}

private theorem percentOctets?_plain {c : Char} (other : c ≠ '%') (rest : List Char) :
    percentOctets? (c :: rest) = (percentOctets? rest).map (String.utf8EncodeChar c ++ ·) := by
  simp [percentOctets?, other]

private theorem percentOctets?_escape (e : Escape) (rest : List Char) :
    percentOctets? (e.chars ++ rest) = (percentOctets? rest).map (e.octet :: ·) := by
  simp [Escape.chars, Escape.octet, percentOctets?, e.high_hex, e.low_hex]

@[simp]
theorem Escape.length_chars (e : Escape) : e.chars.length = 3 :=
  rfl

private theorem Escape.written_cons (e : Escape) (run : List Escape) :
    written (e :: run) = e.chars ++ written run :=
  List.flatMap_cons

private theorem Escape.written_append (first second : List Escape) :
    written (first ++ second) = written first ++ written second :=
  List.flatMap_append

private theorem percentOctets?_written (run : List Escape) (rest : List Char) :
    percentOctets? (written run ++ rest) =
      (percentOctets? rest).map (run.map Escape.octet ++ ·) := by
  induction run with
  | nil => simp [written]
  | cons e run ih =>
    rw [written_cons, List.append_assoc, percentOctets?_escape, ih, Option.map_map]
    rfl

/-- A percent sign that can be read starts an escape. -/
theorem exists_escape_of_percentOctets? (found : percentOctets? text = some read)
    (before after : List Char) (split : text = before ++ '%' :: after) :
    ∃ e : Escape, e.chars <+: '%' :: after := by
  fun_induction percentOctets? text generalizing read before with
  | case1 => cases before <;> cases split
  | case2 high low rest hex ih =>
    obtain ⟨first, second⟩ := Bool.and_eq_true_iff.mp hex
    have first := of_decide_eq_true first
    have second := of_decide_eq_true second
    obtain ⟨tail, later, -⟩ := Option.map_eq_some_iff.mp found
    -- the sign is the one in front or stands behind the two digits
    match before with
    | [] =>
      cases split
      exact ⟨⟨high, low, first, second⟩, List.prefix_append ..⟩
    | [_] =>
      cases split
      exact absurd first digitValue_percent
    | [_, _] =>
      cases split
      exact absurd second digitValue_percent
    | _ :: _ :: _ :: before =>
      obtain ⟨-, -, -, behind⟩ : _ ∧ _ ∧ _ ∧ rest = before ++ '%' :: after := by simpa using split
      exact ih later before behind
  | case3 => cases found
  | case4 => cases found
  | case5 c rest _ other ih =>
    obtain ⟨tail, later, -⟩ := Option.map_eq_some_iff.mp found
    cases before with
    | nil => exact absurd (List.cons.inj split).1 other
    | cons _ before => exact ih later before (List.cons.inj split).2

/-- What is read behind a run of escapes continues no character. -/
theorem startsFresh_of_noneBehind (ends : NoneBehind text)
    (found : percentOctets? text = some read) : Utf8.StartsFresh read := by
  cases text with
  | nil =>
    cases found
    exact nofun
  | cons c rest =>
    by_cases sign : c = '%'
    · obtain ⟨e, front⟩ := exists_escape_of_percentOctets? found [] rest (by rw [sign]; rfl)
      exact absurd (sign ▸ front) (ends e)
    · rw [percentOctets?_plain sign] at found
      obtain ⟨later, -, rfl⟩ := Option.map_eq_some_iff.mp found
      exact Utf8.startsFresh_utf8EncodeChar c later

end Reading

section Runs

variable {run other : List Escape} {text rest before after : List Char}

/-- Every text is a run of escapes, which may be none, with no further escape behind it. -/
theorem exists_run (text : List Char) :
    ∃ run rest, text = written run ++ rest ∧ NoneBehind rest := by
  by_cases escaped : ∃ e : Escape, e.chars <+: text
  · obtain ⟨e, later, whole⟩ := escaped
    have shorter : later.length < text.length := by
      rw [← whole, List.length_append, length_chars]
      omega
    obtain ⟨run, rest, rfl, ends⟩ := exists_run later
    exact ⟨e :: run, rest, by rw [written_cons, List.append_assoc, whole], ends⟩
  · exact ⟨[], text, rfl, fun e front => escaped ⟨e, front⟩⟩
termination_by text.length

/-- Texts taken from the front on: characters other than the percent sign one by one, and escapes
run by run. -/
@[elab_as_elim]
theorem run_induction {motive : List Char → Prop} (nil : motive [])
    (plain : ∀ c rest, c ≠ '%' → motive rest → motive (c :: rest))
    (stray : ∀ rest, NoneBehind ('%' :: rest) → motive ('%' :: rest))
    (run : ∀ run rest, run ≠ [] → NoneBehind rest → motive rest → motive (written run ++ rest))
    (text : List Char) : motive text := by
  match text with
  | [] => exact nil
  | c :: rest =>
    by_cases sign : c = '%'
    · obtain ⟨escapes, behind, whole, ends⟩ := exists_run (c :: rest)
      cases escapes with
      | nil =>
        obtain rfl : c :: rest = behind := whole
        subst sign
        exact stray rest ends
      | cons e escapes =>
        have shorter : behind.length < (c :: rest).length := by
          rw [whole, written_cons, List.length_append, List.length_append, length_chars]
          omega
        rw [whole]
        exact run (e :: escapes) behind (by simp) ends (run_induction nil plain stray run behind)
    · exact plain c rest sign (run_induction nil plain stray run rest)
termination_by text.length
decreasing_by
  · exact shorter
  · exact Nat.lt_succ_self _

private theorem Escape.chars_injective {e f : Escape} {text rest : List Char}
    (same : e.chars ++ text = f.chars ++ rest) : e = f ∧ text = rest := by
  simp only [Escape.chars, List.cons_append, List.nil_append, List.cons.injEq, true_and] at same
  exact ⟨Escape.ext same.1 same.2.1, same.2.2⟩

/-- A run of escapes up to where no further one stands is determined by the text. -/
theorem run_unique (first : NoneBehind text) (second : NoneBehind rest)
    (same : written run ++ text = written other ++ rest) : run = other := by
  induction run generalizing other with
  | nil =>
    cases other with
    | nil => rfl
    | cons f other =>
      rw [written_cons, List.append_assoc] at same
      exact absurd ⟨_, same.symm⟩ (first f)
  | cons e run ih =>
    rw [written_cons, List.append_assoc] at same
    cases other with
    | nil => exact absurd ⟨_, same⟩ (second e)
    | cons f other =>
      rw [written_cons, List.append_assoc] at same
      obtain ⟨rfl, later⟩ := chars_injective same
      rw [ih later]

/-- A percent sign in or behind a run of escapes starts one of these or stands behind them. -/
theorem percent_in_run (split : written run ++ rest = before ++ '%' :: after) :
    (∃ first second, run = first ++ second ∧ second ≠ [] ∧ before = written first) ∨
      ∃ more, before = written run ++ more ∧ rest = more ++ '%' :: after := by
  induction run generalizing before with
  | nil => exact .inr ⟨before, rfl, split⟩
  | cons e run ih =>
    rw [written_cons, List.append_assoc] at split
    match before with
    | [] => exact .inl ⟨[], e :: run, rfl, by simp, rfl⟩
    | [_] =>
      have digit := e.high_hex
      simp only [Escape.chars, List.cons_append, List.nil_append, List.cons.injEq] at split
      rw [split.2.1] at digit
      exact absurd digit digitValue_percent
    | [_, _] =>
      have digit := e.low_hex
      simp only [Escape.chars, List.cons_append, List.nil_append, List.cons.injEq] at split
      rw [split.2.2.1] at digit
      exact absurd digit digitValue_percent
    | _ :: _ :: _ :: before =>
      simp only [Escape.chars, List.cons_append, List.nil_append, List.cons.injEq] at split
      obtain ⟨rfl, rfl, rfl, later⟩ := split
      rcases ih later with ⟨first, second, rfl, some, rfl⟩ | ⟨more, rfl, rfl⟩
      · exact .inl ⟨e :: first, second, rfl, some, rfl⟩
      · exact .inr ⟨more, rfl, rfl⟩

private theorem Escape.noneBefore_written (none : NoneBefore (written run)) : run = [] := by
  rcases List.eq_nil_or_concat run with rfl | ⟨front, e, rfl⟩
  · rfl
  · exact absurd ⟨written front, by simp [written]⟩ (none e)

private theorem Escape.NoneBefore.of_suffix (none : NoneBefore before) (shorter : rest <:+ before) :
    NoneBefore rest :=
  fun e ending => none e (ending.trans shorter)

/-- An escape that ends behind a run of escapes has begun there. -/
theorem Escape.noneBefore_append (some : rest ≠ []) (none : NoneBefore rest) :
    NoneBefore (written run ++ rest) := by
  rintro e ⟨front, ending⟩
  rcases percent_in_run ending.symm with ⟨first, second, rfl, held, rfl⟩ | ⟨more, rfl, later⟩
  · -- the run would have to end inside the escape
    rw [written_append, List.append_assoc, List.append_cancel_left_eq] at ending
    obtain ⟨f, second, rfl⟩ := List.exists_cons_of_ne_nil held
    rw [written_cons, List.append_assoc] at ending
    obtain ⟨-, empty⟩ := chars_injective (ending.symm.trans (List.append_nil _).symm)
    exact some (List.append_eq_nil_iff.mp empty).2
  · exact none e ⟨more, later.symm⟩

end Runs

section Decoding

variable {text decoded : List Char}

private theorem RunsReplaced.percentOctets?_eq (replaced : RunsReplaced text decoded) :
    percentOctets? text = some (Utf8.encode decoded) := by
  induction replaced with
  | nil => rfl
  | plain other more ih =>
    rw [percentOctets?_plain other, ih, Utf8.encode_cons]
    rfl
  | run some maximal spells more ih =>
    rw [percentOctets?_written, ih, Utf8.encode_append, spells]
    rfl

/-- Where the octets of a text are those of characters, each run of escapes spells some of them. -/
theorem runsReplaced_of_percentOctets? (found : percentOctets? text = some (Utf8.encode decoded)) :
    RunsReplaced text decoded := by
  induction text using run_induction generalizing decoded with
  | nil =>
    obtain rfl : decoded = [] := by
      cases decoded with
      | nil => rfl
      | cons c decoded => simp [percentOctets?, Utf8.encode_cons] at found
    exact .nil
  | plain c rest other ih =>
    rw [percentOctets?_plain other] at found
    obtain ⟨read, later, joined⟩ := Option.map_eq_some_iff.mp found
    obtain ⟨others, rfl, rfl⟩ := Utf8.encode_eq_append joined.symm
    exact .plain other (ih later)
  | stray rest none =>
    obtain ⟨e, front⟩ := exists_escape_of_percentOctets? found [] rest rfl
    exact absurd front (none e)
  | run run rest some ends ih =>
    rw [percentOctets?_written] at found
    obtain ⟨read, later, joined⟩ := Option.map_eq_some_iff.mp found
    -- the octets of the run and those behind it come apart between two characters
    obtain ⟨spelled, others, rfl, spells, rfl⟩ :=
      Utf8.exists_of_encode_eq_append (startsFresh_of_noneBehind ends later) joined.symm
    exact .run some ends spells (ih later)

theorem percentDecode?_eq_some_iff {text decoded : String} :
    percentDecode? text = some decoded ↔ RunsReplaced text.toList decoded.toList := by
  rw [percentDecode?, Option.map_eq_some_iff]
  constructor
  · rintro ⟨chars, read, rfl⟩
    obtain ⟨octets, found, decodes⟩ := Option.bind_eq_some_iff.mp read
    rw [Utf8.decode?_eq_some_iff.mp decodes] at found
    rw [String.toList_ofList]
    exact runsReplaced_of_percentOctets? found
  · intro replaced
    refine ⟨decoded.toList, ?_, String.ofList_toList⟩
    rw [replaced.percentOctets?_eq]
    exact Utf8.decode?_encode _

end Decoding

section WellEscaped

variable {text decoded : List Char}

theorem WellEscaped.of_cons {c : Char} (escaped : WellEscaped (c :: text)) (other : c ≠ '%') :
    WellEscaped text := by
  constructor
  · intro before after whole
    exact escaped.starts (c :: before) after (by rw [whole]; rfl)
  · intro before run after whole left right
    refine escaped.runs (c :: before) run after (by rw [whole]; rfl) ?_ right
    intro e ending
    rcases List.suffix_cons_iff.mp ending with whole | shorter
    · exact other (List.cons.inj whole).1.symm
    · exact left e shorter

private theorem WellEscaped.of_written {run : List Escape}
    (escaped : WellEscaped (written run ++ text))
    (ends : NoneBehind text) : WellEscaped text := by
  constructor
  · intro before after whole
    exact escaped.starts (written run ++ before) after (by rw [whole, List.append_assoc])
  · intro before other after whole left right
    by_cases front : before = []
    · -- a run at the front is empty
      obtain rfl : other = [] := by
        refine run_unique right ends ?_
        rw [whole, front]
        rfl
      exact ⟨[], rfl⟩
    · have none : NoneBefore (written run ++ before) := noneBefore_append front left
      refine escaped.runs (written run ++ before) other after ?_ none right
      simp only [whole, List.append_assoc]

private theorem exists_runsReplaced (escaped : WellEscaped text) :
    ∃ decoded, RunsReplaced text decoded := by
  induction text using run_induction with
  | nil => exact ⟨[], .nil⟩
  | plain c rest other ih =>
    obtain ⟨decoded, replaced⟩ := ih (escaped.of_cons other)
    exact ⟨c :: decoded, .plain other replaced⟩
  | stray rest none =>
    obtain ⟨e, front⟩ := escaped.starts [] rest rfl
    exact absurd front (none e)
  | run run rest some ends ih =>
    obtain ⟨decoded, replaced⟩ := ih (escaped.of_written ends)
    have first : NoneBefore [] := fun e ending => by simp [Escape.chars] at ending
    obtain ⟨spelled, spells⟩ := escaped.runs [] run rest rfl first ends
    exact ⟨spelled ++ decoded, .run some ends spells replaced⟩

/-- A maximal run of escapes in the text is one of those that were replaced. -/
theorem RunsReplaced.exists_spelled (replaced : RunsReplaced text decoded)
    {before after : List Char} {run : List Escape} (some : run ≠ [])
    (whole : text = before ++ written run ++ after) (left : NoneBefore before)
    (right : NoneBehind after) :
    ∃ spelled, Utf8.encode spelled = run.map Escape.octet := by
  obtain ⟨e, run, rfl⟩ := List.exists_cons_of_ne_nil some
  induction replaced generalizing before with
  | nil => simp [written_cons, Escape.chars] at whole
  | @plain c text decoded other more ih =>
    cases before with
    | nil => exact absurd (List.cons.inj whole).1 other
    | cons d before => exact ih (left.of_suffix (List.suffix_cons d before)) (List.cons.inj whole).2
  | @run first spelled text decoded held maximal spells more ih =>
    have split := whole
    rw [written_cons, List.append_assoc, List.append_assoc] at split
    rcases percent_in_run split with ⟨passed, others, -, -, rfl⟩ | ⟨behind, rfl, later⟩
    · -- escapes in front would belong to the run
      obtain rfl := noneBefore_written left
      rw [run_unique right maximal whole.symm]
      exact ⟨spelled, spells⟩
    · refine ih (left.of_suffix (List.suffix_append _ behind)) ?_
      rw [later, written_cons, List.append_assoc, List.append_assoc]
      rfl

private theorem wellEscaped_iff : WellEscaped text ↔ ∃ decoded, RunsReplaced text decoded := by
  constructor
  · exact exists_runsReplaced
  · rintro ⟨decoded, replaced⟩
    refine ⟨exists_escape_of_percentOctets? replaced.percentOctets?_eq, ?_⟩
    intro before run after whole left right
    by_cases none : run = []
    · exact ⟨[], by rw [none]; rfl⟩
    · exact replaced.exists_spelled none whole left right

/-- Which texts are read. -/
theorem isSome_percentDecode?_iff (text : String) :
    (percentDecode? text).isSome = true ↔ WellEscaped text.toList := by
  rw [wellEscaped_iff, Option.isSome_iff_exists]
  constructor
  · rintro ⟨decoded, read⟩
    exact ⟨decoded.toList, percentDecode?_eq_some_iff.mp read⟩
  · rintro ⟨decoded, replaced⟩
    refine ⟨String.ofList decoded, percentDecode?_eq_some_iff.mpr ?_⟩
    rwa [String.toList_ofList]

end WellEscaped

section Writing

/-- The text of one character. -/
def percentChar (c : Char) : List Char :=
  (String.utf8EncodeChar c).flatMap percentOctet

theorem toList_percentEncode (text : String) :
    (percentEncode text).toList = text.toList.flatMap percentChar := by
  rw [percentEncode, String.toList_ofList, Utf8.encode, List.flatMap_assoc]
  rfl

private theorem IsComponent.percentOctet_append {rest : List Char} (more : IsComponent rest)
    (octet : UInt8) : IsComponent (percentOctet octet ++ rest) := by
  rcases percentOctet_cases octet with ⟨c, plain, -, kept⟩ | ⟨e, high, low, -, escaped⟩
  · rw [kept]
    exact .letter plain more
  · rw [escaped]
    exact .escape high low more

theorem isComponent_flatMap (octets : List UInt8) : IsComponent (octets.flatMap percentOctet) := by
  induction octets with
  | nil => exact .nil
  | cons octet octets ih =>
    rw [List.flatMap_cons]
    exact ih.percentOctet_append octet

private theorem percentOctets?_percentOctet (octet : UInt8) (rest : List Char) :
    percentOctets? (percentOctet octet ++ rest) = (percentOctets? rest).map (octet :: ·) := by
  rcases percentOctet_cases octet with ⟨c, plain, own, kept⟩ | ⟨e, -, -, own, escaped⟩
  · rw [kept, List.singleton_append, percentOctets?_plain (ne_percent_of_unreserved c plain), own]
    rfl
  · rw [escaped, percentOctets?_escape, own]

private theorem percentOctets?_flatMap (octets : List UInt8) :
    percentOctets? (octets.flatMap percentOctet) = some octets := by
  induction octets with
  | nil => rfl
  | cons octet octets ih =>
    rw [List.flatMap_cons, percentOctets?_percentOctet, ih]
    rfl

theorem percentDecode?_percentEncode (text : String) :
    percentDecode? (percentEncode text) = some text := by
  rw [percentDecode?, percentEncode, String.toList_ofList, percentOctets?_flatMap,
    Option.bind_some, Utf8.decode?_encode, Option.map_some, String.ofList_toList]

private theorem percentChar_of_unreserved : ∀ c ∈ unreserved, percentChar c = [c] :=
  forall_mem_of_all (by decide +kernel)

private theorem three_le_percentChar {c : Char} (reserved : c ∉ unreserved) :
    3 ≤ (percentChar c).length := by
  obtain ⟨lead, others, own, -⟩ := Utf8.utf8EncodeChar_tails c
  rw [percentChar, own, List.flatMap_cons, List.length_append]
  rcases percentOctet_cases lead with ⟨d, plain, alone, -⟩ | ⟨e, -, -, -, escaped⟩
  · -- the first octet would be all of another character
    have front : Utf8.encode [c] = String.utf8EncodeChar d ++ others := by
      rw [Utf8.encode_cons, own, alone]
      simp [Utf8.encode]
    obtain ⟨rest, same, -⟩ := Utf8.encode_eq_append front
    cases same
    exact absurd plain reserved
  · rw [escaped, length_chars]
    omega

private theorem length_le_flatMap_percentChar (text : List Char) :
    text.length ≤ (text.flatMap percentChar).length := by
  induction text with
  | nil => exact Nat.le_refl _
  | cons c text ih =>
    rw [List.flatMap_cons, List.length_append, List.length_cons]
    by_cases plain : c ∈ unreserved
    · rw [percentChar_of_unreserved c plain, List.length_singleton]
      omega
    · have := three_le_percentChar plain
      omega

/-- Escapes make a text longer, so that only letters that stand for themselves leave it as it is. -/
theorem flatMap_percentChar_eq_iff {text : List Char} :
    text.flatMap percentChar = text ↔ ∀ c ∈ text, c ∈ unreserved := by
  induction text with
  | nil => simp
  | cons c text ih =>
    rw [List.flatMap_cons, List.forall_mem_cons, ← ih]
    by_cases plain : c ∈ unreserved
    · simp [percentChar_of_unreserved c plain, plain]
    · refine iff_of_false (fun same => ?_) (fun both => plain both.1)
      have longer := congrArg List.length same
      have least := three_le_percentChar plain
      have more := length_le_flatMap_percentChar text
      simp only [List.length_append, List.length_cons] at longer
      omega

end Writing

end ExprTree.Text
