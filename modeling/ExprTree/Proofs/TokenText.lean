import ExprTree.Proofs.JsonNumber
import ExprTree.Proofs.RoundTrip

/-!
JSON text as tokens with blanks between them. Blanks there change no token, and taking out all that
stand outside of texts leaves the tokens one behind the other, which is how a value is written.
-/
namespace ExprTree

namespace Json

open Numeral.Spelling (Ends)

/-- Only blanks. -/
def Blank (text : List Char) : Prop :=
  ∀ c ∈ text, isBlank c = true

instance (text : List Char) : Decidable (Blank text) :=
  List.decidableBAll _ text

theorem blank_nil : Blank [] := by
  rintro c ⟨⟩

theorem Blank.append {first second : List Char} (blank : Blank first) (other : Blank second) :
    Blank (first ++ second) := by
  intro c member
  rcases List.mem_append.mp member with here | there
  · exact blank c here
  · exact other c there

theorem isBlank_iff {c : Char} : isBlank c = true ↔ c = ' ' ∨ c = '\t' ∨ c = '\n' ∨ c = '\r' := by
  simp [isBlank, or_assoc]

private theorem ends_of_blank {c : Char} (blank : isBlank c = true) (rest : List Char) :
    Ends (c :: rest) := by
  rintro d ⟨⟩
  rcases isBlank_iff.mp blank with rfl | rfl | rfl | rfl <;> decide

/-- How a token is written. -/
def Token.chars : Token → List Char
  | openRecord => ['{']
  | closeRecord => ['}']
  | openList => ['[']
  | closeList => [']']
  | comma => [',']
  | colon => [':']
  | null => "null".toList
  | bool b => if b then "true".toList else "false".toList
  | number spelling => spelling
  | text s => Text.quoted s

/-- Tokens one behind the other. -/
def spelled (tokens : List Token) : List Char :=
  tokens.flatMap Token.chars

theorem spelled_cons (token : Token) (rest : List Token) :
    spelled (token :: rest) = token.chars ++ spelled rest :=
  List.flatMap_cons

private theorem spelled_append (first second : List Token) :
    spelled (first ++ second) = spelled first ++ spelled second :=
  List.flatMap_append

/-- A text that is made of tokens, with blanks in front of, between and behind them as one likes. -/
inductive Spaced : List Char → List Token → Prop where
  | nil {text : List Char} (blank : Blank text) : Spaced text []
  | cons {before rest : List Char} {tokens : List Token} (blank : Blank before) (token : Token)
      (others : Spaced rest tokens) : Spaced (before ++ (token.chars ++ rest)) (token :: tokens)

theorem Spaced.blanks {before text : List Char} {tokens : List Token} (blank : Blank before)
    (spaced : Spaced text tokens) : Spaced (before ++ text) tokens := by
  cases spaced with
  | nil other => exact .nil (blank.append other)
  | cons other token others =>
    rw [← List.append_assoc]
    exact .cons (blank.append other) token others

theorem spaced_spelled {tail : List Char} (blank : Blank tail) (tokens : List Token) :
    Spaced (spelled tokens ++ tail) tokens := by
  induction tokens with
  | nil => exact .nil blank
  | cons token rest ih =>
    rw [spelled_cons, List.append_assoc]
    exact .cons blank_nil token ih

/-- Tokens of which the first ends a number in front of them. -/
def Closing : List Token → Prop
  | [] | .comma :: _ | .closeList :: _ | .closeRecord :: _ => True
  | _ => False

/-- Whether a token is read again with these behind it. Only numbers may run on. -/
def Token.Fits (after : List Token) : Token → Prop
  | number spelling =>
    (∀ rest, Ends rest → scanNumber (spelling ++ rest) = some (spelling, rest)) ∧ Closing after
  | _ => True

/-- Tokens of which each is read again. -/
def Legible : List Token → Prop
  | [] => True
  | token :: rest => token.Fits rest ∧ Legible rest

theorem Spaced.ends {text : List Char} {tokens : List Token} (spaced : Spaced text tokens)
    (closing : Closing tokens) : Ends text := by
  have front : ∀ before rest, Blank before → Ends rest → Ends (before ++ rest) := by
    intro before rest blank ends
    cases before with
    | nil => exact ends
    | cons c later => exact ends_of_blank (blank c List.mem_cons_self) _
  cases spaced with
  | nil blank =>
    have ends := front text [] blank Numeral.Spelling.ends_nil
    rwa [List.append_nil] at ends
  | cons blank token others =>
    refine front _ _ blank ?_
    cases token with
    | comma => exact Value.ends_of_mark (.inl rfl) _
    | closeList => exact Value.ends_of_mark (.inr (.inl rfl)) _
    | closeRecord => exact Value.ends_of_mark (.inr (.inr rfl)) _
    | _ => cases closing

section Reading

private theorem tokens?_blanks {before text : List Char} {tokens : List Token}
    (blank : Blank before)
    (scanned : tokens? text = some tokens) : tokens? (before ++ text) = some tokens := by
  have same : (before ++ text).dropWhile isBlank = text.dropWhile isBlank :=
    List.dropWhile_append_of_pos blank
  have read : scanTokens text.length (before ++ text) = some tokens := by
    rw [← scanned, tokens?, scanTokens, scanTokens, same]
  exact scanTokens_mono read (by simp)

theorem IsNumber.front {spelling : List Char} (number : IsNumber spelling) :
    ∃ c text, spelling = c :: text ∧ (c.isDigit = true ∨ c = '-') := by
  obtain ⟨signed, all, some, _, _⟩ := number
  rcases signed with rfl | rfl
  · obtain ⟨c, later, rfl⟩ := List.exists_cons_of_ne_nil some
    exact ⟨c, _, rfl, .inl (all c List.mem_cons_self)⟩
  · exact ⟨'-', _, rfl, .inr rfl⟩

private theorem Token.Fits.isNumber {spelling : List Char} {after : List Token}
    (fits : (Token.number spelling).Fits after) : IsNumber spelling :=
  scanNumber_isNumber (fits.1 [] Numeral.Spelling.ends_nil)

/-- A token is read in front of whatever is read behind it. -/
theorem tokens?_token {token : Token} {rest : List Char} {after : List Token}
    (fits : token.Fits after) (ends : Closing after → Ends rest)
    (others : tokens? rest = some after) :
    tokens? (token.chars ++ rest) = some (token :: after) := by
  cases token with
  | openRecord | closeRecord | openList | closeList | comma | colon =>
    exact Value.tokens?_mark rfl rfl others
  | null => exact Value.tokens?_null others
  | bool b => exact Value.tokens?_bool b others
  | text s => exact Value.tokens?_quoted s others
  | number spelling =>
    obtain ⟨c, text, rfl, front⟩ := fits.isNumber.front
    have scanned := fits.1 rest (ends fits.2)
    refine tokens?_cons ?_ (scanToken_number front scanned) others
    rcases front with digit | rfl
    · exact isBlank_of_isDigit digit
    · rfl

/-- Blanks between tokens change none of them. -/
theorem Spaced.tokens?_eq {text : List Char} {tokens : List Token} (spaced : Spaced text tokens)
    (legible : Legible tokens) : tokens? text = some tokens := by
  induction spaced with
  | nil blank =>
    have none : tokens? [] = some [] := rfl
    have scanned := tokens?_blanks blank none
    rwa [List.append_nil] at scanned
  | cons blank token others ih =>
    exact tokens?_blanks blank (tokens?_token legible.1 others.ends (ih legible.2))

end Reading

/-- How a token is written: a mark of its own, a word of a letter or more, or a text between
quotes. -/
theorem Token.Fits.chars_cases {token : Token} {after : List Token} (fits : token.Fits after) :
    (∃ c ∈ ['{', '[', '}', ']', ',', ':'], token.chars = [c]) ∨
      (∃ c word, token.chars = c :: word ∧ IsWord (c :: word)) ∨
      ∃ body, token.chars = '"' :: body ∧ Within .inText body .outside := by
  cases token with
  | openRecord | closeRecord | openList | closeList | comma | colon =>
    exact .inl ⟨_, by decide, rfl⟩
  | null => exact .inr (.inl ⟨'n', ['u', 'l', 'l'], rfl, by decide⟩)
  | bool b =>
    cases b with
    | true => exact .inr (.inl ⟨'t', ['r', 'u', 'e'], rfl, by decide⟩)
    | false => exact .inr (.inl ⟨'f', ['a', 'l', 's', 'e'], rfl, by decide⟩)
  | number spelling =>
    have literal := fits.isNumber.isLiteralChar
    obtain ⟨c, word, rfl, _⟩ := fits.isNumber.front
    exact .inr (.inl ⟨c, word, rfl, fun d member => isWordChar_of_isLiteralChar (literal d member)⟩)
  | text s => exact .inr (.inr ⟨_, rfl, within_quoted s.toList⟩)

/-- A text without the blanks that stand outside of quotes. -/
def strip (region : Region) : List Char → List Char
  | [] => []
  | c :: rest =>
    if region = .outside ∧ isBlank c = true then strip region rest
    else c :: strip (region.next c) rest

private theorem strip_blanks {before : List Char} (blank : Blank before) (rest : List Char) :
    strip .outside (before ++ rest) = strip .outside rest := by
  induction before with
  | nil => rfl
  | cons c later ih =>
    obtain ⟨here, others⟩ := List.forall_mem_cons.mp blank
    rw [List.cons_append, strip, if_pos ⟨rfl, here⟩]
    exact ih others

private theorem strip_within {region last : Region} {text : List Char}
    (within : Within region text last)
    (rest : List Char) : strip region (text ++ rest) = text ++ strip last rest := by
  induction within with
  | nil => rfl
  | cons inner _ ih => rw [List.cons_append, strip, if_neg (fun both => inner both.1), ih]; rfl

private theorem strip_word {word : List Char} (plain : IsWord word) (rest : List Char) :
    strip .outside (word ++ rest) = word ++ strip .outside rest := by
  induction word with
  | nil => rfl
  | cons c later ih =>
    obtain ⟨here, others⟩ := List.forall_mem_cons.mp plain
    have visible : ¬ (Region.outside = .outside ∧ isBlank c = true) := by
      rintro ⟨_, blank⟩
      rcases isBlank_iff.mp blank with rfl | rfl | rfl | rfl <;> exact here (by decide)
    rw [List.cons_append, strip, if_neg visible, here.next, ih others]
    rfl

private theorem strip_token {token : Token} {after : List Token} (fits : token.Fits after)
    (rest : List Char) :
    strip .outside (token.chars ++ rest) = token.chars ++ strip .outside rest := by
  rcases fits.chars_cases with ⟨c, mark, same⟩ | ⟨c, word, same, plain⟩ | ⟨body, same, within⟩
  · rw [same]
    simp only [List.mem_cons, List.not_mem_nil, or_false] at mark
    rcases mark with rfl | rfl | rfl | rfl | rfl | rfl <;> rfl
  · rw [same]
    exact strip_word plain rest
  · rw [same, List.cons_append, List.cons_append]
    exact congrArg ('"' :: ·) (strip_within within rest)

/-- Without the blanks between them the tokens stand one behind the other. -/
theorem Spaced.strip_eq {text : List Char} {tokens : List Token} (spaced : Spaced text tokens)
    (legible : Legible tokens) : strip .outside text = spelled tokens := by
  induction spaced with
  | nil blank =>
    have stripped := strip_blanks blank []
    rwa [List.append_nil] at stripped
  | cons blank token others ih =>
    rw [strip_blanks blank, strip_token legible.1, ih legible.2, spelled_cons]

end Json

namespace Value

open Json

mutual

/-- A value is written as the tokens of the document it spells, one behind the other. -/
theorem jsonChars_eq_spelled (v : Value) : v.jsonChars = spelled v.written.tokens := by
  match v with
  | .undefined | .null | .function _ => rfl
  | .bool _ | .text _ => exact (List.append_nil _).symm
  | .number x =>
    rw [jsonChars, written]
    split
    · exact (List.append_nil _).symm
    · rfl
  | .object _ entries =>
    rw [jsonChars, jsonMembers_eq_spelled true entries, written, tokens, ← List.cons_append,
      spelled_append]
    rfl
  | .array _ items =>
    rw [jsonChars, jsonItems_eq_spelled true items, written, tokens, ← List.cons_append,
      spelled_append]
    rfl

private theorem jsonItems_eq_spelled (first : Bool) (items : List Value) :
    jsonItems first items = spelled (itemTokens first (writtenItems items)) := by
  match items with
  | [] => rfl
  | item :: rest =>
    rw [jsonItems, jsonChars_eq_spelled item, jsonItems_eq_spelled false rest, writtenItems,
      itemTokens, spelled_append, spelled_append, List.append_assoc]
    cases first <;> rfl

private theorem jsonMembers_eq_spelled (first : Bool) (entries : List (String × Value)) :
    jsonMembers first entries = spelled (memberTokens first (writtenMembers entries)) := by
  match entries with
  | [] => rfl
  | (key, value) :: rest =>
    rw [jsonMembers, writtenMembers]
    by_cases skipped : value.isSkipped = true
    · rw [if_pos skipped, if_pos skipped]
      exact jsonMembers_eq_spelled first rest
    · rw [if_neg skipped, if_neg skipped, jsonChars_eq_spelled value,
        jsonMembers_eq_spelled false rest, memberTokens, spelled_append, spelled_cons, spelled_cons,
        spelled_append]
      simp only [List.append_assoc, List.cons_append]
      cases first <;> rfl

end

private theorem closing_itemTokens (items : List Json) {after : List Token}
    (closing : Closing after) :
    Closing (itemTokens false items ++ after) := by
  cases items with
  | nil => exact closing
  | cons item rest => exact trivial

private theorem closing_memberTokens (members : List (String × Json)) {after : List Token}
    (closing : Closing after) : Closing (memberTokens false members ++ after) := by
  cases members with
  | nil => exact closing
  | cons member rest => exact trivial

private theorem fits_number {x : Double} (finite : x.isFinite = true) {after : List Token}
    (closing : Closing after) : (Token.number x.toText.toList).Fits after :=
  ⟨fun _ ends => Double.scanNumber_toText finite ends, closing⟩

mutual

/-- What a value is written as is read again, with any tokens behind it that end a number. -/
theorem legible_written (v : Value) {after : List Token} (legible : Legible after)
    (closing : Closing after) : Legible (v.written.tokens ++ after) := by
  match v with
  | .undefined | .null | .function _ | .bool _ | .text _ => exact ⟨trivial, legible⟩
  | .number x =>
    rw [written]
    split
    · rename_i finite
      exact ⟨fits_number finite closing, legible⟩
    · exact ⟨trivial, legible⟩
  | .object _ entries =>
    have close : Legible (.closeRecord :: after) := ⟨trivial, legible⟩
    have inner := legible_writtenMembers true entries close trivial
    simp only [written, tokens, List.cons_append, List.append_assoc, List.nil_append]
    exact ⟨trivial, inner⟩
  | .array _ items =>
    have close : Legible (.closeList :: after) := ⟨trivial, legible⟩
    have inner := legible_writtenItems true items close trivial
    simp only [written, tokens, List.cons_append, List.append_assoc, List.nil_append]
    exact ⟨trivial, inner⟩

private theorem legible_writtenItems (first : Bool) (items : List Value) {after : List Token}
    (legible : Legible after) (closing : Closing after) :
    Legible (itemTokens first (writtenItems items) ++ after) := by
  match items with
  | [] => exact legible
  | item :: rest =>
    have later := legible_writtenItems false rest legible closing
    have here := legible_written item later (closing_itemTokens (writtenItems rest) closing)
    simp only [writtenItems, itemTokens, List.append_assoc]
    cases first with
    | true => exact here
    | false => exact ⟨trivial, here⟩

private theorem legible_writtenMembers (first : Bool) (entries : List (String × Value))
    {after : List Token} (legible : Legible after) (closing : Closing after) :
    Legible (memberTokens first (writtenMembers entries) ++ after) := by
  match entries with
  | [] => exact legible
  | (key, value) :: rest =>
    rw [writtenMembers]
    by_cases skipped : value.isSkipped = true
    · rw [if_pos skipped]
      exact legible_writtenMembers first rest legible closing
    · rw [if_neg skipped]
      have later := legible_writtenMembers false rest legible closing
      have here := legible_written value later (closing_memberTokens (writtenMembers rest) closing)
      simp only [memberTokens, List.append_assoc, List.cons_append]
      cases first with
      | true => exact ⟨trivial, trivial, here⟩
      | false => exact ⟨trivial, trivial, trivial, here⟩

end

section Spaced

variable {v : Value} {text : List Char}

theorem legible_tokens (v : Value) : Legible v.written.tokens := by
  have none : Legible [] := trivial
  have legible := v.legible_written none trivial
  rwa [List.append_nil] at legible

/-- The tokens that a value is written as parse as the document it spells, with any blanks between
them. -/
theorem parse?_of_spaced (shallow : v.depth ≤ Json.maxDepth)
    (spaced : Spaced text v.written.tokens) : Json.parse? text = some v.written :=
  Json.parse?_of_tokens (Nat.le_trans (depth_written v) shallow)
    (spaced.tokens?_eq v.legible_tokens)

theorem strip_of_spaced (spaced : Spaced text v.written.tokens) :
    strip .outside text = v.jsonChars :=
  (spaced.strip_eq v.legible_tokens).trans v.jsonChars_eq_spelled.symm

end Spaced

end Value

end ExprTree
