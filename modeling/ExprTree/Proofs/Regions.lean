import ExprTree.Json.Indent
import ExprTree.Proofs.Spelling
import ExprTree.Text.Quoted

/-!
Where the characters of a written JSON text stand. Between its quotes a written text never comes to
an end early, and words and numbers have none of the characters that mean something outside of
quotes.
-/
namespace ExprTree.Json

/-- Every character of a text stands between quotes, and what follows it stands in the last
region. -/
inductive Within : Region → List Char → Region → Prop where
  | nil (region : Region) : Within region [] region
  | cons {region last : Region} {c : Char} {rest : List Char} (inner : region ≠ .outside)
      (others : Within (region.next c) rest last) : Within region (c :: rest) last

theorem Within.append {region middle last : Region} {first second : List Char}
    (within : Within region first middle) (other : Within middle second last) :
    Within region (first ++ second) last := by
  induction within with
  | nil => exact other
  | cons inner _ ih => exact .cons inner (ih other)

/-- A character that neither ends a text nor starts an escape. -/
theorem within_plain {c : Char} (quote : c ≠ '"') (escape : c ≠ '\\') :
    Within .inText [c] .inText := by
  refine .cons (by decide) ?_
  rw [Region.next, if_neg escape, if_neg quote]
  exact .nil _

private theorem within_escape (c : Char) : Within .inText ['\\', c] .inText :=
  .cons (by decide) (.cons (by decide) (.nil _))

private theorem hexDigit_plain : ∀ n < 16, Text.hexDigit n ≠ '"' ∧ Text.hexDigit n ≠ '\\' := by
  decide

private theorem within_unitEscape (code : Nat) : Within .inText (Text.unitEscape code) .inText := by
  have digit : ∀ n, Within .inText [Text.hexDigit (n % 16)] .inText := fun n =>
    have plain := hexDigit_plain (n % 16) (Nat.mod_lt n (by decide))
    within_plain plain.1 plain.2
  exact (((within_escape 'u').append (digit _)).append (digit _)).append
    ((digit _).append (digit _))

private theorem within_quotedChar (c : Char) : Within .inText (Text.quotedChar c) .inText := by
  unfold Text.quotedChar
  iterate 7
    split
    · exact within_escape _
  split
  · exact within_unitEscape _
  · exact within_plain ‹_› ‹_›

/-- Behind its first quote a written text stays between quotes. -/
theorem within_quoted (chars : List Char) :
    Within .inText (chars.flatMap Text.quotedChar ++ ['"']) .outside := by
  induction chars with
  | nil => exact .cons (by decide) (.nil _)
  | cons c rest ih =>
    rw [List.flatMap_cons, List.append_assoc]
    exact (within_quotedChar c).append ih

/-- A character outside of texts that is no mark, no quote and no blank. -/
def IsWordChar (c : Char) : Prop :=
  c ∉ [' ', '\t', '\n', '\r', '{', '}', '[', ']', ',', ':', '"']

instance (c : Char) : Decidable (IsWordChar c) :=
  inferInstanceAs (Decidable (¬ _))

/-- Only such characters. -/
def IsWord (text : List Char) : Prop :=
  ∀ c ∈ text, IsWordChar c

instance (text : List Char) : Decidable (IsWord text) :=
  List.decidableBAll _ text

theorem IsWordChar.next {c : Char} (plain : IsWordChar c) : Region.outside.next c = .outside := by
  refine if_neg ?_
  rintro rfl
  exact plain (by decide)

theorem isWordChar_of_isLiteralChar {c : Char} (literal : Numeral.IsLiteralChar c) :
    IsWordChar c := by
  intro member
  simp only [List.mem_cons, List.not_mem_nil, or_false] at member
  rcases member with rfl | rfl | rfl | rfl | rfl | rfl | rfl | rfl | rfl | rfl | rfl <;>
    revert literal <;> decide

end ExprTree.Json
