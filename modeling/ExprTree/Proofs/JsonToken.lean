import ExprTree.Json.Token
import ExprTree.Proofs.Utf8
import ExprTree.Text.Quoted

/-!
Tokens of written JSON. A quoted text is read as the text, whatever follows it, and a text that
starts with a token continues with the tokens of what is behind it.
-/
namespace ExprTree.Json

open Text

theorem unitChar_toNat (c : Char) : unitChar c.toNat = c := by
  rw [unitChar, Utf8.scalar?_toNat]
  rfl

private theorem digitValue_hexDigit : ∀ n < 16, Numeral.digitValue (hexDigit n) = n := by
  decide

/-- Four digits of base 16 read as the code unit they were made of. -/
theorem unitOfHex?_digits {code : Nat} (small : code < 65536) :
    unitOfHex? [hexDigit (code / 4096 % 16), hexDigit (code / 256 % 16), hexDigit (code / 16 % 16),
      hexDigit (code % 16)] = some code := by
  have digit : ∀ n, Numeral.digitValue (hexDigit (n % 16)) = n % 16 := fun n =>
    digitValue_hexDigit _ (Nat.mod_lt n (by decide))
  have value : ((code / 4096 % 16 * 16 + code / 256 % 16) * 16 + code / 16 % 16) * 16 +
      code % 16 = code := by omega
  rw [unitOfHex?, if_pos]
  · simp only [Numeral.valueOf, List.foldl_cons, List.foldl_nil, digit, Nat.zero_mul, Nat.zero_add,
      value]
  · simp only [List.all_cons, List.all_nil, digit, Bool.and_true, Bool.and_eq_true,
      decide_eq_true_eq]
    omega

private theorem scanPieces_unitEscape {code : Nat} (small : code < 65536) (rest : List Char) :
    scanPieces (unitEscape code ++ rest) =
      (scanPieces rest).map fun (pieces, after) => (.unit code :: pieces, after) := by
  simp only [unitEscape, List.cons_append, List.nil_append, scanPieces, unitOfHex?_digits small]
  cases scanPieces rest <;> rfl

private theorem scanPieces_plain {c : Char} (quote : c ≠ '"') (escape : c ≠ '\\')
    (printed : ¬ c.toNat < 0x20)
    (rest : List Char) :
    scanPieces (c :: rest) =
      (scanPieces rest).map fun (pieces, after) => (.char c :: pieces, after) := by
  rw [scanPieces.eq_def (c :: rest)]
  split
  · rename_i front
    cases front
    exact absurd rfl quote
  · rename_i front
    cases front
    exact absurd rfl escape
  · rename_i front
    cases front
    exact absurd rfl escape
  · rename_i front
    cases front
    rw [if_neg (by simp [printed, escape])]
    cases scanPieces rest <;> rfl
  · rename_i front
    cases front

/-- A code unit below the surrogates is joined to nothing. -/
theorem joinPieces_unit {code : Nat} (low : code < 0xD800) (pieces : List Piece) :
    joinPieces (.unit code :: pieces) = unitChar code :: joinPieces pieces := by
  rw [joinPieces.eq_def (.unit code :: pieces)]
  split
  · rename_i front
    cases front
  · rename_i front
    cases front
  · rename_i front
    cases front
    rw [if_neg (by omega)]
  · rename_i front
    cases front
    rfl

private theorem scanPieces_short {mark c : Char} (other : mark ≠ 'u')
    (escape : shortEscape? mark = some c)
    (rest : List Char) :
    scanPieces ('\\' :: mark :: rest) =
      (scanPieces rest).map fun (pieces, after) => (.char c :: pieces, after) := by
  rw [scanPieces.eq_def ('\\' :: mark :: rest)]
  split
  · rename_i front
    cases front
  · rename_i front
    cases front
    exact absurd rfl other
  · rename_i front
    cases front
    rw [escape]
    cases scanPieces rest <;> rfl
  · rename_i plain front
    cases front
    exact absurd rfl (plain mark rest rfl)
  · rename_i front
    cases front

/-- One quoted character is read as a piece that stands for it. -/
theorem scanPieces_quotedChar (c : Char) :
    ∃ piece,
      (∀ rest, scanPieces (quotedChar c ++ rest) =
        (scanPieces rest).map fun (pieces, after) => (piece :: pieces, after)) ∧
      ∀ pieces, joinPieces (piece :: pieces) = c :: joinPieces pieces := by
  by_cases short : c ∈ ['"', '\\', '\x08', '\x0c', '\n', '\r', '\t']
  · refine ⟨.char c, fun rest => ?_, fun pieces => rfl⟩
    simp only [List.mem_cons, List.not_mem_nil, or_false] at short
    rcases short with rfl | rfl | rfl | rfl | rfl | rfl | rfl <;>
      exact scanPieces_short (by decide) rfl rest
  · simp only [List.mem_cons, List.not_mem_nil, or_false, not_or] at short
    obtain ⟨quote, escape, backspace, feed, newline, carriage, tab⟩ := short
    simp only [quotedChar, quote, escape, backspace, feed, newline, carriage, tab, if_false]
    split
    · rename_i escaped
      have low : c.toNat < 0xD800 := by
        simp only [Bool.or_eq_true, decide_eq_true_eq] at escaped
        rcases escaped with ((((small | rfl) | rfl) | rfl) | rfl) | rfl
        · omega
        all_goals decide
      refine ⟨.unit c.toNat, scanPieces_unitEscape (by omega), fun pieces => ?_⟩
      rw [joinPieces_unit low, unitChar_toNat]
    · rename_i printed
      refine ⟨.char c, scanPieces_plain quote escape ?_, fun pieces => rfl⟩
      intro small
      simp [small] at printed

private theorem scanPieces_quoted (chars : List Char) :
    ∃ pieces, joinPieces pieces = chars ∧
      ∀ rest, scanPieces (chars.flatMap quotedChar ++ '"' :: rest) = some (pieces, rest) := by
  induction chars with
  | nil => exact ⟨[], rfl, fun rest => rfl⟩
  | cons c chars ih =>
    obtain ⟨pieces, joined, scanned⟩ := ih
    obtain ⟨piece, reads, stands⟩ := scanPieces_quotedChar c
    refine ⟨piece :: pieces, by rw [stands, joined], fun rest => ?_⟩
    rw [List.flatMap_cons, List.append_assoc, reads, scanned]
    rfl

/-- A quoted text is one token. -/
theorem scanToken_quoted (text : String) (rest : List Char) :
    scanToken (quoted text ++ rest) = some (.text text, rest) := by
  obtain ⟨pieces, joined, scanned⟩ := scanPieces_quoted text.toList
  have layout : quoted text ++ rest = '"' :: (text.toList.flatMap quotedChar ++ '"' :: rest) := by
    simp [quoted]
  simp [layout, scanToken, scanned, joined]

/-- A text that starts with a digit or a minus starts with a number. -/
theorem scanToken_number {c : Char} {text spelling rest : List Char}
    (front : c.isDigit = true ∨ c = '-') (scanned : scanNumber (c :: text) = some (spelling, rest)) :
    scanToken (c :: text) = some (.number spelling, rest) := by
  have other : ∀ mark : Char, mark.isDigit = false → mark ≠ '-' → c ≠ mark := by
    rintro mark letter dash rfl
    rcases front with digit | minus
    · rw [letter] at digit
      cases digit
    · exact dash minus
  unfold scanToken
  split <;> rename_i same <;> first
    | (cases same; exact absurd rfl (other _ (by decide) (by decide)))
    | (rw [scanned]; rfl)

theorem isBlank_of_isDigit {c : Char} (digit : c.isDigit = true) : isBlank c = false := by
  cases blank : isBlank c with
  | false => rfl
  | true =>
    simp only [isBlank, Bool.or_eq_true, beq_iff_eq] at blank
    rcases blank with ((rfl | rfl) | rfl) | rfl <;> cases digit

/-- More rounds than needed change nothing. -/
theorem scanTokens_mono {rounds more : Nat} {text : List Char} {tokens : List Token}
    (scanned : scanTokens rounds text = some tokens) (enough : rounds ≤ more) :
    scanTokens more text = some tokens := by
  induction rounds generalizing more text tokens with
  | zero =>
    rw [scanTokens] at scanned ⊢
    split at scanned
    · exact scanned
    · cases scanned
  | succ rounds ih =>
    obtain ⟨more, rfl⟩ : ∃ fewer, more = fewer + 1 := ⟨more - 1, by omega⟩
    rw [scanTokens] at scanned ⊢
    split at scanned
    · exact scanned
    · rename_i c rest _
      dsimp only at scanned ⊢
      cases token : scanToken (c :: rest) with
      | none =>
        rw [token] at scanned
        cases scanned
      | some found =>
        rw [token] at scanned
        obtain ⟨others, later, rfl⟩ := Option.map_eq_some_iff.mp scanned
        dsimp only
        rw [ih later (by omega)]
        rfl

/-- The tokens of a text are its first one and those behind it. -/
theorem tokens?_cons {c : Char} {text rest : List Char} {token : Token} {tokens : List Token}
    (visible : isBlank c = false) (first : scanToken (c :: (text ++ rest)) = some (token, rest))
    (others : tokens? rest = some tokens) :
    tokens? (c :: (text ++ rest)) = some (token :: tokens) := by
  have shorter : rest.length ≤ (text ++ rest).length := by simp
  unfold tokens?
  rw [List.length_cons, scanTokens, List.dropWhile_cons_of_neg (by simp [visible])]
  dsimp only
  rw [first]
  dsimp only
  rw [scanTokens_mono others shorter]
  rfl

end ExprTree.Json
