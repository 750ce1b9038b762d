import AsmShell.Proofs.Lexemes

/-!
# The lexeme that a text spells

A text is spelled by one lexeme at most.  Most lexemes are told apart by their first
character alone.  A number is a float if the first character behind its leading
digits is a point or the mark of an exponent.  What begins with a quote is a closed
text if it contains a quote that no backslash escapes.

`Lexeme.ofText?` puts these observations together, and the main statement,
`Lexeme.ofText?_of_matches`, says that the pattern of each lexeme agrees with it.
-/

namespace AsmShell

open Text Text.Pattern

/-! ## Repeated classes and fixed texts -/

theorem matches_star_oneOf_iff
    (accepts : Char → Bool)
    (text : List Char) :
    Matches (.star (.oneOf accepts)) text ↔ ∀ character ∈ text, accepts character = true := by
  induction text with
  | nil =>
      simpa using Matches.starNil
  | cons first rest restHypothesis =>
      rw [matches_star_cons_iff, List.forall_mem_cons, ← restHypothesis]
      constructor
      · rintro ⟨front, back, rfl, firstMatched, restMatched⟩
        rcases (matches_oneOf_iff _ _).1 firstMatched with ⟨character, same, accepted⟩
        cases same
        exact ⟨accepted, restMatched⟩
      · rintro ⟨accepted, restMatched⟩
        exact ⟨[], rest, rfl, .oneOf accepted, restMatched⟩

/-- What begins a repetition that is not empty, and what goes on with it, is of the class. -/
theorem exists_cons_of_matches_plus
    {accepts : Char → Bool}
    {text : List Char}
    (matched : Matches (.plus (.oneOf accepts)) text) :
    ∃ first rest,
      text = first :: rest ∧ ∀ character ∈ first :: rest, accepts character = true := by
  rcases (matches_seq_iff _ _ _).1 matched with ⟨front, back, rfl, frontMatched, backMatched⟩
  rcases (matches_oneOf_iff _ _).1 frontMatched with ⟨first, rfl, accepted⟩
  exact ⟨first, back, rfl,
    List.forall_mem_cons.2 ⟨accepted, (matches_star_oneOf_iff _ _).1 backMatched⟩⟩

theorem eq_of_matches_char
    {wanted : Char}
    {text : List Char}
    (matched : Matches (Pattern.char wanted) text) :
    text = [wanted] := by
  rcases (matches_oneOf_iff _ _).1 matched with ⟨character, rfl, same⟩
  rw [eq_of_beq same]

theorem eq_of_matches_literal
    {symbol text : List Char}
    (matched : Matches (Pattern.literal symbol) text) :
    text = symbol := by
  induction symbol generalizing text with
  | nil =>
      exact (matches_empty_iff text).1 matched
  | cons first others othersHypothesis =>
      cases others with
      | nil =>
          exact eq_of_matches_char matched
      | cons second rest =>
          rcases (matches_seq_iff _ _ _).1 matched with
            ⟨front, back, rfl, frontMatched, backMatched⟩
          rw [eq_of_matches_char frontMatched, othersHypothesis backMatched]
          rfl

/-! ## Names -/

theorem exists_cons_of_matches_identifier
    {text : List Char}
    (matched : Spelling.identifier.Matches text) :
    ∃ first rest, text = first :: rest ∧ isNameStart first = true := by
  rcases (matches_seq_iff _ _ _).1 matched with ⟨front, rest, rfl, frontMatched, _⟩
  rcases (matches_oneOf_iff _ _).1 frontMatched with ⟨first, rfl, starts⟩
  exact ⟨first, rest, rfl, starts⟩

theorem exists_cons_of_matches_reference
    {text : List Char}
    (matched : Spelling.reference.Matches text) :
    ∃ name, text = '$' :: name := by
  rcases (matches_seq_iff _ _ _).1 matched with ⟨front, name, rfl, frontMatched, _⟩
  rw [eq_of_matches_char frontMatched]
  exact ⟨name, rfl⟩

/-! ## Numbers -/

/-- Whether the leading digits of the text are followed by a point or the mark of an exponent. -/
def hasFraction (text : List Char) : Bool :=
  (text.dropWhile isDigit).head?.any fun next => next == '.' || isExponentMark next

theorem hasFraction_digits_append
    {digits back : List Char}
    (allDigits : ∀ digit ∈ digits, isDigit digit = true) :
    hasFraction (digits ++ back) = hasFraction back := by
  rw [hasFraction, hasFraction, List.dropWhile_append_of_pos allDigits]

theorem hasFraction_exponent
    {text : List Char}
    (matched : Spelling.exponent.Matches text) :
    hasFraction text = true := by
  rcases (matches_seq_iff _ _ _).1 matched with ⟨front, rest, rfl, frontMatched, _⟩
  rcases (matches_oneOf_iff _ _).1 frontMatched with ⟨mark, rfl, isMark⟩
  have listed : mark = 'e' ∨ mark = 'E' := by
    simpa [isExponentMark] using isMark
  rcases listed with rfl | rfl
  · rfl
  · rfl

/-- A float begins with a digit or a point, and its digits are followed by more than digits. -/
theorem exists_cons_of_matches_float
    {text : List Char}
    (matched : Spelling.float.Matches text) :
    hasFraction text = true ∧
      ∃ first rest, text = first :: rest ∧ (isDigit first = true ∨ first = '.') := by
  rcases (matches_alt_iff _ _ _).1 matched with withWhole | matched
  · rcases (matches_seq_iff _ _ _).1 withWhole with
      ⟨digits, rest, rfl, digitsMatched, restMatched⟩
    rcases (matches_seq_iff _ _ _).1 restMatched with ⟨point, more, rfl, pointMatched, _⟩
    rcases exists_cons_of_matches_plus digitsMatched with ⟨first, others, rfl, allDigits⟩
    rw [eq_of_matches_char pointMatched, hasFraction_digits_append allDigits]
    exact ⟨rfl, first, _, rfl, Or.inl (allDigits first List.mem_cons_self)⟩
  rcases (matches_alt_iff _ _ _).1 matched with withoutWhole | withExponent
  · rcases (matches_seq_iff _ _ _).1 withoutWhole with ⟨point, rest, rfl, pointMatched, _⟩
    rw [eq_of_matches_char pointMatched]
    exact ⟨rfl, '.', rest, rfl, Or.inr rfl⟩
  · rcases (matches_seq_iff _ _ _).1 withExponent with
      ⟨digits, rest, rfl, digitsMatched, restMatched⟩
    rcases exists_cons_of_matches_plus digitsMatched with ⟨first, others, rfl, allDigits⟩
    rw [hasFraction_digits_append allDigits]
    exact ⟨hasFraction_exponent restMatched, first, _, rfl,
      Or.inl (allDigits first List.mem_cons_self)⟩

/-- The letter that names a base ends the leading digits and begins no fraction. -/
theorem hasFraction_based
    {lower upper : Char}
    {isBaseDigit : Char → Bool}
    {text : List Char}
    (lowerEnds : isDigit lower = false ∧ hasFraction [lower] = false)
    (upperEnds : isDigit upper = false ∧ hasFraction [upper] = false)
    (matched : (Spelling.based lower upper isBaseDigit).Matches text) :
    hasFraction text = false ∧ ∃ rest, text = '0' :: rest := by
  rcases (matches_seq_iff _ _ _).1 matched with ⟨zero, behind, rfl, zeroMatched, behindMatched⟩
  rcases (matches_seq_iff _ _ _).1 behindMatched with ⟨front, digits, rfl, frontMatched, _⟩
  rcases (matches_oneOf_iff _ _).1 frontMatched with ⟨mark, rfl, isMark⟩
  rw [eq_of_matches_char zeroMatched]
  refine ⟨?_, _, rfl⟩
  have markEnds : isDigit mark = false ∧ hasFraction [mark] = false := by
    simp only [Bool.or_eq_true, beq_iff_eq] at isMark
    rcases isMark with rfl | rfl
    · exact lowerEnds
    · exact upperEnds
  rcases markEnds with ⟨notDigit, noFraction⟩
  show hasFraction (mark :: digits) = false
  rw [hasFraction, List.dropWhile_cons, notDigit] at noFraction ⊢
  exact noFraction

/-- A whole number begins with a digit, and no fraction follows its digits. -/
theorem exists_cons_of_matches_integer
    {text : List Char}
    (matched : Spelling.integer.Matches text) :
    hasFraction text = false ∧ ∃ first rest, text = first :: rest ∧ isDigit first = true := by
  have ofBased :
      (hasFraction text = false ∧ ∃ rest, text = '0' :: rest) →
        hasFraction text = false ∧ ∃ first rest, text = first :: rest ∧ isDigit first = true := by
    rintro ⟨noFraction, rest, rfl⟩
    exact ⟨noFraction, '0', rest, rfl, rfl⟩
  rcases (matches_alt_iff _ _ _).1 matched with decimal | matched
  · rcases exists_cons_of_matches_plus decimal with ⟨first, rest, rfl, allDigits⟩
    refine ⟨?_, first, rest, rfl, allDigits first List.mem_cons_self⟩
    rw [← List.append_nil (first :: rest), hasFraction_digits_append allDigits]
    rfl
  rcases (matches_alt_iff _ _ _).1 matched with hexadecimal | matched
  · exact ofBased (hasFraction_based ⟨rfl, rfl⟩ ⟨rfl, rfl⟩ hexadecimal)
  rcases (matches_alt_iff _ _ _).1 matched with binary | octal
  · exact ofBased (hasFraction_based ⟨rfl, rfl⟩ ⟨rfl, rfl⟩ binary)
  · exact ofBased (hasFraction_based ⟨rfl, rfl⟩ ⟨rfl, rfl⟩ octal)

/-! ## Texts between quotes -/

/-- Induction over the plain characters and the escapes that stand behind a quote. -/
@[elab_as_elim]
theorem stringBody_induction
    {motive : List Char → Prop}
    (empty : motive [])
    (plain : ∀ character rest,
      character ≠ '"' → character ≠ '\\' → motive rest → motive (character :: rest))
    (escaped : ∀ character rest,
      character ≠ '\n' → motive rest → motive ('\\' :: character :: rest))
    {body : List Char}
    (matched : Spelling.stringBody.Matches body) :
    motive body := by
  induction counted : body.length using Nat.strongRecOn generalizing body with
  | ind count shorter =>
      cases body with
      | nil =>
          exact empty
      | cons first others =>
          rcases (matches_star_cons_iff _ _ _).1 matched with
            ⟨piece, rest, rfl, pieceMatched, restMatched⟩
          -- The first piece is one plain character or a pair, so the rest is shorter.
          have fewer : rest.length < count := by
            simp only [List.length_cons, List.length_append] at counted
            omega
          have restHypothesis : motive rest := shorter rest.length fewer restMatched rfl
          rcases (matches_alt_iff _ _ _).1 pieceMatched with plainMatched | pairMatched
          · rcases (matches_oneOf_iff _ _).1 plainMatched with ⟨character, same, accepted⟩
            cases same
            simp only [Bool.and_eq_true, bne_iff_ne] at accepted
            exact plain first rest accepted.1 accepted.2 restHypothesis
          · rcases (matches_seq_iff _ _ _).1 pairMatched with
              ⟨backslash, behind, parts, backslashMatched, behindMatched⟩
            rcases (matches_oneOf_iff _ _).1 behindMatched with ⟨character, rfl, accepted⟩
            rw [eq_of_matches_char backslashMatched] at parts
            cases parts
            exact escaped character rest (bne_iff_ne.1 accepted) restHypothesis

theorem matches_stringBody_plain
    {character : Char}
    {rest : List Char}
    (notQuote : character ≠ '"')
    (notBackslash : character ≠ '\\')
    (matched : Spelling.stringBody.Matches rest) :
    Spelling.stringBody.Matches (character :: rest) := by
  show Matches _ ([character] ++ rest)
  exact .starCons (.altLeft (.oneOf (by simp [notQuote, notBackslash]))) matched

theorem matches_stringBody_escaped
    {character : Char}
    {rest : List Char}
    (notLineFeed : character ≠ '\n')
    (matched : Spelling.stringBody.Matches rest) :
    Spelling.stringBody.Matches ('\\' :: character :: rest) := by
  show Matches _ (['\\'] ++ [character] ++ rest)
  exact .starCons (.altRight (.seq (.oneOf rfl) (.oneOf (bne_iff_ne.2 notLineFeed)))) matched

theorem matches_stringBody_append
    {front back : List Char}
    (frontMatched : Spelling.stringBody.Matches front)
    (backMatched : Spelling.stringBody.Matches back) :
    Spelling.stringBody.Matches (front ++ back) := by
  refine stringBody_induction ?empty ?plain ?escaped frontMatched
  case empty =>
      exact backMatched
  case plain =>
      intro character rest notQuote notBackslash restHypothesis
      exact matches_stringBody_plain notQuote notBackslash restHypothesis
  case escaped =>
      intro character rest notLineFeed restHypothesis
      exact matches_stringBody_escaped notLineFeed restHypothesis

/-- What stands between quotes is a text of the body between two quotes. -/
theorem exists_body_of_matches_string
    {text : List Char}
    (matched : Spelling.string.Matches text) :
    ∃ body, text = '"' :: (body ++ ['"']) ∧ Spelling.stringBody.Matches body := by
  rcases (matches_seq_iff _ _ _).1 matched with
    ⟨opening, behind, rfl, openingMatched, behindMatched⟩
  rcases (matches_seq_iff _ _ _).1 behindMatched with
    ⟨body, closing, rfl, bodyMatched, closingMatched⟩
  rw [eq_of_matches_char openingMatched, eq_of_matches_char closingMatched]
  exact ⟨body, rfl, bodyMatched⟩

theorem exists_body_of_matches_unclosedString
    {text : List Char}
    (matched : Spelling.unclosedString.Matches text) :
    ∃ body, text = '"' :: body ∧ Spelling.stringBody.Matches body := by
  rcases (matches_seq_iff _ _ _).1 matched with ⟨opening, body, rfl, openingMatched, bodyMatched⟩
  rw [eq_of_matches_char openingMatched]
  exact ⟨body, rfl, bodyMatched⟩

theorem remaining_stringBody
    {body : List Char}
    (matched : Spelling.stringBody.Matches body) :
    remaining afterQuote body = afterQuote := by
  refine stringBody_induction ?empty ?plain ?escaped matched
  case empty =>
      rfl
  case plain =>
      intro character rest notQuote notBackslash restHypothesis
      show remaining (derivatives character afterQuote) rest = afterQuote
      rw [derivatives_plain notQuote notBackslash, restHypothesis]
  case escaped =>
      intro character rest notLineFeed restHypothesis
      show remaining (derivatives character (derivatives '\\' afterQuote)) rest = afterQuote
      rw [derivatives_escaped notLineFeed, restHypothesis]

/-- Whatever follows it, a closed text ends with its second quote. -/
theorem longestMatch_string
    {text : List Char}
    (matched : Spelling.string.Matches text)
    (back : List Char) :
    LongestMatch Lexeme.patterns (.token .string) text back := by
  rcases exists_body_of_matches_string matched with ⟨body, rfl, bodyMatched⟩
  have closed :
      remaining Lexeme.patterns ('"' :: (body ++ ['"'])) = [(.token .string, .empty)] := by
    show remaining afterQuote (body ++ ['"']) = _
    rw [remaining_append, remaining_stringBody bodyMatched]
    rfl
  apply LongestMatch.of_remaining
  · exact List.cons_ne_nil _ _
  · rw [closed]
    rfl
  · intro next _
    rw [closed]
    rfl

/-- Whether the text contains a quote that no backslash escapes. -/
def hasPlainQuote : List Char → Bool
  | [] => false
  | '\\' :: _ :: rest => hasPlainQuote rest
  | character :: rest => character == '"' || hasPlainQuote rest

theorem hasPlainQuote_append
    {body : List Char}
    (matched : Spelling.stringBody.Matches body)
    (back : List Char) :
    hasPlainQuote (body ++ back) = hasPlainQuote back := by
  refine stringBody_induction ?empty ?plain ?escaped matched
  case empty =>
      rfl
  case plain =>
      intro character rest notQuote notBackslash restHypothesis
      rw [List.cons_append, hasPlainQuote, restHypothesis, beq_eq_false_iff_ne.2 notQuote,
        Bool.false_or]
      intro _ _ isBackslash
      exact absurd isBackslash notBackslash
  case escaped =>
      intro character rest _ restHypothesis
      exact restHypothesis

/-! ## One lexeme for each text -/

/-- The lexeme that the text spells, if it spells any. -/
def Lexeme.ofText? (text : List Char) : Option Lexeme :=
  match text with
  | [] => none
  | first :: rest =>
      if isSeparator first then some .separators
      else if isNameStart first then some (.token .identifier)
      else if first == '$' then some (.token .reference)
      else if first == '"' then
        some (.token (if hasPlainQuote rest then .string else .unclosedString))
      else if isDigit first || first == '.' then
        some (.token (if hasFraction text then .float else .integer))
      else
        Lexeme.all.find? fun
          | .token kind => kind.symbol? == some (String.ofList text)
          | .separators => false

theorem isSeparator_eq_false_of_isNameStart
    {character : Char}
    (starts : isNameStart character = true) :
    isSeparator character = false := by
  have checked :
      ∀ character, isNameChar character = true → isSeparator character = false := by
    apply forall_isNameChar
    decide +kernel
  exact checked character (isNameChar_of_isNameStart starts)

theorem Lexeme.ofText?_number
    {first : Char}
    (isFirst : isDigit first = true ∨ first = '.')
    (rest : List Char) :
    Lexeme.ofText? (first :: rest) =
      some (.token (if hasFraction (first :: rest) then .float else .integer)) := by
  rcases isFirst with digit | rfl
  · have listed := mem_decimalDigits digit
    simp only [decimalDigits, List.mem_cons, List.not_mem_nil, or_false] at listed
    rcases listed with rfl | rfl | rfl | rfl | rfl | rfl | rfl | rfl | rfl | rfl
    all_goals rfl
  · rfl

theorem Lexeme.ofText?_symbol
    {kind : TokenKind}
    {symbol : String}
    (written : kind.symbol? = some symbol) :
    Lexeme.ofText? symbol.toList = some (.token kind) := by
  cases kind <;> cases written <;> decide +kernel

theorem Lexeme.ofText?_token
    {kind : TokenKind}
    {text : List Char}
    (matched : kind.pattern.Matches text) :
    Lexeme.ofText? text = some (.token kind) := by
  have ofSymbol (symbol : String) (written : kind.symbol? = some symbol)
      (spelled : Matches (.literal symbol.toList) text) :
      Lexeme.ofText? text = some (.token kind) := by
    rw [eq_of_matches_literal spelled]
    exact Lexeme.ofText?_symbol written
  cases kind with
  | identifier =>
      rcases exists_cons_of_matches_identifier matched with ⟨first, rest, rfl, starts⟩
      simp [Lexeme.ofText?, isSeparator_eq_false_of_isNameStart starts, starts]
  | integer =>
      rcases exists_cons_of_matches_integer matched with ⟨whole, first, rest, rfl, isFirst⟩
      rw [Lexeme.ofText?_number (Or.inl isFirst), whole]
      rfl
  | float =>
      rcases exists_cons_of_matches_float matched with ⟨fraction, first, rest, rfl, isFirst⟩
      rw [Lexeme.ofText?_number isFirst, fraction]
      rfl
  | string =>
      rcases exists_body_of_matches_string matched with ⟨body, rfl, bodyMatched⟩
      show some (Lexeme.token
        (if hasPlainQuote (body ++ ['"']) then .string else .unclosedString)) = _
      rw [hasPlainQuote_append bodyMatched]
      rfl
  | unclosedString =>
      rcases exists_body_of_matches_unclosedString matched with ⟨body, rfl, bodyMatched⟩
      show some (Lexeme.token (if hasPlainQuote body then .string else .unclosedString)) = _
      rw [← List.append_nil body, hasPlainQuote_append bodyMatched]
      rfl
  | reference =>
      rcases exists_cons_of_matches_reference matched with ⟨name, rfl⟩
      rfl
  | unknown =>
      exact absurd matched (not_matches_never text)
  | endOfLine =>
      exact absurd matched (not_matches_never text)
  | _ =>
      -- Every other kind has a fixed spelling.
      exact ofSymbol _ rfl matched

/-- A text that a lexeme spells spells this lexeme only. -/
theorem Lexeme.ofText?_of_matches
    {lexeme : Lexeme}
    {text : List Char}
    (matched : lexeme.pattern.Matches text) :
    Lexeme.ofText? text = some lexeme := by
  cases lexeme with
  | separators =>
      rcases exists_cons_of_matches_plus matched with ⟨first, rest, rfl, separate⟩
      simp [Lexeme.ofText?, separate first List.mem_cons_self]
  | token kind =>
      exact Lexeme.ofText?_token matched

end AsmShell
