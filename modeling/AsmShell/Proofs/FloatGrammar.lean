import AsmShell.Number.Decimal
import AsmShell.Proofs.Spellings

/-!
# The grammar of floating-point numbers

A floating-point number may be written with a sign, and then as the name of an infinity
or of the value that is no number, in either case, or as digits with an optional point in
front of, among or behind them and an optional power of ten.  `isSome_readFloat?_iff` says
that these are exactly the texts that are read as a number.
-/

namespace AsmShell

open Text Text.Pattern

namespace FloatGrammar

/-- The letters of a word, each of them in either case. -/
def word : List Char → Pattern
  | [] => .empty
  | letter :: rest => .seq (.oneOf fun character => character.toLower == letter) (word rest)

/-- Digits, at least one, with an optional point in front of, among or behind them. -/
def mantissa : Pattern :=
  .anyOf
    [Spelling.digits,
     .inOrder [Spelling.digits, .char '.', .star (.oneOf isDigit)],
     .inOrder [.star (.oneOf isDigit), .char '.', Spelling.digits]]

def number : Pattern :=
  .seq mantissa (.optional Spelling.exponent)

def magnitude : Pattern :=
  .anyOf [word "inf".toList, word "infinity".toList, word "nan".toList, number]

/-- An optional sign in front of a text of the pattern. -/
def signed (body : Pattern) : Pattern :=
  .seq (.optional (.oneOf isSign)) body

def float : Pattern :=
  signed magnitude

end FloatGrammar

open FloatGrammar

/-! ## Characters and words -/

/-- The first character of a text that matches is one that the pattern begins with. -/
theorem begins_of_matches
    {pattern : Pattern}
    {first : Char}
    {rest : List Char}
    (matched : pattern.Matches (first :: rest)) :
    pattern.begins first = true := by
  cases excluded : pattern.begins first with
  | true =>
      rfl
  | false =>
      have continued := (matches_derivative_iff _ _ _).2 matched
      rw [Pattern.derivative_eq_never excluded] at continued
      exact absurd continued (not_matches_never rest)

theorem matches_oneOf_seq_iff
    (accepts : Char → Bool)
    (second : Pattern)
    (text : List Char) :
    Matches (.seq (.oneOf accepts) second) text ↔
      ∃ first rest, text = first :: rest ∧ accepts first = true ∧ second.Matches rest := by
  constructor
  · intro matched
    rcases (matches_seq_iff _ _ _).1 matched with ⟨front, rest, rfl, frontMatched, restMatched⟩
    rcases (matches_oneOf_iff _ _).1 frontMatched with ⟨first, rfl, accepted⟩
    exact ⟨first, rest, rfl, accepted, restMatched⟩
  · rintro ⟨first, rest, rfl, accepted, restMatched⟩
    exact .seq (.oneOf accepted) restMatched

/-- Digits are a text of digits that is not empty. -/
theorem matches_digits_iff
    (text : List Char) :
    Spelling.digits.Matches text ↔ text ≠ [] ∧ ∀ digit ∈ text, isDigit digit = true := by
  rw [Spelling.digits, Pattern.plus, matches_oneOf_seq_iff]
  constructor
  · rintro ⟨first, rest, rfl, firstDigit, restMatched⟩
    exact ⟨List.cons_ne_nil _ _,
      List.forall_mem_cons.2 ⟨firstDigit, (matches_star_oneOf_iff _ _).1 restMatched⟩⟩
  · rintro ⟨nonempty, allDigits⟩
    rcases List.exists_cons_of_ne_nil nonempty with ⟨first, rest, rfl⟩
    rcases List.forall_mem_cons.1 allDigits with ⟨firstDigit, restDigits⟩
    exact ⟨first, rest, rfl, firstDigit, (matches_star_oneOf_iff _ _).2 restDigits⟩

/-- A word is matched in any mixture of cases. -/
theorem matches_word_iff
    (letters text : List Char) :
    (word letters).Matches text ↔ text.map Char.toLower = letters := by
  induction letters generalizing text with
  | nil =>
      rw [word, matches_empty_iff, List.map_eq_nil_iff]
  | cons letter others othersHypothesis =>
      rw [word, matches_oneOf_seq_iff, List.map_eq_cons_iff]
      simp only [othersHypothesis, beq_iff_eq]

/-! ## Signs -/

theorem splitSign_of_isSign
    {first : Char}
    (sign : isSign first = true)
    (rest : List Char) :
    (Number.splitSign (first :: rest)).2 = rest := by
  simp only [isSign, Bool.or_eq_true, beq_iff_eq] at sign
  rcases sign with rfl | rfl
  · rfl
  · rfl

theorem splitSign_of_not_isSign
    {text : List Char}
    (unsigned : ∀ first ∈ text.head?, isSign first = false) :
    (Number.splitSign text).2 = text := by
  unfold Number.splitSign
  split
  · exact absurd (unsigned '-' rfl) (by decide)
  · exact absurd (unsigned '+' rfl) (by decide)
  · rfl

/-- In front of what begins with no sign, a sign is split off. -/
theorem matches_signed_iff
    {body : Pattern}
    (unsigned : ∀ first, isSign first = true → body.begins first = false)
    (text : List Char) :
    (signed body).Matches text ↔ body.Matches (Number.splitSign text).2 := by
  have withoutSign {text : List Char} (matched : body.Matches text) :
      ∀ first ∈ text.head?, isSign first = false := by
    intro first isFirst
    rcases List.head?_eq_some_iff.1 isFirst with ⟨rest, rfl⟩
    cases sign : isSign first with
    | false =>
        rfl
    | true =>
        have begins := begins_of_matches matched
        rw [unsigned first sign] at begins
        cases begins
  constructor
  · intro matched
    rcases (matches_seq_iff _ _ _).1 matched with ⟨front, back, rfl, frontMatched, backMatched⟩
    rcases (matches_alt_iff _ _ _).1 frontMatched with signMatched | nothing
    · rcases (matches_oneOf_iff _ _).1 signMatched with ⟨first, rfl, sign⟩
      rwa [List.singleton_append, splitSign_of_isSign sign]
    · rw [(matches_empty_iff _).1 nothing, List.nil_append,
        splitSign_of_not_isSign (withoutSign backMatched)]
      exact backMatched
  · intro matched
    cases text with
    | nil =>
        exact .seq (.altRight .empty) matched
    | cons first rest =>
        by_cases sign : isSign first = true
        · rw [splitSign_of_isSign sign] at matched
          exact .seq (.altLeft (.oneOf sign)) matched
        · rw [splitSign_of_not_isSign (by simpa using sign)] at matched
          exact .seq (.altRight .empty) matched

/-! ## Powers of ten -/

/-- The reader of exponents accepts what the pattern does, an exponent that is left out included.
-/
theorem isSome_readExponent?_iff
    (text : List Char) :
    (Number.readExponent? text).isSome = true ↔
      (Pattern.optional Spelling.exponent).Matches text := by
  cases text with
  | nil =>
      exact iff_of_true rfl (.altRight .empty)
  | cons mark rest =>
      have unsigned : ∀ first, isSign first = true → Spelling.digits.begins first = false := by
        intro first sign
        simp only [isSign, Bool.or_eq_true, beq_iff_eq] at sign
        rcases sign with rfl | rfl <;> decide
      have isExponent :
          Spelling.exponent.Matches (mark :: rest) ↔
            isExponentMark mark = true ∧ (signed Spelling.digits).Matches rest := by
        show Matches (.seq (.oneOf isExponentMark) (signed Spelling.digits)) _ ↔ _
        rw [matches_oneOf_seq_iff]
        constructor
        · rintro ⟨_, _, same, isMark, digitsMatched⟩
          cases same
          exact ⟨isMark, digitsMatched⟩
        · rintro ⟨isMark, digitsMatched⟩
          exact ⟨mark, rest, rfl, isMark, digitsMatched⟩
      rw [Pattern.optional, matches_alt_iff, matches_empty_iff, isExponent,
        matches_signed_iff unsigned, matches_digits_iff]
      simp [Number.readExponent?, and_assoc]

/-! ## Digits and points -/

/-- What follows neither goes on with digits nor has a point. -/
theorem ends_of_matches_exponent
    {tail : List Char}
    (matched : (Pattern.optional Spelling.exponent).Matches tail) :
    ∀ next ∈ tail.head?, isDigit next = false ∧ next ≠ '.' := by
  intro next isNext
  rcases List.head?_eq_some_iff.1 isNext with ⟨rest, rfl⟩
  rcases (matches_alt_iff _ _ _).1 matched with isExponent | nothing
  · rcases (matches_oneOf_seq_iff _ _ _).1 isExponent with ⟨mark, _, same, isMark, _⟩
    cases same
    simp only [isExponentMark, Bool.or_eq_true, beq_iff_eq] at isMark
    rcases isMark with rfl | rfl <;> decide
  · cases (matches_empty_iff _).1 nothing

section

variable
    {whole tail : List Char}
    (wholeDigits : ∀ digit ∈ whole, isDigit digit = true)

include wholeDigits

/-- Digits are taken up to a text that does not begin with one. -/
theorem takeWhile_digits_append
    (ended : ∀ next ∈ tail.head?, isDigit next = false) :
    (whole ++ tail).takeWhile isDigit = whole ∧ (whole ++ tail).dropWhile isDigit = tail := by
  rw [List.takeWhile_append_of_pos wholeDigits, List.dropWhile_append_of_pos wholeDigits]
  cases tail with
  | nil =>
      simp
  | cons next rest =>
      simp [ended next rfl]

/-- A number with no point needs digits in front of its exponent. -/
theorem isSome_readDecimal?_whole
    (ended : ∀ next ∈ tail.head?, isDigit next = false ∧ next ≠ '.') :
    (Number.readDecimal? (whole ++ tail)).isSome = true ↔
      whole ≠ [] ∧ (Number.readExponent? tail).isSome = true := by
  rcases takeWhile_digits_append wholeDigits fun next isNext => (ended next isNext).1 with
    ⟨taken, dropped⟩
  simp only [Number.readDecimal?, taken, dropped]
  split
  · exact absurd rfl (ended '.' rfl).2
  · cases whole <;> simp

/-- A number with a point needs digits on one side of it. -/
theorem isSome_readDecimal?_point
    {fraction : List Char}
    (fractionDigits : ∀ digit ∈ fraction, isDigit digit = true)
    (ended : ∀ next ∈ tail.head?, isDigit next = false) :
    (Number.readDecimal? (whole ++ '.' :: (fraction ++ tail))).isSome = true ↔
      (whole ≠ [] ∨ fraction ≠ []) ∧ (Number.readExponent? tail).isSome = true := by
  have pointEnds : ∀ next ∈ ('.' :: (fraction ++ tail)).head?, isDigit next = false := by
    rintro next ⟨⟩
    rfl
  rcases takeWhile_digits_append wholeDigits pointEnds with ⟨taken, dropped⟩
  rcases takeWhile_digits_append fractionDigits ended with ⟨fractionTaken, fractionDropped⟩
  simp only [Number.readDecimal?, taken, dropped, fractionTaken, fractionDropped]
  cases whole with
  | nil => cases fraction <;> simp
  | cons digit others => simp

end

/-- Digits stand in front of what begins with no digit. -/
theorem exists_digits_append
    (text : List Char) :
    ∃ digits tail,
      text = digits ++ tail ∧ (∀ digit ∈ digits, isDigit digit = true) ∧
        ∀ next ∈ tail.head?, isDigit next = false := by
  refine ⟨text.takeWhile isDigit, text.dropWhile isDigit, ?_, ?_, ?_⟩
  · exact List.takeWhile_append_dropWhile.symm
  · exact List.all_eq_true.1 List.all_takeWhile
  · intro next isNext
    have rejected := List.head?_dropWhile_not isDigit text
    rw [Option.mem_def.1 isNext] at rejected
    exact rejected

theorem matches_point_iff
    (first second : Pattern)
    (text : List Char) :
    Matches (.seq first (.seq (.char '.') second)) text ↔
      ∃ whole fraction,
        text = whole ++ '.' :: fraction ∧ first.Matches whole ∧ second.Matches fraction := by
  constructor
  · intro matched
    rcases (matches_seq_iff _ _ _).1 matched with ⟨whole, behind, rfl, wholeMatched, matched⟩
    rcases (matches_oneOf_seq_iff _ _ _).1 matched with ⟨point, fraction, rfl, isPoint, matched⟩
    rw [eq_of_beq isPoint]
    exact ⟨whole, fraction, rfl, wholeMatched, matched⟩
  · rintro ⟨whole, fraction, rfl, wholeMatched, fractionMatched⟩
    exact .seq wholeMatched ((matches_oneOf_seq_iff _ _ _).2
      ⟨'.', fraction, rfl, rfl, fractionMatched⟩)

/-- The three ways to write a mantissa: digits alone, or a point with digits on one side or on
both. -/
theorem matches_mantissa_iff
    (text : List Char) :
    mantissa.Matches text ↔
      Spelling.digits.Matches text ∨
        ∃ whole fraction,
          text = whole ++ '.' :: fraction ∧ (∀ digit ∈ whole, isDigit digit = true) ∧
            (∀ digit ∈ fraction, isDigit digit = true) ∧ (whole ≠ [] ∨ fraction ≠ []) := by
  show Matches
    (.alt Spelling.digits
      (.alt (.seq Spelling.digits (.seq (.char '.') (.star (.oneOf isDigit))))
        (.seq (.star (.oneOf isDigit)) (.seq (.char '.') Spelling.digits)))) text ↔ _
  rw [matches_alt_iff, matches_alt_iff, matches_point_iff, matches_point_iff]
  refine or_congr_right ⟨?_, ?_⟩
  · rintro (⟨whole, fraction, rfl, wholeMatched, fractionMatched⟩ |
      ⟨whole, fraction, rfl, wholeMatched, fractionMatched⟩)
    · rcases (matches_digits_iff _).1 wholeMatched with ⟨nonempty, wholeDigits⟩
      exact ⟨whole, fraction, rfl, wholeDigits, (matches_star_oneOf_iff _ _).1 fractionMatched,
        Or.inl nonempty⟩
    · rcases (matches_digits_iff _).1 fractionMatched with ⟨nonempty, fractionDigits⟩
      exact ⟨whole, fraction, rfl, (matches_star_oneOf_iff _ _).1 wholeMatched, fractionDigits,
        Or.inr nonempty⟩
  · rintro ⟨whole, fraction, rfl, wholeDigits, fractionDigits, nonempty | nonempty⟩
    · exact Or.inl ⟨whole, fraction, rfl, (matches_digits_iff _).2 ⟨nonempty, wholeDigits⟩,
        (matches_star_oneOf_iff _ _).2 fractionDigits⟩
    · exact Or.inr ⟨whole, fraction, rfl, (matches_star_oneOf_iff _ _).2 wholeDigits,
        (matches_digits_iff _).2 ⟨nonempty, fractionDigits⟩⟩

/-- The reader of decimal numbers accepts exactly the numbers of the grammar. -/
theorem isSome_readDecimal?_iff
    (text : List Char) :
    (Number.readDecimal? text).isSome = true ↔ number.Matches text := by
  rw [number, matches_seq_iff]
  simp only [matches_mantissa_iff, ← isSome_readExponent?_iff]
  constructor
  · intro read
    rcases exists_digits_append text with ⟨whole, behind, rfl, wholeDigits, wholeEnds⟩
    by_cases point : behind.head? = some '.'
    · rcases List.head?_eq_some_iff.1 point with ⟨behindPoint, rfl⟩
      rcases exists_digits_append behindPoint with
        ⟨fraction, tail, rfl, fractionDigits, fractionEnds⟩
      rcases (isSome_readDecimal?_point wholeDigits fractionDigits fractionEnds).1 read with
        ⟨nonempty, exponent⟩
      exact ⟨whole ++ '.' :: fraction, tail, by simp,
        Or.inr ⟨whole, fraction, rfl, wholeDigits, fractionDigits, nonempty⟩, exponent⟩
    · have ended : ∀ next ∈ behind.head?, isDigit next = false ∧ next ≠ '.' := by
        intro next isNext
        refine ⟨wholeEnds next isNext, ?_⟩
        rintro rfl
        exact point isNext
      rcases (isSome_readDecimal?_whole wholeDigits ended).1 read with ⟨nonempty, exponent⟩
      exact ⟨whole, behind, rfl, Or.inl ((matches_digits_iff _).2 ⟨nonempty, wholeDigits⟩),
        exponent⟩
  · rintro ⟨front, tail, rfl, mantissa, exponent⟩
    have ended := ends_of_matches_exponent ((isSome_readExponent?_iff tail).1 exponent)
    rcases mantissa with digits | ⟨whole, fraction, rfl, wholeDigits, fractionDigits, nonempty⟩
    · rcases (matches_digits_iff _).1 digits with ⟨nonempty, allDigits⟩
      exact (isSome_readDecimal?_whole allDigits ended).2 ⟨nonempty, exponent⟩
    · rw [List.append_assoc, List.cons_append]
      exact (isSome_readDecimal?_point wholeDigits fractionDigits
        fun next isNext => (ended next isNext).1).2 ⟨nonempty, exponent⟩

/-! ## Whole texts -/

/-- With the words for infinity and for what is no number, these are the magnitudes of the
grammar. -/
theorem isSome_readMagnitude?_iff
    (text : List Char) :
    (Number.readMagnitude? text).isSome = true ↔ magnitude.Matches text := by
  have named (letters : String) :
      String.ofList (text.map Char.toLower) = letters ↔ (word letters.toList).Matches text := by
    rw [matches_word_iff, ← String.toList_inj, String.toList_ofList]
  show _ ↔ Matches
    (.alt (word "inf".toList)
      (.alt (word "infinity".toList) (.alt (word "nan".toList) number))) text
  rw [matches_alt_iff, matches_alt_iff, matches_alt_iff, ← named, ← named, ← named,
    ← isSome_readDecimal?_iff, Number.readMagnitude?]
  generalize String.ofList (text.map Char.toLower) = lowered
  by_cases infinite : lowered = "inf" ∨ lowered = "infinity"
  · rw [← or_assoc]
    simp [infinite]
  · rw [← or_assoc]
    by_cases noNumber : lowered = "nan"
    · simp [noNumber]
    · simp [infinite, noNumber]

/-- Exactly the texts of the grammar are read as floating-point numbers. -/
theorem isSome_readFloat?_iff
    (text : String) :
    (Number.readFloat? text).isSome = true ↔ FloatGrammar.float.Matches text.toList := by
  have unsigned : ∀ first, isSign first = true → magnitude.begins first = false := by
    intro first sign
    simp only [isSign, Bool.or_eq_true, beq_iff_eq] at sign
    rcases sign with rfl | rfl <;> decide
  rw [FloatGrammar.float, matches_signed_iff unsigned, ← isSome_readMagnitude?_iff,
    Number.readFloat?, Option.isSome_map]

/-- The spelling of floats is part of the grammar. -/
theorem matches_float_of_spelling
    {text : List Char}
    (matched : Spelling.float.Matches text) :
    FloatGrammar.float.Matches text := by
  have ofNumber
      {front tail : List Char}
      (frontMatched : mantissa.Matches front)
      (tailMatched : (Pattern.optional Spelling.exponent).Matches tail) :
      FloatGrammar.float.Matches (front ++ tail) := by
    have isNumber : number.Matches (front ++ tail) := .seq frontMatched tailMatched
    rw [← List.nil_append (front ++ tail)]
    exact .seq (.altRight .empty) (.altRight (.altRight (.altRight isNumber)))
  have ofPointed
      {whole behind : List Char}
      (wholeDigits : ∀ digit ∈ whole, isDigit digit = true)
      (behindMatched :
        Matches (.seq Spelling.digits (.optional Spelling.exponent)) behind) :
      FloatGrammar.float.Matches (whole ++ '.' :: behind) := by
    rcases (matches_seq_iff _ _ _).1 behindMatched with
      ⟨fraction, tail, rfl, fractionMatched, tailMatched⟩
    rcases (matches_digits_iff _).1 fractionMatched with ⟨nonempty, fractionDigits⟩
    rw [← List.cons_append, ← List.append_assoc]
    exact ofNumber ((matches_mantissa_iff _).2
      (Or.inr ⟨whole, fraction, rfl, wholeDigits, fractionDigits, Or.inr nonempty⟩)) tailMatched
  rcases (matches_alt_iff _ _ _).1 matched with withWhole | matched
  · rcases (matches_point_iff _ _ _).1 withWhole with
      ⟨whole, behind, rfl, wholeMatched, behindMatched⟩
    exact ofPointed ((matches_digits_iff _).1 wholeMatched).2 behindMatched
  rcases (matches_alt_iff _ _ _).1 matched with withoutWhole | withExponent
  · rcases (matches_oneOf_seq_iff _ _ _).1 withoutWhole with
      ⟨point, behind, rfl, isPoint, behindMatched⟩
    rw [eq_of_beq isPoint]
    exact ofPointed (List.forall_mem_nil _) behindMatched
  · rcases (matches_seq_iff _ _ _).1 withExponent with
      ⟨digits, tail, rfl, digitsMatched, tailMatched⟩
    exact ofNumber (.altLeft digitsMatched) (.altLeft tailMatched)

end AsmShell
