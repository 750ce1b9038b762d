import AsmShell.Proofs.Scanning

/-!
# What a scan takes as one lexeme

While a scan reads the characters of a lexeme, the patterns that remain possible
take few forms: after the first letter of a name they are a repetition that each
further letter leaves as it is, and between the quotes of a text they are the same
behind every character that is written out.  A lexeme is the longest match as soon
as one of the remaining patterns accepts and the next character leaves none.
-/

namespace AsmShell.Text

open Pattern

variable {Label : Type}

/-- Whether some text of the pattern may begin with the character. -/
def Pattern.begins (character : Char) : Pattern → Bool
  | .never => false
  | .empty => false
  | .oneOf accepts => accepts character
  | .seq first second =>
      first.begins character || (first.acceptsEmpty && second.begins character)
  | .alt left right => left.begins character || right.begins character
  | .star body => body.begins character

/-- Nothing is left of a pattern behind a character with which none of its texts begins. -/
theorem Pattern.derivative_eq_never
    {character : Char}
    {pattern : Pattern}
    (excluded : pattern.begins character = false) :
    pattern.derivative character = .never := by
  induction pattern with
  | never =>
      rfl
  | empty =>
      rfl
  | oneOf accepts =>
      have rejected : accepts character = false := excluded
      rw [derivative, rejected]
      rfl
  | seq first second firstHypothesis secondHypothesis =>
      simp only [begins, Bool.or_eq_false_iff, Bool.and_eq_false_iff] at excluded
      rcases excluded with ⟨firstExcluded, notEmpty | secondExcluded⟩
      · rw [derivative, firstHypothesis firstExcluded, notEmpty]
        rfl
      · rw [derivative, firstHypothesis firstExcluded, secondHypothesis secondExcluded]
        exact ite_self _
  | alt left right leftHypothesis rightHypothesis =>
      simp only [begins, Bool.or_eq_false_iff] at excluded
      rw [derivative, leftHypothesis excluded.1, rightHypothesis excluded.2]
      rfl
  | star body bodyHypothesis =>
      have bodyExcluded : body.begins character = false := excluded
      rw [derivative, bodyHypothesis bodyExcluded]
      rfl

/-- The patterns that cannot begin with the character are of no use. -/
theorem derivatives_filter_begins
    (character : Char)
    (patterns : List (Label × Pattern)) :
    derivatives character (patterns.filter fun entry => entry.2.begins character) =
      derivatives character patterns := by
  induction patterns with
  | nil =>
      rfl
  | cons entry others othersHypothesis =>
      rw [List.filter_cons]
      cases begins : entry.2.begins character with
      | true =>
          rw [if_pos rfl, derivatives, List.map_cons, List.filter_cons, derivatives,
            List.map_cons, List.filter_cons]
          rw [derivatives, derivatives] at othersHypothesis
          rw [othersHypothesis]
      | false =>
          rw [if_neg Bool.false_ne_true, othersHypothesis, derivatives, derivatives,
            List.map_cons, List.filter_cons, derivative_eq_never begins]
          rfl

/-! ## The patterns that remain -/

/-- The labelled patterns that remain possible after a text. -/
def remaining (patterns : List (Label × Pattern)) (text : List Char) :
    List (Label × Pattern) :=
  text.foldl (fun left character => derivatives character left) patterns

theorem remaining_append
    (patterns : List (Label × Pattern))
    (front back : List Char) :
    remaining patterns (front ++ back) = remaining (remaining patterns front) back :=
  List.foldl_append

/-- Patterns that every character of a text leaves as they are stay so behind the text. -/
theorem remaining_eq_self
    {patterns : List (Label × Pattern)}
    {text : List Char}
    (kept : ∀ character ∈ text, derivatives character patterns = patterns) :
    remaining patterns text = patterns := by
  induction text with
  | nil =>
      rfl
  | cons character rest restHypothesis =>
      rcases List.forall_mem_cons.1 kept with ⟨first, others⟩
      show remaining (derivatives character patterns) rest = patterns
      rw [first]
      exact restHypothesis others

/-- What matches behind a text matches with the text in front. -/
theorem matchedLabel_remaining
    (patterns : List (Label × Pattern))
    (front back : List Char) :
    matchedLabel (remaining patterns front) back = matchedLabel patterns (front ++ back) := by
  induction front generalizing patterns with
  | nil =>
      rfl
  | cons character rest restHypothesis =>
      show matchedLabel (remaining (derivatives character patterns) rest) back = _
      rw [restHypothesis, matchedLabel_derivatives]
      rfl

/-- A text is the longest match if the next character leaves no pattern. -/
theorem LongestMatch.of_remaining
    {patterns : List (Label × Pattern)}
    {label : Label}
    {front back : List Char}
    (nonempty : front ≠ [])
    (accepted : acceptedLabel (remaining patterns front) = some label)
    (stuck : ∀ next ∈ back.head?, derivatives next (remaining patterns front) = []) :
    LongestMatch patterns label front back where
  nonempty := nonempty
  matched := by
    rw [← List.append_nil front, ← matchedLabel_remaining]
    exact accepted
  maximal := by
    intro more isPrefix isNonempty
    cases more with
    | nil =>
        exact absurd rfl isNonempty
    | cons next others =>
        rcases isPrefix with ⟨rest, rfl⟩
        rw [← matchedLabel_remaining, ← matchedLabel_derivatives, stuck next rfl]
        rfl

/-- A beginning after which one class of characters repeats goes on to the end of the class. -/
theorem LongestMatch.of_repetition
    {patterns : List (Label × Pattern)}
    {label : Label}
    {accepts : Char → Bool}
    {start run back : List Char}
    (nonempty : start ≠ [])
    (repeats : remaining patterns start = [(label, .star (.oneOf accepts))])
    (accepted : ∀ character ∈ run, accepts character = true)
    (ended : ∀ next ∈ back.head?, accepts next = false) :
    LongestMatch patterns label (start ++ run) back := by
  have kept : remaining patterns (start ++ run) = [(label, .star (.oneOf accepts))] := by
    rw [remaining_append, repeats]
    apply remaining_eq_self
    intro character member
    simp [derivatives, derivative, accepted character member, joined, isNever]
  apply LongestMatch.of_remaining
  · simp [nonempty]
  · rw [kept]
    rfl
  · intro next isNext
    rw [kept]
    simp [derivatives, derivative, ended next isNext, joined, isNever]

end AsmShell.Text

namespace AsmShell

open Text Text.Pattern

/-! ## First characters -/

/-- Names are written in ASCII. -/
theorem le_of_isNameChar
    {character : Char}
    (accepted : isNameChar character = true) :
    character ≤ '\x7f' := by
  simp only [isNameChar, isNameStart, isDigit, Bool.or_eq_true, Bool.and_eq_true,
    decide_eq_true_eq, beq_iff_eq] at accepted
  rcases accepted with ((⟨_, upper⟩ | ⟨_, upper⟩) | rfl) | ⟨_, upper⟩
  · exact Char.le_trans upper (by decide)
  · exact Char.le_trans upper (by decide)
  · decide
  · exact Char.le_trans upper (by decide)

theorem isNameChar_of_isNameStart
    {character : Char}
    (starts : isNameStart character = true) :
    isNameChar character = true := by
  rw [isNameChar, starts, Bool.true_or]

theorem isNameChar_of_isDigit
    {character : Char}
    (accepted : isDigit character = true) :
    isNameChar character = true := by
  rw [isNameChar, accepted, Bool.or_true]

/-- What is checked of the first 128 characters holds of every character of a name. -/
theorem forall_isNameChar
    {property : Char → Prop}
    (checked : ∀ code < 128,
      isNameChar (Char.ofNat code) = true → property (Char.ofNat code)) :
    ∀ character, isNameChar character = true → property character := by
  intro character accepted
  have small : character.toNat ≤ 127 := le_of_isNameChar accepted
  have holds := checked character.toNat (Nat.lt_succ_of_le small)
  rw [Char.ofNat_toNat] at holds
  exact holds accepted

/-- The beginning of a name begins no other lexeme than a bare name. -/
theorem filter_begins_of_isNameStart
    {first : Char}
    (starts : isNameStart first = true) :
    Lexeme.all.filter (fun lexeme => lexeme.pattern.begins first) = [.token .identifier] := by
  have checked :
      ∀ character, isNameChar character = true → isNameStart character = true →
        Lexeme.all.filter (fun lexeme => lexeme.pattern.begins character) =
          [.token .identifier] := by
    apply forall_isNameChar
    decide +kernel
  exact checked first (isNameChar_of_isNameStart starts) starts

/-- Only the lexemes that a character can begin are left behind it. -/
theorem derivatives_patterns
    (character : Char) :
    derivatives character Lexeme.patterns =
      derivatives character
        ((Lexeme.all.filter fun lexeme => lexeme.pattern.begins character).map
          fun lexeme => (lexeme, lexeme.pattern)) := by
  rw [← derivatives_filter_begins, Lexeme.patterns, List.filter_map]
  rfl

/-! ## Names -/

/-- Behind the first character of a bare name, its other characters are all that can follow. -/
theorem remaining_nameStart
    {first : Char}
    (starts : isNameStart first = true) :
    remaining Lexeme.patterns [first] =
      [(.token .identifier, .star (.oneOf isBareNameChar))] := by
  show derivatives first Lexeme.patterns = _
  rw [derivatives_patterns, filter_begins_of_isNameStart starts]
  simp [derivatives, Lexeme.pattern, TokenKind.pattern, Spelling.identifier, derivative,
    acceptsEmpty, starts, joined, isNever]

/-- A bare name is taken as far as its characters go. -/
theorem longestMatch_identifier
    {first : Char}
    {rest back : List Char}
    (starts : isNameStart first = true)
    (goesOn : ∀ character ∈ rest, isBareNameChar character = true)
    (ended : ∀ next ∈ back.head?, isBareNameChar next = false) :
    LongestMatch Lexeme.patterns (.token .identifier) (first :: rest) back :=
  .of_repetition (List.cons_ne_nil first []) (remaining_nameStart starts) goesOn ended

/-- A variable is taken as far as its characters go; a point ends it. -/
theorem longestMatch_reference
    {first : Char}
    {rest back : List Char}
    (starts : isNameStart first = true)
    (goesOn : ∀ character ∈ rest, isNameChar character = true)
    (ended : ∀ next ∈ back.head?, isNameChar next = false) :
    LongestMatch Lexeme.patterns (.token .reference) ('$' :: first :: rest) back := by
  have repeats :
      remaining Lexeme.patterns ['$', first] =
        [(.token .reference, .star (.oneOf isNameChar))] := by
    show derivatives first
      [(Lexeme.token .reference, .seq (.oneOf isNameStart) (.star (.oneOf isNameChar)))] = _
    simp [derivatives, derivative, acceptsEmpty, starts, joined, isNever]
  exact .of_repetition (List.cons_ne_nil '$' [first]) repeats goesOn ended

/-! ## Separators and symbols -/

/-- A space is a separator by itself where no other one follows. -/
theorem longestMatch_space
    {back : List Char}
    (ended : ∀ next ∈ back.head?, isSeparator next = false) :
    LongestMatch Lexeme.patterns .separators [' '] back := by
  have noMore : ∀ character ∈ ([] : List Char), isSeparator character = true := by simp
  exact .of_repetition (List.cons_ne_nil ' ' []) rfl noMore ended

/-- A character that turns some symbol into a longer one. -/
def prolongsSymbol (character : Char) : Bool :=
  character ∈ ['=', '&', '|', '<', '>']

/-- A symbol is taken as a whole where the next character does not begin the rest of a longer one.
-/
theorem longestMatch_symbol
    {kind : TokenKind}
    {symbol : String}
    (written : kind.symbol? = some symbol)
    {back : List Char}
    (ended : ∀ next ∈ back.head?, prolongsSymbol next = false) :
    LongestMatch Lexeme.patterns (.token kind) symbol.toList back := by
  apply LongestMatch.of_remaining
  · cases kind <;> cases written <;> exact List.cons_ne_nil _ _
  · cases kind <;> cases written <;> rfl
  · intro next isNext
    have differs := ended next isNext
    simp only [prolongsSymbol, List.mem_cons, List.not_mem_nil, or_false, decide_eq_false_iff_not,
      not_or] at differs
    -- Behind most symbols only the empty text is left, whatever the next character is.
    cases kind with
    | greater =>
        cases written
        show derivatives next
          [(Lexeme.token .greater, .empty), (.token .greaterEqual, .char '='),
            (.token .doubleGreater, .char '>')] = []
        simp [derivatives, derivative, Pattern.char, isNever, differs]
    | less =>
        cases written
        show derivatives next
          [(Lexeme.token .less, .empty), (.token .lessEqual, .char '='),
            (.token .doubleLess, .char '<')] = []
        simp [derivatives, derivative, Pattern.char, isNever, differs]
    | ampersand =>
        cases written
        show derivatives next
          [(Lexeme.token .doubleAmpersand, .char '&'), (.token .ampersand, .empty)] = []
        simp [derivatives, derivative, Pattern.char, isNever, differs]
    | bar =>
        cases written
        show derivatives next [(Lexeme.token .doubleBar, .char '|'), (.token .bar, .empty)] = []
        simp [derivatives, derivative, Pattern.char, isNever, differs]
    | bang =>
        cases written
        show derivatives next [(Lexeme.token .bangEqual, .char '='), (.token .bang, .empty)] = []
        simp [derivatives, derivative, Pattern.char, isNever, differs]
    | _ =>
        cases written <;> rfl

/-! ## Numbers -/

def decimalDigits : List Char :=
  ['0', '1', '2', '3', '4', '5', '6', '7', '8', '9']

theorem mem_decimalDigits
    {digit : Char}
    (accepted : isDigit digit = true) :
    digit ∈ decimalDigits := by
  have checked :
      ∀ character, isNameChar character = true → isDigit character = true →
        character ∈ decimalDigits := by
    apply forall_isNameChar
    decide +kernel
  exact checked digit (isNameChar_of_isDigit accepted) accepted

/-- What may follow the whole part of a number. -/
def afterDigits : List (Lexeme × Pattern) :=
  [(.token .float,
    .alt
      (.seq (.star (.oneOf isDigit))
        (.inOrder [.char '.', Spelling.digits, .optional Spelling.exponent]))
      (.seq (.star (.oneOf isDigit)) Spelling.exponent)),
   (.token .integer, .star (.oneOf isDigit))]

/-- A digit leads to the patterns behind digits, unless it is a zero in front, which may begin
another base. -/
theorem derivatives_digit
    {digit : Char}
    (accepted : isDigit digit = true) :
    derivatives digit afterDigits = afterDigits ∧
      derivatives digit (derivatives '0' Lexeme.patterns) = afterDigits ∧
      (digit ≠ '0' → derivatives digit Lexeme.patterns = afterDigits) := by
  have listed := mem_decimalDigits accepted
  simp only [decimalDigits, List.mem_cons, List.not_mem_nil, or_false] at listed
  rcases listed with rfl | rfl | rfl | rfl | rfl | rfl | rfl | rfl | rfl | rfl
  · exact ⟨rfl, rfl, fun different => absurd rfl different⟩
  all_goals exact ⟨rfl, rfl, fun _ => rfl⟩

theorem remaining_digits
    {rest : List Char}
    (allDigits : ∀ digit ∈ rest, isDigit digit = true) :
    remaining afterDigits rest = afterDigits :=
  remaining_eq_self fun digit member => (derivatives_digit (allDigits digit member)).1

/-- Behind a space or a parenthesis no operand goes on. -/
def EndsOperand (back : List Char) : Prop :=
  ∀ next ∈ back.head?, next = ' ' ∨ next = ')'

/-- Digits in front of what ends an operand are an integer. -/
theorem longestMatch_digits
    {first : Char}
    {rest back : List Char}
    (firstDigit : isDigit first = true)
    (restDigits : ∀ digit ∈ rest, isDigit digit = true)
    (ended : EndsOperand back) :
    LongestMatch Lexeme.patterns (.token .integer) (first :: rest) back := by
  have settled :
      remaining Lexeme.patterns (first :: rest) = afterDigits →
        LongestMatch Lexeme.patterns (.token .integer) (first :: rest) back := by
    intro after
    apply LongestMatch.of_remaining (List.cons_ne_nil first rest)
    · rw [after]
      rfl
    · intro next isNext
      rw [after]
      rcases ended next isNext with rfl | rfl <;> rfl
  by_cases zero : first = '0'
  · subst zero
    cases rest with
    | nil =>
        -- The zero could be the beginning of a number in another base.
        apply LongestMatch.of_remaining (List.cons_ne_nil '0' [])
        · rfl
        · intro next isNext
          rcases ended next isNext with rfl | rfl <;> rfl
    | cons second others =>
        rcases List.forall_mem_cons.1 restDigits with ⟨secondDigit, othersDigits⟩
        apply settled
        show remaining (derivatives second (derivatives '0' Lexeme.patterns)) others = afterDigits
        rw [(derivatives_digit secondDigit).2.1]
        exact remaining_digits othersDigits
  · apply settled
    show remaining (derivatives first Lexeme.patterns) rest = afterDigits
    rw [(derivatives_digit firstDigit).2.2 zero]
    exact remaining_digits restDigits

/-! ## Texts -/

/-- What may follow an opening quote. -/
def afterQuote : List (Lexeme × Pattern) :=
  [(.token .string, .seq Spelling.stringBody (.char '"')),
   (.token .unclosedString, Spelling.stringBody)]

/-- A plain character leaves a string open. -/
theorem derivatives_plain
    {character : Char}
    (notQuote : character ≠ '"')
    (notBackslash : character ≠ '\\') :
    derivatives character afterQuote = afterQuote := by
  simp [derivatives, afterQuote, Spelling.stringBody, derivative, Pattern.char, acceptsEmpty,
    notQuote, notBackslash, joined, either, isNever]

/-- So does an escaped one, but for a line feed. -/
theorem derivatives_escaped
    {character : Char}
    (notLineFeed : character ≠ '\n') :
    derivatives character (derivatives '\\' afterQuote) = afterQuote := by
  simp [derivatives, afterQuote, Spelling.stringBody, derivative, Pattern.char, acceptsEmpty,
    notLineFeed, joined, either, isNever]

end AsmShell
