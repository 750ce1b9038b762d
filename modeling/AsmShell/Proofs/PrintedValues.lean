import AsmShell.Proofs.Grammar
import AsmShell.Proofs.Spellings

/-!
# Printed values are read back

The printed form of a value is the spelling of one token, and what this token says is
the value again.  This fails for what has no literal of its own: a negative integer is
printed with a sign, which is a token by itself, and a text with an escape that is not
undone is read back as another text.
-/

namespace AsmShell

open Text Text.Quoted

/-! ## Characters of numbers -/

theorem isDigit_of_mem_toDigits
    {digit : Char}
    {number : Nat}
    (member : digit ∈ Nat.toDigits 10 number) :
    isDigit digit = true :=
  Nat.isDigit_of_mem_toDigits (by decide) (by decide) member

/-- The characters that numbers are printed with. -/
def isNumberChar (character : Char) : Bool :=
  isDigit character || ['-', '.', 'N', 'a', 'i', 'n', 'f'].contains character

theorem isNumberChar_of_mem_toDigits
    {digit : Char}
    {number : Nat}
    (member : digit ∈ Nat.toDigits 10 number) :
    isNumberChar digit = true := by
  rw [isNumberChar, isDigit_of_mem_toDigits member, Bool.true_or]

/-- A minus in front of a number adds no other character. -/
theorem isNumberChar_of_mem_signed
    {isNegative : Prop}
    [Decidable isNegative]
    {magnitude : List Char}
    (numbers : ∀ character ∈ magnitude, isNumberChar character = true)
    {character : Char}
    (member :
      character ∈
        (String.ofList (if isNegative then '-' :: magnitude else magnitude)).toList) :
    isNumberChar character = true := by
  rw [String.toList_ofList] at member
  split at member
  · rcases List.mem_cons.1 member with rfl | inMagnitude
    · decide
    · exact numbers character inMagnitude
  · exact numbers character member

/-- A printed integer is a sign and digits. -/
theorem isNumberChar_of_mem_integerText
    {number : Int64}
    {character : Char}
    (member : character ∈ (integerText number).toList) :
    isNumberChar character = true :=
  isNumberChar_of_mem_signed (fun _ => isNumberChar_of_mem_toDigits) member

theorem isNumberChar_of_mem_positional
    {value : Number.Decimal}
    {character : Char}
    (member : character ∈ value.positional) :
    isNumberChar character = true := by
  have ofZeros {count : Nat} (inZeros : character ∈ List.replicate count '0') :
      isNumberChar character = true := by
    rw [(List.mem_replicate.1 inZeros).2]
    decide
  have ofPadded {count : Nat}
      (inPadded :
        character ∈ List.replicate count '0' ++ Nat.toDigits 10 value.significand) :
      isNumberChar character = true :=
    (List.mem_append.1 inPadded).elim ofZeros isNumberChar_of_mem_toDigits
  rw [Number.Decimal.positional] at member
  split at member
  · exact (List.mem_append.1 member).elim isNumberChar_of_mem_toDigits ofZeros
  · rcases List.mem_append.1 member with inFront | behind
    · exact ofPadded (List.mem_of_mem_take inFront)
    · rcases List.mem_cons.1 behind with rfl | inBack
      · decide
      · exact ofPadded (List.mem_of_mem_drop inBack)

/-- Numbers are printed with few characters, none of which needs quoting. -/
theorem Value.isNumberChar_of_mem_render
    {value : Value}
    (numeric : value.isNumeric = true)
    {character : Char}
    (member : character ∈ value.render.toList) :
    isNumberChar character = true := by
  have ofWord {word : String} (inWord : character ∈ word.toList)
      (numbers : word.toList.all isNumberChar = true) :
      isNumberChar character = true :=
    List.all_eq_true.1 numbers character inWord
  cases value with
  | identifier name => cases numeric
  | string text => cases numeric
  | integer number => exact isNumberChar_of_mem_integerText member
  | float number =>
      rw [render, Number.floatText] at member
      split at member
      · refine isNumberChar_of_mem_signed ?_ member
        intro found inMagnitude
        split at inMagnitude
        · rcases List.mem_append.1 inMagnitude with inDigits | inFraction
          · exact isNumberChar_of_mem_toDigits inDigits
          · exact List.all_eq_true.1 (by decide : ['.', '0'].all isNumberChar = true) found
              inFraction
        · exact isNumberChar_of_mem_positional inMagnitude
      · split at member
        · exact ofWord member (by decide)
        · split at member <;> exact ofWord member (by decide)

/-! ## Integers -/

/-- An integer that is not negative is printed as its digits. -/
theorem exists_digits_integerText
    {number : Int64}
    (nonneg : 0 ≤ number.toInt) :
    ∃ first rest,
      (integerText number).toList = first :: rest ∧
        Nat.toDigits 10 number.toInt.natAbs = first :: rest ∧
        ∀ digit ∈ first :: rest, isDigit digit = true := by
  rw [integerText, if_neg (Int.not_lt.2 nonneg), String.toList_ofList]
  cases digits : Nat.toDigits 10 number.toInt.natAbs with
  | nil =>
      exact absurd digits Nat.toDigits_ne_nil
  | cons first rest =>
      refine ⟨first, rest, rfl, rfl, ?_⟩
      rw [← digits]
      exact fun digit => isDigit_of_mem_toDigits

/-- Digits are read back as the number that they print. -/
theorem valueOfDigits_toDigits
    (number : Nat) :
    valueOfDigits 10 (Nat.toDigits 10 number) = number := by
  have folded (digits : List Char) (value : Nat)
      (allDigits : ∀ digit ∈ digits, isDigit digit = true) :
      digits.foldl (fun value digit => value * 10 + digitValue digit) value =
        Nat.ofDigitChars 10 digits value := by
    induction digits generalizing value with
    | nil =>
        rfl
    | cons digit rest restHypothesis =>
        rcases List.forall_mem_cons.1 allDigits with ⟨firstDigit, restDigits⟩
        rw [List.foldl_cons, restHypothesis _ restDigits, Nat.ofDigitChars_cons, digitValue,
          if_pos firstDigit, Nat.mul_comm]
  rw [valueOfDigits, folded _ _ fun digit => isDigit_of_mem_toDigits,
    Nat.ofDigitChars_ten_toDigits]

/-- Digits of a base are read as the number they write; a sign would be no digit of it. -/
theorem readNatural?_digits
    {base : Nat}
    (admissible : base ≤ 36)
    {digits : List Char}
    (nonempty : digits ≠ [])
    (small : ∀ digit ∈ digits, digitValue digit < base) :
    Number.readNatural? base digits = some (valueOfDigits base digits) := by
  have accepted : (!digits.isEmpty && digits.all fun digit => digitValue digit < base) = true := by
    simpa [nonempty] using small
  unfold Number.readNatural?
  split
  · have sign : digitValue '+' < base := small '+' List.mem_cons_self
    have notDigit : digitValue '+' = 36 := by decide
    omega
  · exact if_pos accepted

section Digits

variable
    {first : Char}
    {rest : List Char}
    (allDigits : ∀ digit ∈ first :: rest, isDigit digit = true)

include allDigits

theorem readSigned?_digits :
    Number.readSigned? (first :: rest) =
      if valueOfDigits 10 (first :: rest) < Number.signedBound then
        some (Int64.ofNat (valueOfDigits 10 (first :: rest)))
      else none := by
  have unsigned : first ≠ '-' := by
    rintro rfl
    exact absurd (allDigits '-' List.mem_cons_self) (by decide)
  have small : ∀ digit ∈ first :: rest, digitValue digit < 10 := by
    have checked : decimalDigits.all (fun digit => digitValue digit < 10) = true := by decide
    intro digit member
    exact of_decide_eq_true
      (List.all_eq_true.1 checked digit (mem_decimalDigits (allDigits digit member)))
  unfold Number.readSigned?
  split
  · rename_i same
    exact absurd (List.cons.inj same).1 unsigned
  · rename_i same
    exact absurd (List.cons.inj same).1 unsigned
  · rw [readNatural?_digits (by decide) (List.cons_ne_nil _ _) small]

/-- Digits that are no text of another base are read as far as they fit into a word. -/
theorem readInteger?_digits :
    Number.readInteger? (String.ofList (first :: rest)) =
      if valueOfDigits 10 (first :: rest) < Number.signedBound then
        some (Int64.ofNat (valueOfDigits 10 (first :: rest)))
      else none := by
  rw [Number.readInteger?, String.toList_ofList]
  split
  · rename_i mark digits same
    have isMember : mark ∈ first :: rest := by
      rw [same]
      simp
    have noBases : decimalDigits.all (fun digit => (Number.baseOfMark? digit).isNone) = true := by
      decide
    have noBase : Number.baseOfMark? mark = none :=
      Option.isNone_iff_eq_none.1
        (List.all_eq_true.1 noBases mark (mem_decimalDigits (allDigits mark isMember)))
    rw [noBase, ← same]
    exact readSigned?_digits allDigits
  · exact readSigned?_digits allDigits

end Digits

/-- A number that is not negative is read back from its decimal text. -/
theorem readInteger?_integerText
    {number : Int64}
    (nonneg : 0 ≤ number.toInt) :
    Number.readInteger? (integerText number) = some number := by
  rcases exists_digits_integerText nonneg with ⟨first, rest, spelled, digits, allDigits⟩
  have value : valueOfDigits 10 (first :: rest) = number.toInt.natAbs := by
    rw [← digits, valueOfDigits_toDigits]
  have inRange : valueOfDigits 10 (first :: rest) < Number.signedBound := by
    have := number.toInt_lt
    rw [value]
    show number.toInt.natAbs < 2 ^ 63
    omega
  rw [← String.ofList_toList (s := integerText number), spelled,
    readInteger?_digits allDigits, if_pos inRange, value, ← Int64.ofInt_eq_ofNat,
    Int.natAbs_of_nonneg nonneg, Int64.ofInt_toInt]

/-! ## Texts -/

/-- Whether the character is written between quotes by its code point. -/
def Text.Quoted.writtenByCodePoint (character : Char) : Bool :=
  (escapeLetter? character).isNone && (extendsGrapheme character || !isPrintable character)

/-- What a character that is written between quotes is read back as.  The escapes of a carriage
return and of a code point are not undone, so all that is lost of them is the backslash. -/
def Text.Quoted.readBack (character : Char) : List Char :=
  if character = '\r' then ['r']
  else if writtenByCodePoint character then
    'u' :: '\x7b' :: (hexDigits character.toNat ++ ['\x7d'])
  else [character]

/-- The three ways to write a character between quotes. -/
theorem encodeChar_cases
    (character : Char) :
    (∃ letter,
      escapeLetter? character = some letter ∧ encodeChar character = ['\\', letter]) ∨
    (escapeLetter? character = none ∧ writtenByCodePoint character = true ∧
      encodeChar character = '\\' :: 'u' :: '\x7b' :: (hexDigits character.toNat ++ ['\x7d'])) ∨
    (escapeLetter? character = none ∧ writtenByCodePoint character = false ∧
      encodeChar character = [character]) := by
  cases written : escapeLetter? character with
  | some letter =>
      simp [encodeChar, written]
  | none =>
      cases hidden : extendsGrapheme character || !isPrintable character with
      | true => simp [encodeChar, writtenByCodePoint, written, hidden]
      | false => simp [encodeChar, writtenByCodePoint, written, hidden]

theorem ne_of_escapeLetter?_eq_none
    {character : Char}
    (unescaped : escapeLetter? character = none) :
    character ≠ '"' ∧ character ≠ '\\' ∧ character ≠ '\r' := by
  refine ⟨?_, ?_, ?_⟩
  all_goals
    rintro rfl
    cases unescaped

/-- A code point is written in hexadecimal digits. -/
theorem isHexDigit_of_mem_hexDigits
    {digit : Char}
    {number : Nat}
    (member : digit ∈ hexDigits number) :
    isHexDigit digit = true := by
  have checked : ∀ value < 16, isHexDigit (Nat.digitChar value) = true := by decide
  induction number using Nat.strongRecOn with
  | ind number smaller =>
      rw [hexDigits, Nat.toDigits_eq_if (by decide)] at member
      split at member
      · rename_i small
        rw [List.mem_singleton.1 member]
        exact checked number small
      · rcases List.mem_append.1 member with inFront | isLast
        · exact smaller (number / 16) (by omega) inFront
        · rw [List.mem_singleton.1 isLast]
          exact checked (number % 16) (Nat.mod_lt _ (by decide))

/-- What is written for a code point behind the backslash and the letter needs no escapes. -/
theorem ne_of_mem_codePoint
    {character : Char}
    {number : Nat}
    (member : character ∈ '\x7b' :: (hexDigits number ++ ['\x7d'])) :
    character ≠ '"' ∧ character ≠ '\\' := by
  rcases List.mem_cons.1 member with rfl | member
  · decide
  rcases List.mem_append.1 member with isDigit | isLast
  · have digit := isHexDigit_of_mem_hexDigits isDigit
    constructor
    · rintro rfl
      exact absurd digit (by decide)
    · rintro rfl
      exact absurd digit (by decide)
  · rw [List.mem_singleton.1 isLast]
    decide

theorem matches_stringBody_encodeChar
    (character : Char) :
    Spelling.stringBody.Matches (encodeChar character) := by
  rcases encodeChar_cases character with ⟨letter, written, spelled⟩ | ⟨_, _, spelled⟩ |
    ⟨unescaped, _, spelled⟩
  · have notLineFeed : letter ≠ '\n' := by
      rintro rfl
      unfold escapeLetter? at written
      split at written <;> cases written
    rw [spelled]
    exact matches_stringBody_escaped notLineFeed .starNil
  · have plain (front : List Char) (allPlain : ∀ other ∈ front, other ≠ '"' ∧ other ≠ '\\') :
        Spelling.stringBody.Matches front := by
      induction front with
      | nil =>
          exact .starNil
      | cons first rest restHypothesis =>
          rcases List.forall_mem_cons.1 allPlain with ⟨firstPlain, restPlain⟩
          exact matches_stringBody_plain firstPlain.1 firstPlain.2 (restHypothesis restPlain)
    rw [spelled]
    exact matches_stringBody_escaped (by decide) (plain _ fun _ => ne_of_mem_codePoint)
  · rcases ne_of_escapeLetter?_eq_none unescaped with ⟨notQuote, notBackslash, _⟩
    rw [spelled]
    exact matches_stringBody_plain notQuote notBackslash .starNil

/-- What a text is encoded as can stand between quotes. -/
theorem matches_stringBody_encode
    (text : List Char) :
    Spelling.stringBody.Matches (encode text) := by
  induction text with
  | nil =>
      exact .starNil
  | cons character rest restHypothesis =>
      rw [encode, List.flatMap_cons]
      exact matches_stringBody_append (matches_stringBody_encodeChar character) restHypothesis

/-- Whatever the text and whatever follows it, its quoted form is taken as one token. -/
theorem longestMatch_quote
    (text back : List Char) :
    LongestMatch Lexeme.patterns (.token .string) ('"' :: encode text ++ ['"']) back := by
  have matched : Spelling.string.Matches (['"'] ++ (encode text ++ ['"'])) :=
    .seq (.oneOf rfl) (.seq (matches_stringBody_encode text) (.oneOf rfl))
  exact longestMatch_string matched back

theorem decode_append_of_not_mem
    {front : List Char}
    (unescaped : '\\' ∉ front)
    (back : List Char) :
    decode (front ++ back) = front ++ decode back := by
  induction front with
  | nil =>
      rfl
  | cons character rest restHypothesis =>
      rcases not_or.1 (mt List.mem_cons.2 unescaped) with ⟨notBackslash, restUnescaped⟩
      rw [List.cons_append, decode, restHypothesis restUnescaped, List.cons_append]
      intro _ _ isBackslash
      exact absurd isBackslash.symm notBackslash

/-- A character that was encoded is read back, whatever follows. -/
theorem decode_encodeChar_append
    (character : Char)
    (back : List Char) :
    decode (encodeChar character ++ back) = readBack character ++ decode back := by
  rcases encodeChar_cases character with ⟨letter, written, spelled⟩ |
    ⟨unescaped, byCodePoint, spelled⟩ | ⟨unescaped, notByCodePoint, spelled⟩
  · rw [spelled]
    unfold escapeLetter? at written
    split at written <;> cases written <;> rfl
  · have plain : '\\' ∉ '\x7b' :: (hexDigits character.toNat ++ ['\x7d']) :=
      fun member => (ne_of_mem_codePoint member).2 rfl
    rw [spelled, readBack, if_neg (ne_of_escapeLetter?_eq_none unescaped).2.2, if_pos byCodePoint]
    show 'u' :: decode ('\x7b' :: (hexDigits character.toNat ++ ['\x7d']) ++ back) = _
    rw [decode_append_of_not_mem plain]
    rfl
  · rcases ne_of_escapeLetter?_eq_none unescaped with ⟨_, notBackslash, notReturn⟩
    rw [spelled, readBack, if_neg notReturn, notByCodePoint, if_neg Bool.false_ne_true]
    exact decode_append_of_not_mem (by simpa using Ne.symm notBackslash) back

/-- A text that was quoted is read back character by character. -/
theorem decode_encode
    (text : List Char) :
    decode (encode text) = text.flatMap readBack := by
  induction text with
  | nil =>
      rfl
  | cons character rest restHypothesis =>
      rw [encode] at restHypothesis ⊢
      rw [List.flatMap_cons, List.flatMap_cons, decode_encodeChar_append, restHypothesis]

theorem toList_quote
    (text : String) :
    (quote text).toList = '"' :: encode text.toList ++ ['"'] :=
  String.toList_ofList

/-- What the token of a quoted text says. -/
theorem text_ofSource_quote
    (column : Nat)
    (text : String) :
    (Token.ofSource .string column (quote text).toList).text =
      String.ofList (text.toList.flatMap readBack) := by
  show String.ofList (decode (quote text).toList.tail.dropLast) = _
  rw [toList_quote, List.cons_append, List.tail_cons, List.dropLast_concat, decode_encode]

/-- A character is read back as itself unless it is a carriage return or written by its code
point. -/
theorem readBack_eq_singleton_iff
    (character : Char) :
    readBack character = [character] ↔
      character ≠ '\r' ∧ writtenByCodePoint character = false := by
  unfold readBack
  split
  · rename_i isReturn
    simp [isReturn]
  · rename_i notReturn
    split
    · rename_i byCodePoint
      simp [byCodePoint]
    · rename_i notByCodePoint
      simp [notReturn, notByCodePoint]

theorem length_le_length_flatMap_readBack
    (text : List Char) :
    text.length ≤ (text.flatMap readBack).length := by
  induction text with
  | nil =>
      exact Nat.le_refl 0
  | cons character rest restHypothesis =>
      have nonempty : 0 < (readBack character).length := by
        unfold readBack
        split
        · exact Nat.one_pos
        · split <;> exact Nat.succ_pos _
      rw [List.flatMap_cons, List.length_append, List.length_cons]
      omega

/-- A text is read back as it was exactly if each of its characters is. -/
theorem flatMap_readBack_eq_iff
    (text : List Char) :
    text.flatMap readBack = text ↔
      ∀ character ∈ text, character ≠ '\r' ∧ writtenByCodePoint character = false := by
  induction text with
  | nil =>
      simp
  | cons character rest restHypothesis =>
      rw [List.flatMap_cons, List.forall_mem_cons, ← restHypothesis, ← readBack_eq_singleton_iff]
      constructor
      · intro same
        -- No character is lost, so what the first one gives is one character.
        have fewer := length_le_length_flatMap_readBack rest
        have lengths := congrArg List.length same
        rw [List.length_append, List.length_cons] at lengths
        have alone : (readBack character).length = [character].length := by
          have positive := length_le_length_flatMap_readBack [character]
          simp only [List.flatMap_singleton, List.length_singleton] at positive ⊢
          omega
        rw [← List.singleton_append] at same
        exact List.append_inj same alone
      · rintro ⟨first, others⟩
        rw [first, others]
        rfl

/-- The quoted form of the text has no escapes but `\0`, `\t`, `\n`, `\\` and `\"`. -/
def PlainlyQuoted (text : List Char) : Prop :=
  ∀ character ∈ text,
    encodeChar character = [character] ∨
      ∃ letter ∈ ['0', 't', 'n', '\\', '"'], encodeChar character = ['\\', letter]

/-- A text of such characters is read back as itself. -/
theorem PlainlyQuoted.flatMap_readBack
    {text : List Char}
    (plain : PlainlyQuoted text) :
    text.flatMap readBack = text := by
  refine (flatMap_readBack_eq_iff text).2 fun character member => ⟨?_, ?_⟩
  · rintro rfl
    have admitted := plain '\r' member
    rw [show encodeChar '\r' = ['\\', 'r'] from rfl] at admitted
    simp at admitted
  · rcases encodeChar_cases character with ⟨letter, written, _⟩ | ⟨_, _, spelled⟩ |
      ⟨_, notByCodePoint, _⟩
    · rw [writtenByCodePoint, written]
      rfl
    · -- An escape with a code point is longer than any that is admitted.
      have admitted := plain character member
      rw [spelled] at admitted
      simp at admitted
    · exact notByCodePoint

/-! ## Values and variables -/

theorem EndsOperand.isBareNameChar_eq_false
    {back : List Char}
    (ended : EndsOperand back) :
    ∀ next ∈ back.head?, isBareNameChar next = false := by
  intro next isNext
  rcases ended next isNext with rfl | rfl
  · decide
  · decide

theorem EndsOperand.isNameChar_eq_false
    {back : List Char}
    (ended : EndsOperand back) :
    ∀ next ∈ back.head?, isNameChar next = false := by
  intro next isNext
  exact (Bool.or_eq_false_iff.1 (ended.isBareNameChar_eq_false next isNext)).1

/-- A letter or an underscore, and then characters that a name may go on with. -/
def IsName (goesOn : Char → Bool) (name : String) : Prop :=
  ∃ first rest,
    name.toList = first :: rest ∧ isNameStart first = true ∧
      ∀ character ∈ rest, goesOn character = true

/-- The values whose printed form is one literal, which stands for the same value. -/
def Value.Readable : Value → Prop
  | .identifier name => IsName isBareNameChar name
  | .integer number => 0 ≤ number.toInt
  | .float _ => False
  | .string text => PlainlyQuoted text.toList

/-- The source is scanned as one token, which stands for the tree up to its columns. -/
def ScansAsLeaf (source back : List Char) (tree : Span → Expr) : Prop :=
  ∃ kind,
    LongestMatch Lexeme.patterns (.token kind) source back ∧
      ∀ column,
        LeafToken (Token.ofSource kind column source)
          (tree (Token.ofSource kind column source).span)

/-- A readable value is printed as one token, which stands for it. -/
theorem Value.Readable.scansAsLeaf
    {value : Value}
    (readable : value.Readable)
    {back : List Char}
    (ended : EndsOperand back) :
    ScansAsLeaf value.render.toList back (.literal value) := by
  cases value with
  | identifier name =>
      rcases readable with ⟨first, rest, spelled, starts, goesOn⟩
      refine ⟨.identifier, ?_, ?_⟩
      · show LongestMatch _ _ name.toList back
        rw [spelled]
        exact longestMatch_identifier starts goesOn ended.isBareNameChar_eq_false
      · intro column
        have leaf : LeafToken (Token.ofSource .identifier column name.toList) _ :=
          .identifier rfl
        have text : (Token.ofSource .identifier column name.toList).text = name :=
          String.ofList_toList
        rw [text] at leaf
        exact leaf
  | integer number =>
      rcases exists_digits_integerText readable with ⟨first, rest, spelled, _, allDigits⟩
      refine ⟨.integer, ?_, ?_⟩
      · show LongestMatch _ _ (integerText number).toList back
        rw [spelled]
        rcases List.forall_mem_cons.1 allDigits with ⟨firstDigit, restDigits⟩
        exact longestMatch_digits firstDigit restDigits ended
      · intro column
        apply LeafToken.integer rfl
        show Number.readInteger? (String.ofList (integerText number).toList) = some number
        rw [String.ofList_toList, readInteger?_integerText readable]
  | float number =>
      exact readable.elim
  | string text =>
      refine ⟨.string, ?_, ?_⟩
      · show LongestMatch _ _ (quote text).toList back
        rw [toList_quote]
        exact longestMatch_quote text.toList back
      · intro column
        have leaf : LeafToken (Token.ofSource .string column (quote text).toList) _ :=
          .string rfl
        rw [text_ofSource_quote, PlainlyQuoted.flatMap_readBack readable,
          String.ofList_toList] at leaf
        exact leaf

/-- So is a variable. -/
theorem IsName.scansAsLeaf
    {name : String}
    (isName : IsName isNameChar name)
    {back : List Char}
    (ended : EndsOperand back) :
    ScansAsLeaf ('$' :: name.toList) back (.reference name) := by
  rcases isName with ⟨first, rest, spelled, starts, goesOn⟩
  refine ⟨.reference, ?_, ?_⟩
  · rw [spelled]
    exact longestMatch_reference starts goesOn ended.isNameChar_eq_false
  · intro column
    have leaf : LeafToken (Token.ofSource .reference column ('$' :: name.toList)) _ :=
      .reference rfl
    have text : (Token.ofSource .reference column ('$' :: name.toList)).text = name :=
      String.ofList_toList
    rw [text] at leaf
    exact leaf

end AsmShell
